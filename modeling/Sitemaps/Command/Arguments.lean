/-! The arguments of the command line. -/

namespace Sitemaps.Command

structure Options where
  config : String
  verbose : Nat
  quiet : Bool
  fresh : Bool
  dryRun : Bool
  stats : Bool
  deriving DecidableEq, Repr

inductive Request
  | help
  | version
  | run (options : Options)
  | misuse
  deriving DecidableEq, Repr

inductive Flag
  | verbose | quiet | fresh | dryRun | stats | help | version
  deriving DecidableEq, Repr

def flagNames : List (String × Flag) :=
  [("verbose", .verbose), ("quiet", .quiet), ("fresh", .fresh), ("dry-run", .dryRun),
    ("stats", .stats), ("help", .help), ("version", .version)]

def flagLetters : List (Char × Flag) :=
  [('v', .verbose), ('q', .quiet), ('h', .help), ('V', .version)]

structure Given where
  config : Option String
  flags : List Flag

/-- The only flag that may be given more than once. -/
def Flag.repeats (flag : Flag) : Bool := flag = .verbose

def Given.take (given : Given) (flag : Flag) : Except Request Given :=
  match flag with
  | .help => .error .help
  | .version => .error .version
  | _ =>
    if given.flags.contains flag && !flag.repeats then .error .misuse
    else .ok { given with flags := flag :: given.flags }

def Given.takeLetters (given : Given) : List Char → Except Request Given
  | [] => .ok given
  | letter :: rest =>
    match flagLetters.lookup letter with
    | none => .error .misuse
    | some flag => (given.take flag).bind (·.takeLetters rest)

def Given.takeName (given : Given) (name : List Char) : Except Request Given :=
  match flagNames.lookup (String.ofList name) with
  | none => .error .misuse
  | some flag => given.take flag

def Given.takeValue (given : Given) (value : String) : Except Request Given :=
  if value.isEmpty || given.config.isSome then .error .misuse
  else .ok { given with config := some value }

def Given.takeArgument (given : Given) (argument : String) : Except Request Given :=
  match argument.toList with
  | '-' :: '-' :: name => given.takeName name
  | '-' :: letter :: letters => given.takeLetters (letter :: letters)
  | _ => given.takeValue argument

/-- After a bare double dash everything is a value. -/
def Given.takeAll (given : Given) : List String → Except Request Given
  | [] => .ok given
  | "--" :: values => values.foldlM Given.takeValue given
  | argument :: rest => (given.takeArgument argument).bind (·.takeAll rest)

def Given.conflicts (given : Given) : Bool :=
  (given.flags.contains .quiet && given.flags.contains .verbose) ||
    (given.flags.contains .dryRun && given.flags.contains .stats)

def Given.request (given : Given) : Request :=
  match given.config with
  | none => .misuse
  | some config =>
    if given.conflicts then .misuse
    else
      .run
        { config := config
          verbose := given.flags.count .verbose
          quiet := given.flags.contains .quiet
          fresh := given.flags.contains .fresh
          dryRun := given.flags.contains .dryRun
          stats := given.flags.contains .stats }

def Request.parse (arguments : List String) : Request :=
  match Given.takeAll ⟨none, []⟩ arguments with
  | .error request => request
  | .ok given => given.request

end Sitemaps.Command
