import Sitemaps.Text.Ascii

/-!
The small parts of a configuration text: blanks, comments, keys and strings. A carriage return is
read as part of the line end after it, and is a fault everywhere else.
-/

namespace Sitemaps.Toml

/-- Reads something from the start of a text, and gives the rest; none if the text is not so. -/
abbrev Scan (α : Type) := List Char → Option (α × List Char)

def isSpace (c : Char) : Bool := c == ' ' || c == '\t'

/-- Characters that may stand in comments and, but for quotes and backslashes, in strings. -/
def isPlain (c : Char) : Bool := c == '\t' || (0x20 ≤ c.toNat && c.toNat != 0x7F)

def skipSpaces (text : List Char) : List Char := text.dropWhile isSpace

def joinLineEnds : List Char → List Char
  | [] => []
  | '\r' :: '\n' :: rest => '\n' :: joinLineEnds rest
  | c :: rest => c :: joinLineEnds rest

def lineEnd? : List Char → Option (List Char)
  | '\n' :: rest => some rest
  | _ => none

def skipComment : List Char → List Char
  | '#' :: rest => rest.dropWhile isPlain
  | text => text

def restOfLine? (text : List Char) : Option (List Char) :=
  match skipComment (skipSpaces text) with
  | [] => some []
  | rest => lineEnd? rest

/-- Skips blanks, comments and line ends; a comment has to end with its line. -/
def skipLines : Nat → List Char → Option (List Char)
  | 0, text => some text
  | room + 1, text =>
    match skipSpaces text with
    | '#' :: rest => (lineEnd? (rest.dropWhile isPlain)).bind (skipLines room)
    | '\n' :: rest => skipLines room rest
    | rest => some rest

def skipGap (text : List Char) : Option (List Char) := skipLines text.length text

def shortEscape? : Char → Option Char
  | 'b' => some (Char.ofNat 8)
  | 't' => some '\t'
  | 'n' => some '\n'
  | 'f' => some (Char.ofNat 12)
  | 'r' => some '\r'
  | '"' => some '"'
  | '\\' => some '\\'
  | _ => none

def scalar? (digits : List Char) : Option Char :=
  (digits.mapM Text.hexValue?).bind fun values =>
    let code := Text.ofDigits 16 values
    if code.isValidChar then some (Char.ofNat code) else none

def escape? : Scan Char
  | 'u' :: rest =>
    if rest.length < 4 then none else (scalar? (rest.take 4)).map (·, rest.drop 4)
  | 'U' :: rest =>
    if rest.length < 8 then none else (scalar? (rest.take 8)).map (·, rest.drop 8)
  | c :: rest => (shortEscape? c).map (·, rest)
  | [] => none

theorem escape_shorter {text rest : List Char} {c : Char} (read : escape? text = some (c, rest)) :
    rest.length ≤ text.length := by
  unfold escape? at read
  split at read
  · split at read
    · cases read
    · simp only [Option.map_eq_some_iff, Prod.mk.injEq] at read
      obtain ⟨_, _, _, after⟩ := read
      rw [← after]
      simp
      omega
  · split at read
    · cases read
    · simp only [Option.map_eq_some_iff, Prod.mk.injEq] at read
      obtain ⟨_, _, _, after⟩ := read
      rw [← after]
      simp
      omega
  · simp only [Option.map_eq_some_iff, Prod.mk.injEq] at read
    obtain ⟨_, _, _, after⟩ := read
    rw [← after]
    simp
  · cases read

def quotedFrom (read : List Char) : Scan String
  | [] => none
  | '"' :: rest => some (String.ofList read.reverse, rest)
  | '\\' :: rest =>
    match _read : escape? rest with
    | none => none
    | some (c, after) => quotedFrom (c :: read) after
  | c :: rest => if isPlain c then quotedFrom (c :: read) rest else none
  termination_by text => text.length
  decreasing_by
    · have := escape_shorter _read
      simp
      omega
    · simp

def literal? (text : List Char) : Option (String × List Char) :=
  let inside := text.takeWhile fun c => isPlain c && c != '\''
  match text.drop inside.length with
  | '\'' :: rest => some (String.ofList inside, rest)
  | _ => none

/-- At the end of a string over several lines, up to two quotes more than needed belong to it. -/
def closing (quote : Char) (read rest : List Char) : String × List Char :=
  let extra := min 2 (rest.takeWhile (· == quote)).length
  (String.ofList (List.replicate extra quote ++ read).reverse, rest.drop extra)

def skipBlanks (text : List Char) : List Char :=
  text.dropWhile fun c => isSpace c || c == '\n'

/-- The rest of a string in three double quotes each; a backslash at the end of a line joins the
lines. -/
def blockFrom (read : List Char) : Scan String
  | [] => none
  | '"' :: '"' :: '"' :: rest => some (closing '"' read rest)
  | '\\' :: rest =>
    match skipSpaces rest with
    | '\n' :: _ => blockFrom read (skipBlanks rest)
    | _ =>
      match _read : escape? rest with
      | none => none
      | some (c, after) => blockFrom (c :: read) after
  | c :: rest => if isPlain c || c == '\n' then blockFrom (c :: read) rest else none
  termination_by text => text.length
  decreasing_by
    · have := (List.dropWhile_sublist (fun c => isSpace c || c == '\n') (l := rest)).length_le
      simp [skipBlanks]
      omega
    · have := escape_shorter _read
      simp
      omega
    · simp

def literalBlockFrom (read : List Char) : Scan String
  | [] => none
  | '\'' :: '\'' :: '\'' :: rest => some (closing '\'' read rest)
  | c :: rest => if isPlain c || c == '\n' then literalBlockFrom (c :: read) rest else none

def afterLineEnd (text : List Char) : List Char := (lineEnd? text).getD text

def string? : Scan String
  | '"' :: '"' :: '"' :: rest => blockFrom [] (afterLineEnd rest)
  | '\'' :: '\'' :: '\'' :: rest => literalBlockFrom [] (afterLineEnd rest)
  | '"' :: rest => quotedFrom [] rest
  | '\'' :: rest => literal? rest
  | _ => none

def isBare (c : Char) : Bool :=
  ('a' ≤ c && c ≤ 'z') || ('A' ≤ c && c ≤ 'Z') || ('0' ≤ c && c ≤ '9') || c == '-' || c == '_'

def key? (text : List Char) : Option (String × List Char) :=
  match text with
  | '"' :: rest => quotedFrom [] rest
  | '\'' :: rest => literal? rest
  | _ =>
    let bare := text.takeWhile isBare
    if bare.isEmpty then none else some (String.ofList bare, text.drop bare.length)

def keysFrom : Nat → Scan (List String)
  | 0, _ => none
  | room + 1, text =>
    match key? (skipSpaces text) with
    | none => none
    | some (key, rest) =>
      match skipSpaces rest with
      | '.' :: rest => (keysFrom room rest).map fun (keys, rest) => (key :: keys, rest)
      | rest => some ([key], rest)

end Sitemaps.Toml
