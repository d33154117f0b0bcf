import Sitemaps.Url.Host
import Sitemaps.Url.Path

/-!
Reading URLs, alone or relative to a base. Blanks and controls around the text and line breaks
within it do not count.
-/

namespace Sitemaps.Url

def isEdge (c : Char) : Bool := c.toNat ≤ 0x20
def isBreak (c : Char) : Bool := c == '\t' || c == '\n' || c == '\r'

def cleaned (text : List Char) : List Char :=
  ((text.dropWhile isEdge).reverse.dropWhile isEdge).reverse.filter (!isBreak ·)

def isSchemeChar (c : Char) : Bool := c.isAlphanum || c == '+' || c == '-' || c == '.'

def scheme? (text : List Char) : Option (String × List Char) :=
  match text.head? with
  | none => none
  | some first =>
    let name := text.takeWhile isSchemeChar
    match text.drop name.length with
    | ':' :: rest =>
      if first.isAlpha then some (String.ofList (name.map Char.toLower), rest) else none
    | _ => none

def endsPath (c : Char) : Bool := c == '?' || c == '#'
def isSlash (c : Char) : Bool := c == '/' || c == '\\'

def queryAndFragment (kind : Kind) : List Char → Option String × Option String
  | '?' :: rest =>
    let set := if kind.isSpecial then specialQuerySet else querySet
    let query := String.ofList (percentEncode set (rest.takeWhile (· != '#')))
    (some query, fragmentOf (rest.dropWhile (· != '#')))
  | text => (none, fragmentOf text)
where
  fragmentOf : List Char → Option String
    | '#' :: rest => some (String.ofList (percentEncode fragmentSet rest))
    | _ => none

def finish (scheme : String) (authority : Option Authority) (path : Path) (rest : List Char) :
    Url :=
  let (query, fragment) := queryAndFragment (kindOf scheme) rest
  ⟨scheme, authority, path, query, fragment⟩

def pathText (text : List Char) : List Char := text.takeWhile (!endsPath ·)
def afterPath (text : List Char) : List Char := text.dropWhile (!endsPath ·)

def endsAuthority (kind : Kind) (c : Char) : Bool :=
  isSeparator kind c || endsPath c

def cutUserinfo (text : List Char) : Option (List Char) × List Char :=
  let host := (text.reverse.takeWhile (· != '@')).reverse
  if host.length = text.length then (none, text)
  else (some (text.take (text.length - host.length - 1)), host)

def credentials (userinfo : List Char) : String × String :=
  let name := userinfo.takeWhile (· != ':')
  let password := (userinfo.dropWhile (· != ':')).drop 1
  (String.ofList (percentEncode userinfoSet name),
    String.ofList (percentEncode userinfoSet password))

/-- The host ends at the first colon outside brackets. -/
def hostText (inside : Bool) : List Char → List Char
  | [] => []
  | c :: rest =>
    if c == ':' && !inside then []
    else c :: hostText (if c == '[' then true else if c == ']' then false else inside) rest

/-- Digits up to 65535; the default port of the scheme is left out. A backslash ends a port. -/
def port? (scheme : String) (text : List Char) : Except Fault (Option Nat) :=
  if text.isEmpty then .ok none
  else if text.all Char.isDigit then
    let port := Text.ofDigits 10 (text.map (fun c => c.toNat - 48))
    if 65535 < port then .error .badPort
    else .ok (if defaultPort? scheme = some port then none else some port)
  else .error .badPort

def readAuthority (scheme : String) (text : List Char) : Except Fault (Authority × List Char) := do
  let kind := kindOf scheme
  let inside := text.takeWhile (!endsAuthority kind ·)
  let after := text.dropWhile (!endsAuthority kind ·)
  let (userinfo, hostAndPort) := cutUserinfo inside
  if userinfo == some [] && hostAndPort.isEmpty && !after.isEmpty then .error .emptyHost
  let (username, password) := credentials (userinfo.getD [])
  let named := hostText false hostAndPort
  let portPart := hostAndPort.drop named.length
  if named.isEmpty && kind.isSpecial then .error .emptyHost
  let host ← if kind.isSpecial then specialHost named else plainHost named
  if named.isEmpty && !portPart.isEmpty then .error .emptyHost
  let portText := (portPart.drop 1).takeWhile (!isSlash ·)
  let port ← port? scheme portText
  if named.isEmpty && !(username.isEmpty && password.isEmpty) then .error .emptyHost
  .ok (⟨username, password, host, port⟩, (portPart.drop 1).drop portText.length ++ after)

/-- The path after an authority starts with a slash, written or not; only a plain URL may lack it.
-/
def pathAfterAuthority (kind : Kind) (text : List Char) : Path :=
  match text with
  | [] => if kind.isSpecial then .segments [""] else .segments []
  | c :: rest => Path.ofNames (follow kind [] (if isSeparator kind c then rest else text))

def afterSlashes (scheme : String) (text : List Char) : Except Fault Url := do
  let (authority, rest) ← readAuthority scheme text
  let path := pathAfterAuthority (kindOf scheme) (pathText rest)
  .ok (finish scheme (some authority) path (afterPath rest))

def localAuthority (host : Host) : Authority := ⟨"", "", host, none⟩

def fileUrl (host : Host) (names : List (List Char)) (text : List Char) : Url :=
  let names := follow .file names (pathText text)
  let host := if namesDrive .file (pathText text) then .empty else host
  finish "file" (some (localAuthority host)) (Path.ofNames names) (afterPath text)

def startsWithDrive : List Char → Bool
  | letter :: mark :: rest =>
    isDrive [letter, mark] && (rest.head?.map fun c => isSlash c || endsPath c).getD true
  | _ => false

def hostOf (url : Url) : Host := (url.authority.map (·.host)).getD .empty

def fileWithHost (text : List Char) : Except Fault Url := do
  let named := text.takeWhile fun c => !(isSlash c || endsPath c)
  if isDrive named then .ok (fileUrl .empty [] text)
  else
    let rest := text.drop named.length
    let host ← fileHost named
    let rest := match host, rest with
      | .empty, rest => rest
      | _, c :: tail => if isSlash c then tail else rest
      | _, [] => []
    .ok (fileUrl host [] rest)

def directoryNames (url : Url) : List (List Char) := url.path.names.dropLast

/-- The directory of a file, which a drive letter at the end is part of. -/
def fileDirectory (url : Url) : List (List Char) :=
  match url.path.names.getLast? with
  | some last => if isWrittenDrive last then url.path.names else url.path.names.dropLast
  | none => []

def withFragment (base : Url) (text : List Char) : Url :=
  { base with fragment := (queryAndFragment (kindOf base.scheme) text).2 }

def withQuery (base : Url) (text : List Char) : Url :=
  let (query, fragment) := queryAndFragment (kindOf base.scheme) text
  { base with query := query, fragment := fragment }

def driveOf (base : Url) : List (List Char) :=
  match base.path.names.head? with
  | some first => if isWrittenDrive first then [first] else []
  | none => []

def fileRelative (base : Option Url) (text : List Char) : Except Fault Url :=
  match text with
  | a :: b :: rest =>
    if isSlash a && isSlash b then fileWithHost rest
    else if isSlash a then .ok (fromTop base (b :: rest))
    else .ok (fromBase base text)
  | [a] => if isSlash a then .ok (fromTop base []) else .ok (fromBase base text)
  | [] => .ok (fromBase base [])
where
  fromTop (base : Option Url) (text : List Char) : Url :=
    match base with
    | none => fileUrl .empty [] text
    | some base =>
      if startsWithDrive text then fileUrl .empty [] text
      else if (driveOf base).isEmpty then
        finish "file" (some (localAuthority (hostOf base)))
          (Path.ofNames (follow .file [] (pathText text))) (afterPath text)
      else fileUrl .empty (driveOf base) text
  fromBase (base : Option Url) (text : List Char) : Url :=
    match base, text with
    | none, _ => fileUrl .empty [] text
    | some base, [] => { base with fragment := none }
    | some base, '?' :: _ => base.withQuery text
    | some base, '#' :: _ => base.withFragment text
    | some base, _ =>
      if startsWithDrive text then fileUrl .empty [] text
      else
        finish "file" base.authority
          (Path.ofNames (follow .file base.fileDirectory (pathText text))) (afterPath text)

def relative (base : Url) (text : List Char) : Except Fault Url :=
  match text with
  | [] => .ok { base with fragment := none }
  | '?' :: _ => .ok (base.withQuery text)
  | '#' :: _ => .ok (base.withFragment text)
  | a :: rest =>
    if isSlash a then
      match text, rest with
      | '/' :: '/' :: after, _ => afterSlashes base.scheme after
      | _, b :: _ =>
        if isSlash b then afterSlashes base.scheme (text.dropWhile isSlash)
        else .ok (fromDirectory [] rest)
      | _, [] => .ok (fromDirectory [] rest)
    else .ok (fromDirectory base.directoryNames text)
where
  fromDirectory (names : List (List Char)) (text : List Char) : Url :=
    finish base.scheme base.authority
      (Path.ofNames (follow (kindOf base.scheme) names (pathText text))) (afterPath text)

def plainUrl (scheme : String) (text : List Char) : Except Fault Url :=
  match text with
  | '/' :: '/' :: rest => afterSlashes scheme rest
  | '/' :: rest =>
    .ok (finish scheme none (Path.ofNames (follow .plain [] (pathText rest))) (afterPath rest))
  | _ =>
    .ok (finish scheme none (.rigid (String.ofList (percentEncode controlSet (pathText text))))
      (afterPath text))

def absolute (base : Option Url) (scheme : String) (text : List Char) : Except Fault Url :=
  match kindOf scheme with
  | .file => fileRelative (base.filter (·.scheme = "file")) text
  | .plain => plainUrl scheme text
  | .special =>
    let slashes := (text.takeWhile isSlash).length
    match base with
    | some base =>
      if slashes < 2 && base.scheme = scheme then relative base text
      else afterSlashes scheme (text.drop slashes)
    | none => afterSlashes scheme (text.drop slashes)

def parseWith (base : Option Url) (text : String) : Except Fault Url :=
  let text := cleaned text.toList
  match scheme? text with
  | some (scheme, rest) => absolute base scheme rest
  | none =>
    match base with
    | none => .error .noBase
    | some base =>
      if text.head? == some '#' then .ok (base.withFragment text)
      else
        match base.path, kindOf base.scheme with
        | .rigid _, _ => .error .rigidBase
        | _, .file => fileRelative (some base) text
        | _, _ => relative base text

def parse (text : String) : Except Fault Url := parseWith none text

def join (base : Url) (text : String) : Except Fault Url := parseWith (some base) text

end Sitemaps.Url
