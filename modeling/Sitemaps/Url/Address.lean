import Sitemaps.Text.Ascii

/-! Internet addresses as hosts: the spellings they may have, and the one they are written in. -/

namespace Sitemaps.Url

def cutAt (mark : Char) : List Char → List (List Char)
  | [] => [[]]
  | c :: rest =>
    match cutAt mark rest with
    | [] => [[c]]
    | piece :: pieces => if c == mark then [] :: piece :: pieces else (c :: piece) :: pieces

def joinText (between : String) (texts : List String) : String := between.intercalate texts

namespace Ipv4

inductive Part
  | number (n : Nat)
  | tooLarge
  | other
  deriving DecidableEq, Repr

def digits? (base : Nat) (text : List Char) : Option (List Nat) :=
  text.mapM fun c => (Text.hexValue? c).filter (· < base)

def part (text : List Char) : Part :=
  let (base, digits) := match text with
    | '0' :: 'x' :: rest => (16, rest)
    | '0' :: 'X' :: rest => (16, rest)
    | '0' :: c :: rest => (8, c :: rest)
    | text => (10, text)
  if text.isEmpty then .other
  else
    match digits? base digits with
    | none => .other
    | some digits =>
      let n := Text.ofDigits base digits
      if n < UInt32.size then .number n else .tooLarge

def number? (text : List Char) : Option Nat :=
  match part text with
  | .number n => some n
  | _ => none

def parts (text : List Char) : List (List Char) :=
  let cut := cutAt '.' text
  if cut.getLast? == some [] then cut.dropLast else cut

/-- A host is taken for an address if its last part is a number. -/
def endsInNumber (text : List Char) : Bool :=
  match (parts text).getLast? with
  | none => false
  | some last => (!last.isEmpty && last.all Char.isDigit) || part last != .other

/-- Every part but the last fills one byte, and the last fills the rest. -/
def combine : Nat → List Nat → Option Nat
  | _, [] => none
  | room, [last] => if last < Nat.pow 256 room then some last else none
  | room, n :: rest =>
    if n < 256 then (combine (room - 1) rest).map (n * Nat.pow 256 (room - 1) + ·) else none

def address? (text : List Char) : Option Nat :=
  let parts := parts text
  if 4 < parts.length then none else (parts.mapM number?).bind (combine 4)

def text (address : Nat) : String :=
  joinText "." ([3, 2, 1, 0].map fun place => toString (address / Nat.pow 256 place % 256))

end Ipv4

namespace Ipv6

def group? (text : List Char) : Option Nat :=
  if text.isEmpty || 4 < text.length then none
  else (Ipv4.digits? 16 text).map (Text.ofDigits 16)

def byte? (text : List Char) : Option Nat :=
  match text with
  | [] => none
  | '0' :: _ :: _ => none
  | _ =>
    if 3 < text.length then none
    else ((Ipv4.digits? 10 text).map (Text.ofDigits 10)).filter (· < 256)

/-- The last two groups may be written as four bytes. -/
def dotted? (text : List Char) : Option (List Nat) :=
  match (cutAt '.' text).mapM byte? with
  | some [a, b, c, d] => some [a * 256 + b, c * 256 + d]
  | _ => none

def groups? : List (List Char) → Option (List Nat)
  | [] => some []
  | [last] => ((group? last).map ([·])) <|> dotted? last
  | text :: rest => do some ((← group? text) :: (← groups? rest))

def side? (text : List Char) : Option (List Nat) :=
  if text.isEmpty then some [] else groups? (cutAt ':' text)

def cutAtGap (before : List Char) : List Char → Option (List Char × List Char)
  | ':' :: ':' :: rest => some (before.reverse, rest)
  | c :: rest => cutAtGap (c :: before) rest
  | [] => none

/-- Eight groups; one `::` stands for the zeros that are missing, of which there is at least one. -/
def address? (text : List Char) : Option (List Nat) :=
  match cutAtGap [] text with
  | none => (side? text).filter (·.length = 8)
  | some (left, right) => do
    let before ← if left.contains '.' then none else side? left
    let after ← side? right
    let known := before.length + after.length
    if known ≤ 7 then some (before ++ List.replicate (8 - known) 0 ++ after) else none

def gap (groups : List Nat) : Option (Nat × Nat) :=
  let runs := (List.range groups.length).map fun start =>
    (start, ((groups.drop start).takeWhile (· == 0)).length)
  runs.foldl (fun best run =>
    if run.2 < 2 then best
    else match best with
      | none => some run
      | some known => if known.2 < run.2 then some run else best) none

def groupText (n : Nat) : String := String.ofList (Nat.toDigits 16 n)

def text (groups : List Nat) : String :=
  let written (groups : List Nat) := joinText ":" (groups.map groupText)
  match gap groups with
  | none => written groups
  | some (start, length) =>
    written (groups.take start) ++ "::" ++ written (groups.drop (start + length))

end Ipv6

end Sitemaps.Url
