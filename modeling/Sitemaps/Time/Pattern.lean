import Sitemaps.Text.Blank
import Sitemaps.Text.Ascii
import Sitemaps.Time.Instant

/-!
Date and time read by a pattern of items. Numbers may have fewer digits than their item is wide and
blanks before them; a year may carry a sign and then any number of digits.
-/

namespace Sitemaps.Time

inductive Item
  | year | month | day | hour | minute | second
  /-- A point and digits, or nothing. -/
  | fraction
  | offset
  | mark (c : Char)
  deriving DecidableEq, Repr

structure Fields where
  year : Int := 0
  month : Nat := 0
  day : Nat := 0
  hour : Nat := 0
  minute : Nat := 0
  second : Nat := 0
  nanos : Nat := 0
  offset : Int := 0

def Fields.date (fields : Fields) : Date := ⟨fields.year, fields.month, fields.day⟩

def Fields.clock (fields : Fields) : Clock :=
  ⟨fields.hour, fields.minute, fields.second, fields.nanos⟩

def Fields.instant? (fields : Fields) : Option Instant :=
  Instant.ofLocal? fields.date fields.clock fields.offset

def digitsValue (digits : List Char) : Nat := Text.ofDigits 10 (digits.map (fun c => c.toNat - 48))

def number? (least most : Nat) (text : List Char) : Option (Nat × List Char) :=
  let digits := (text.take most).takeWhile Char.isDigit
  if least ≤ digits.length then some (digitsValue digits, text.drop digits.length) else none

def longNumber? (text : List Char) : Option (Nat × List Char) := number? 1 text.length text

/-- Nanoseconds from the digits after a point; digits beyond the ninth are dropped. -/
def nanos? (text : List Char) : Option (Nat × List Char) :=
  let digits := text.takeWhile Char.isDigit
  if digits.isEmpty then none
  else
    let kept := digits.take 9
    some (digitsValue kept * Nat.pow 10 (9 - kept.length), text.drop digits.length)

def year? : List Char → Option (Int × List Char)
  | '-' :: rest => (longNumber? rest).map (fun (n, rest) => (-(n : Int), rest))
  | '+' :: rest => (longNumber? rest).map (fun (n, rest) => ((n : Int), rest))
  | text => (number? 1 4 text).map (fun (n, rest) => ((n : Int), rest))

def minusSign : Char := Char.ofNat 0x2212

def offset? (between : List Char → Option (List Char)) (text : List Char) :
    Option (Int × List Char) := do
  let (negative, text) ← match text with
    | '+' :: rest => some (false, rest)
    | c :: rest => if c == '-' || c == minusSign then some (true, rest) else none
    | [] => none
  let (hours, text) ← number? 2 2 text
  let text ← between text
  let (minutes, text) ← number? 2 2 text
  if 60 ≤ minutes then none
  let size : Int := hours * 3600 + minutes * 60
  some (if negative then -size else size, text)

def colonsAndBlanks (text : List Char) : Option (List Char) :=
  some (text.dropWhile (fun c => c == ':' || Text.isBlank c))

def Item.read (item : Item) (fields : Fields) (text : List Char) : Option (Fields × List Char) :=
  let short (store : Nat → Fields) :=
    (number? 1 2 (Text.trimLeft text)).map (fun (n, rest) => (store n, rest))
  match item with
  | .year => (year? (Text.trimLeft text)).map (fun (n, rest) => ({ fields with year := n }, rest))
  | .month => short (fun n => { fields with month := n })
  | .day => short (fun n => { fields with day := n })
  | .hour => short (fun n => { fields with hour := n })
  | .minute => short (fun n => { fields with minute := n })
  | .second => short (fun n => { fields with second := n })
  | .fraction =>
    match text with
    | '.' :: rest => (nanos? rest).map (fun (n, rest) => ({ fields with nanos := n }, rest))
    | text => some (fields, text)
  | .offset =>
    (offset? colonsAndBlanks (Text.trimLeft text)).map
      (fun (n, rest) => ({ fields with offset := n }, rest))
  | .mark c =>
    match text with
    | [] => none
    | first :: rest => if first = c then some (fields, rest) else none

def readItems : List Item → Fields → List Char → Option Fields
  | [], fields, [] => some fields
  | [], _, _ :: _ => none
  | item :: items, fields, text => do
    let (fields, rest) ← item.read fields text
    readItems items fields rest

def readPattern (items : List Item) (text : List Char) : Option Instant := do
  (← readItems items {} text).instant?

end Sitemaps.Time
