import Sitemaps.Number.Decimal
import Sitemaps.Toml.Value
import Sitemaps.Toml.Text

/-!
Numbers, dates and times of a configuration text. Only integers are of interest for their value.
-/

namespace Sitemaps.Toml

def digitsFrom (digit? : Char → Option Nat) (read : List Nat) : List Char → List Nat × List Char
  | '_' :: c :: rest =>
    match digit? c with
    | some value => digitsFrom digit? (value :: read) rest
    | none => (read.reverse, '_' :: c :: rest)
  | c :: rest =>
    match digit? c with
    | some value => digitsFrom digit? (value :: read) rest
    | none => (read.reverse, c :: rest)
  | [] => (read.reverse, [])

def digitRun? (digit? : Char → Option Nat) : Scan (List Nat)
  | c :: rest => (digit? c).map fun value => digitsFrom digit? [value] rest
  | [] => none

def wholeRun? : Scan (List Nat)
  | '0' :: rest => some ([0], rest)
  | text => digitRun? Text.digitValue? text

def baseDigit? (base : Nat) (c : Char) : Option Nat := (Text.hexValue? c).filter (· < base)

def sign : List Char → Bool × List Char
  | '-' :: rest => (true, rest)
  | '+' :: rest => (false, rest)
  | text => (false, text)

def fits (number : Int) : Bool := -0x8000000000000000 ≤ number && number < 0x8000000000000000

def based? (base : Nat) (text : List Char) : Option (Value × List Char) :=
  match digitRun? (baseDigit? base) text with
  | none => none
  | some (digits, rest) =>
    let number : Int := Text.ofDigits base digits
    if fits number then some (.integer number, rest) else none

def decimalInteger? (text : List Char) : Option (Value × List Char) :=
  let (negative, unsigned) := sign text
  match wholeRun? unsigned with
  | none => none
  | some (digits, rest) =>
    let size : Int := Text.ofDigits 10 digits
    let number := if negative then -size else size
    if fits number then some (.integer number, rest) else none

def integer? : Scan Value
  | '0' :: 'x' :: rest => based? 16 rest
  | '0' :: 'o' :: rest => based? 8 rest
  | '0' :: 'b' :: rest => based? 2 rest
  | text => decimalInteger? text

def fraction? : Scan (List Nat)
  | '.' :: rest => digitRun? Text.digitValue? rest
  | _ => none

def exponent? : Scan Int
  | c :: rest =>
    if c != 'e' && c != 'E' then none
    else
      let (negative, rest) := sign rest
      (digitRun? Text.digitValue? rest).map fun (digits, rest) =>
        let size : Int := Text.ofDigits 10 digits
        (if negative then -size else size, rest)
  | [] => none

/-- A number too large for a double is a fault, unless it is negative. -/
def realValue? (negative : Bool) (digits : List Nat) (exponent : Int) : Option Value :=
  let decimal : Number.Decimal := ⟨Text.ofDigits 10 digits, exponent⟩
  if !negative && decimal.round Number.double = Number.double.infinity then none else some .other

def real? (text : List Char) : Option (Value × List Char) :=
  let (negative, unsigned) := sign text
  match wholeRun? unsigned with
  | none => none
  | some (whole, rest) =>
    match fraction? rest with
    | none =>
      match exponent? rest with
      | none => none
      | some (exponent, rest) => (realValue? negative whole exponent).map (·, rest)
    | some (fraction, rest) =>
      let (exponent, rest) := (exponent? rest).getD (0, rest)
      (realValue? negative (whole ++ fraction) (exponent - fraction.length)).map (·, rest)

def special? (text : List Char) : Option (Value × List Char) :=
  match (sign text).2 with
  | 'i' :: 'n' :: 'f' :: rest => some (.other, rest)
  | 'n' :: 'a' :: 'n' :: rest => some (.other, rest)
  | _ => none

def field? (count low high : Nat) (text : List Char) : Option (Nat × List Char) :=
  match (text.take count).mapM Text.digitValue? with
  | none => none
  | some digits =>
    let number := Text.ofDigits 10 digits
    if digits.length = count ∧ low ≤ number ∧ number ≤ high then some (number, text.drop count)
    else none

def mark? (mark : Char) : List Char → Option (List Char)
  | c :: rest => if c = mark then some rest else none
  | [] => none

def monthLength (year month : Nat) : Nat :=
  if month = 2 then
    if year % 4 = 0 ∧ (year % 100 ≠ 0 ∨ year % 400 = 0) then 29 else 28
  else if month ∈ [4, 6, 9, 11] then 30
  else 31

def date? (text : List Char) : Option (List Char) := do
  let (year, rest) ← field? 4 0 9999 text
  let (month, rest) ← field? 2 1 12 (← mark? '-' rest)
  let (_, rest) ← field? 2 1 (monthLength year month) (← mark? '-' rest)
  some rest

def minutes? (text : List Char) : Option (List Char) := do
  let (_, rest) ← field? 2 0 23 text
  let (_, rest) ← field? 2 0 59 (← mark? ':' rest)
  some rest

def time? (text : List Char) : Option (List Char) := do
  let (_, rest) ← field? 2 0 60 (← mark? ':' (← minutes? text))
  match fraction? rest with
  | none => if rest.head? = some '.' then none else some rest
  | some _ => some ((rest.drop 1).dropWhile Char.isDigit)

def afterZone (text : List Char) : Option (List Char) :=
  match text with
  | 'Z' :: rest | 'z' :: rest => some rest
  | '+' :: rest | '-' :: rest => minutes? rest
  | rest => some rest

def moment? (text : List Char) : Option (Value × List Char) :=
  match date? text with
  | none => (time? text).map (.other, ·)
  | some rest =>
    match rest with
    | c :: later =>
      if c = 'T' ∨ c = 't' ∨ c = ' ' then
        match time? later with
        | none => some (.other, rest)
        | some later => (afterZone later).map (.other, ·)
      else some (.other, rest)
    | [] => some (.other, [])

def number? (text : List Char) : Option (Value × List Char) :=
  moment? text <|> real? text <|> special? text <|> integer? text

end Sitemaps.Toml
