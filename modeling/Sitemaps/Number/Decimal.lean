import Sitemaps.Number.Binary
import Sitemaps.Text.Ascii

/-!
Decimal notation: reading a number with point and exponent into the nearest single, and writing a
share of a whole in percent.
-/

namespace Sitemaps.Number

/-- A decimal as read: all its digits as one number, and the power of ten they count. -/
structure Decimal where
  digits : Nat
  exponent : Int
  deriving DecidableEq, Repr

/-- Decimal places beyond which every format holds only zero or infinity. -/
def farAway : Int := 400

/-- Zero and infinity are told from the number of digits, before a power of ten is written out. -/
def Decimal.round (f : Format) (d : Decimal) : Nat :=
  if d.digits = 0 then 0
  else
    let places : Int := (toString d.digits).length + d.exponent
    if farAway < places then f.infinity
    else if places < -farAway then 0
    else if d.exponent < 0 then f.ofRatio d.digits (Nat.pow 10 d.exponent.natAbs)
    else f.ofRatio (d.digits * Nat.pow 10 d.exponent.natAbs) 1

def digitRun (text : List Char) : List Nat × List Char :=
  let digits := text.takeWhile Char.isDigit
  (digits.map (fun c => c.toNat - 48), text.drop digits.length)

def exponent? : List Char → Option Int
  | [] => some 0
  | mark :: rest =>
    if mark != 'e' && mark != 'E' then none else
    let (negative, rest) := match rest with
      | '-' :: rest => (true, rest)
      | '+' :: rest => (false, rest)
      | rest => (false, rest)
    match digitRun rest with
    | (digit :: digits, []) =>
      let size := Text.ofDigits 10 (digit :: digits)
      some (if negative then -(size : Int) else size)
    | _ => none

def decimal? (text : List Char) : Option Decimal := do
  let (whole, rest) := digitRun text
  let (fraction, rest) := match rest with
    | '.' :: rest => digitRun rest
    | rest => ([], rest)
  if whole.isEmpty && fraction.isEmpty then none
  let exponent ← exponent? rest
  some ⟨Text.ofDigits 10 (whole ++ fraction), exponent - fraction.length⟩

def single? (text : String) : Option Single := do
  let (negative, rest) := match text.toList with
    | '-' :: rest => (true, rest)
    | '+' :: rest => (false, rest)
    | rest => (false, rest)
  let word := String.ofList (rest.map Char.toLower)
  if word = "inf" ∨ word = "infinity" then some (Single.ofParts negative single.infinity)
  else if word = "nan" then some (Single.ofParts negative single.nan)
  else some (Single.ofParts negative ((← decimal? rest).round single))

/-- The share `part / whole` in percent with one place, computed in doubles; a tie goes to the even
digit. -/
def percent (part whole : Nat) : String :=
  if whole = 0 then "0.0%"
  else
    let (num, den) := double.toRatio (double.ofRatio part whole)
    let (num, den) := double.toRatio (double.ofRatio (num * 100) den)
    let tenths := roundRatio (num * 10) den
    s!"{tenths / 10}.{tenths % 10}%"

end Sitemaps.Number
