/-!
Binary floating-point numbers as their bit patterns, and the nearest one to a ratio.
-/

namespace Sitemaps.Number

structure Format where
  precision : Nat
  exponentBits : Nat

def single : Format := ⟨24, 8⟩
def double : Format := ⟨53, 11⟩

namespace Format

/-- Where the significands of the smallest numbers stand: they are multiples of `2 ^ (-depth)`. -/
def depth (f : Format) : Nat := Nat.pow 2 (f.exponentBits - 1) + f.precision - 3

def infinity (f : Format) : Nat := (Nat.pow 2 f.exponentBits - 1) * Nat.pow 2 (f.precision - 1)

def nan (f : Format) : Nat := f.infinity + Nat.pow 2 (f.precision - 2)

def signBit (f : Format) : Nat := Nat.pow 2 (f.exponentBits + f.precision - 1)

end Format

/-- The whole number nearest to a ratio; a tie goes to the even one. -/
def roundRatio (num den : Nat) : Nat :=
  let quotient := num / den
  let rest := num % den
  if 2 * rest < den then quotient
  else if den < 2 * rest then quotient + 1
  else quotient + quotient % 2

def scaled (num den : Nat) (exponent : Int) : Nat :=
  if exponent < 0 then roundRatio (num * Nat.pow 2 exponent.natAbs) den
  else roundRatio num (den * Nat.pow 2 exponent.natAbs)

/-- An exponent `e` with `2 ^ (e - 1) < num / den < 2 ^ (e + 1)`. -/
def magnitude (num den : Nat) : Int := (Nat.log2 num : Int) - (Nat.log2 den : Int)

def reaches (num den : Nat) (exponent : Int) : Bool :=
  if exponent < 0 then den ≤ num * Nat.pow 2 exponent.natAbs
  else den * Nat.pow 2 exponent.natAbs ≤ num

/-- The bits of the number nearest to `num / den`. A carry out of the significand moves into the
exponent field, which is what it should do. -/
def Format.ofRatio (f : Format) (num den : Nat) : Nat :=
  if num = 0 then 0 else
  let guess := magnitude num den
  let leading := if reaches num den guess then guess else guess - 1
  let least : Int := -(f.depth : Int)
  let unit := max least (leading - (f.precision - 1 : Nat))
  let field := (unit - least).natAbs * Nat.pow 2 (f.precision - 1)
  min (field + scaled num den unit) f.infinity

def Format.toScaled (f : Format) (bits : Nat) : Nat × Int :=
  let hidden := Nat.pow 2 (f.precision - 1)
  let least : Int := -(f.depth : Int)
  let field := bits / hidden
  if field = 0 then (bits, least) else (hidden + bits % hidden, least + ((field : Int) - 1))

def Format.toRatio (f : Format) (bits : Nat) : Nat × Nat :=
  let (significand, exponent) := f.toScaled bits
  if exponent < 0 then (significand, Nat.pow 2 exponent.natAbs)
  else (significand * Nat.pow 2 exponent.natAbs, 1)

structure Single where
  bits : UInt32
  deriving DecidableEq, Repr

namespace Single

def magnitude (x : Single) : Nat := x.bits.toNat % single.signBit

def negative (x : Single) : Bool := x.bits.toNat / single.signBit == 1

def isNaN (x : Single) : Bool := single.infinity < x.magnitude

def ofParts (negative : Bool) (magnitude : Nat) : Single :=
  ⟨((if negative then single.signBit else 0) + magnitude).toUInt32⟩

end Single

structure Double where
  bits : UInt64
  deriving DecidableEq, Repr

def Double.ofParts (negative : Bool) (magnitude : Nat) : Double :=
  ⟨((if negative then double.signBit else 0) + magnitude).toUInt64⟩

/-- The same number in the wider format; `none` for what is no number. -/
def Single.widen? (x : Single) : Option Double :=
  if x.isNaN then none
  else if x.magnitude = single.infinity then some (Double.ofParts x.negative double.infinity)
  else
    let (num, den) := single.toRatio x.magnitude
    some (Double.ofParts x.negative (double.ofRatio num den))

end Sitemaps.Number
