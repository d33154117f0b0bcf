import Mathlib.Algebra.Order.Field.Basic
import Mathlib.Data.Rat.Cast.Order
import Mathlib.Tactic.FieldSimp
import Mathlib.Tactic.Linarith
import Mathlib.Tactic.Positivity
import Mathlib.Tactic.Ring
import Sitemaps.Record.Database

/-!
The numbers that floating-point bits stand for. Every single is a double too, so a priority keeps
its value when it is stored, and only what is no number is not stored at all.
-/

namespace Sitemaps

namespace Number

/-- What floating-point bits stand for. -/
inductive Value
  | nan
  | infinite (negative : Bool)
  | finite (value : ℚ)

namespace Format

def size (f : Format) (field fraction : Nat) : ℚ :=
  if field = 0 then fraction * 2 ^ (-(f.depth : ℤ))
  else (2 ^ (f.precision - 1) + fraction) * 2 ^ ((field : ℤ) - 1 - f.depth)

def value (f : Format) (negative : Bool) (magnitude : Nat) : Value :=
  let field := magnitude / 2 ^ (f.precision - 1)
  let fraction := magnitude % 2 ^ (f.precision - 1)
  if field = 2 ^ f.exponentBits - 1 then if fraction = 0 then .infinite negative else .nan
  else .finite (if negative then -f.size field fraction else f.size field fraction)

end Format

def Single.value (x : Single) : Value := single.value x.negative x.magnitude

def Double.magnitude (x : Double) : Nat := x.bits.toNat % double.signBit

def Double.negative (x : Double) : Bool := x.bits.toNat / double.signBit == 1

def Double.value (x : Double) : Value := double.value x.negative x.magnitude

/-- What is stored of a number: a number of the same value, or nothing for what is none. -/
inductive Kept (x : Single) : Option Double → Prop
  | same {y : Double} (value : y.value = x.value) (number : x.value ≠ .nan) : Kept x (some y)
  | absent (nan : x.value = .nan) : Kept x none

theorem ofParts_magnitude {magnitude : Nat} (small : magnitude < double.signBit) (negative : Bool) :
    (Double.ofParts negative magnitude).magnitude = magnitude ∧
      (Double.ofParts negative magnitude).negative = negative := by
  have sign : double.signBit = 9223372036854775808 := rfl
  unfold Double.magnitude Double.negative Double.ofParts
  rw [sign] at small ⊢
  cases negative <;> simp <;> omega

theorem roundRatio_mul (quotient : Nat) {den : Nat} (pos : 0 < den) :
    roundRatio (quotient * den) den = quotient := by
  simp [roundRatio, Nat.mul_div_cancel _ pos, pos]

section Ratios

variable {num den quotient significand : Nat} {exponent : ℤ}

theorem power_below (below : exponent < 0) : (2 : ℚ) ^ exponent * 2 ^ exponent.natAbs = 1 := by
  rw [← zpow_natCast, ← zpow_add₀ two_ne_zero, Int.ofNat_natAbs_of_nonpos below.le]
  simp

theorem power_above (above : ¬exponent < 0) : (2 : ℚ) ^ exponent = 2 ^ exponent.natAbs := by
  rw [← zpow_natCast, Int.natAbs_of_nonneg (not_lt.mp above)]

theorem scaled_exact (pos : 0 < den) (same : (num : ℚ) = quotient * 2 ^ exponent * den) :
    scaled num den exponent = quotient := by
  unfold scaled
  split
  · rename_i below
    have whole : num * Nat.pow 2 exponent.natAbs = quotient * den := by
      have cast : ((num * 2 ^ exponent.natAbs : ℕ) : ℚ) = (quotient * den : ℕ) := by
        push_cast
        calc (num : ℚ) * 2 ^ exponent.natAbs
            = quotient * den * (2 ^ exponent * 2 ^ exponent.natAbs) := by rw [same]; ring
          _ = quotient * den := by rw [power_below below, mul_one]
      exact_mod_cast cast
    rw [whole, roundRatio_mul quotient pos]
  · rename_i above
    have whole : num = quotient * (den * Nat.pow 2 exponent.natAbs) := by
      have cast : (num : ℚ) = (quotient * (den * 2 ^ exponent.natAbs) : ℕ) := by
        push_cast
        rw [same, power_above above]
        ring
      exact_mod_cast cast
    have positive : 0 < den * Nat.pow 2 exponent.natAbs := Nat.mul_pos pos (Nat.two_pow_pos _)
    rw [whole, roundRatio_mul quotient positive]

theorem reaches_iff : reaches num den exponent = true ↔ (2 : ℚ) ^ exponent * den ≤ num := by
  unfold reaches
  split
  · rename_i below
    have positive : (0 : ℚ) < 2 ^ exponent.natAbs := by positivity
    rw [decide_eq_true_eq, ← Nat.cast_le (α := ℚ), Nat.pow_eq, Nat.cast_mul, Nat.cast_pow,
      Nat.cast_ofNat, ← mul_le_mul_iff_left₀ positive (b := 2 ^ exponent * _), mul_right_comm,
      power_below below, one_mul]
  · rename_i above
    rw [decide_eq_true_eq, ← Nat.cast_le (α := ℚ), Nat.pow_eq, Nat.cast_mul, Nat.cast_pow,
      Nat.cast_ofNat, power_above above, mul_comm]

def ratio (significand : Nat) (exponent : ℤ) : Nat × Nat :=
  if exponent < 0 then (significand, Nat.pow 2 exponent.natAbs)
  else (significand * Nat.pow 2 exponent.natAbs, 1)

theorem ratio_pos : 0 < (ratio significand exponent).2 := by
  unfold ratio
  split
  · exact Nat.two_pow_pos _
  · exact Nat.one_pos

theorem ratio_eq (significand : Nat) (exponent : ℤ) :
    ((ratio significand exponent).1 : ℚ) =
      significand * 2 ^ exponent * (ratio significand exponent).2 := by
  unfold ratio
  split
  · rename_i below
    simp only [Nat.pow_eq, Nat.cast_pow, Nat.cast_ofNat]
    rw [mul_assoc, power_below below, mul_one]
  · rename_i above
    simp only [Nat.pow_eq, Nat.cast_mul, Nat.cast_pow, Nat.cast_ofNat, Nat.cast_one, mul_one,
      power_above above]

theorem magnitude_ratio (pos : 0 < significand) :
    magnitude (ratio significand exponent).1 (ratio significand exponent).2 =
      significand.log2 + exponent := by
  unfold ratio magnitude
  split
  · simp only [Nat.pow_eq, Nat.log2_two_pow]
    omega
  · have product : (significand * 2 ^ exponent.natAbs).log2 =
        significand.log2 + exponent.natAbs := by
      have bounds := (Nat.log2_eq_iff pos.ne').mp rfl
      rw [Nat.log2_eq_iff (by positivity), pow_add, show significand.log2 + exponent.natAbs + 1 =
        significand.log2 + 1 + exponent.natAbs by omega, pow_add]
      exact ⟨Nat.mul_le_mul_right _ bounds.1, Nat.mul_lt_mul_of_pos_right bounds.2 (by positivity)⟩
    have one : Nat.log2 1 = 0 := rfl
    simp only [Nat.pow_eq, product, one]
    omega

theorem ofRatio_exact (pos : 0 < significand) (short : significand < 2 ^ 24)
    (low : -149 ≤ exponent) (high : exponent ≤ 104) : ∃ field fraction,
      double.ofRatio (ratio significand exponent).1 (ratio significand exponent).2 =
        field * 2 ^ 52 + fraction ∧
      0 < field ∧ field < 2047 ∧ fraction < 2 ^ 52 ∧
      double.size field fraction = significand * 2 ^ exponent := by
  have bounds := (Nat.log2_eq_iff pos.ne').mp rfl
  have narrow : significand.log2 < 24 := (Nat.log2_lt pos.ne').mpr short
  have same := ratio_eq significand exponent
  have positive : (0 : ℚ) < (ratio significand exponent).2 := by exact_mod_cast ratio_pos
  have value : (0 : ℚ) < significand * 2 ^ exponent :=
    mul_pos (by exact_mod_cast pos) (zpow_pos two_pos _)
  have nonzero : (ratio significand exponent).1 ≠ 0 := by
    intro zero
    rw [zero, Nat.cast_zero] at same
    exact (mul_pos value positive).ne same
  have leading : reaches (ratio significand exponent).1 (ratio significand exponent).2
      (significand.log2 + exponent) = true := by
    have least : (2 : ℚ) ^ significand.log2 ≤ significand := by exact_mod_cast bounds.1
    rw [reaches_iff, same, zpow_add₀ two_ne_zero, zpow_natCast]
    exact mul_le_mul_of_nonneg_right
      (mul_le_mul_of_nonneg_right least (zpow_pos two_pos _).le) positive.le
  -- the unit is the leading place less the bits of the significand that follow it
  obtain ⟨place, unit⟩ : ∃ place : ℕ, significand.log2 + exponent - 52 = place - 1074 :=
    ⟨(significand.log2 + exponent + 1022).toNat, by omega⟩
  have shifted : (significand * 2 ^ (52 - significand.log2) : ℕ) * (2 : ℚ) ^ ((place : ℤ) - 1074) =
      significand * 2 ^ exponent := by
    rw [← unit, Nat.cast_mul, Nat.cast_pow, Nat.cast_ofNat, mul_assoc, ← zpow_natCast,
      ← zpow_add₀ two_ne_zero, Nat.cast_sub (by omega)]
    congr 2
    omega
  have units : scaled (ratio significand exponent).1 (ratio significand exponent).2
      (place - 1074) = significand * 2 ^ (52 - significand.log2) :=
    scaled_exact ratio_pos (by rw [same, shifted])
  have full : 2 ^ 52 ≤ significand * 2 ^ (52 - significand.log2) := by
    calc 2 ^ 52 = 2 ^ significand.log2 * 2 ^ (52 - significand.log2) := by
          rw [← pow_add, Nat.add_sub_cancel' (by omega)]
      _ ≤ _ := Nat.mul_le_mul_right _ bounds.1
  have fits : significand * 2 ^ (52 - significand.log2) < 2 ^ 53 := by
    calc _ < 2 ^ (significand.log2 + 1) * 2 ^ (52 - significand.log2) :=
          Nat.mul_lt_mul_of_pos_right bounds.2 (by positivity)
      _ = 2 ^ 53 := by
          rw [← pow_add]
          congr 1
          omega
  obtain ⟨fraction, split⟩ := Nat.exists_eq_add_of_le full
  rw [split] at units shifted fits
  refine ⟨place + 1, fraction, ?_, by omega, by omega, by omega, ?_⟩
  · have chosen : max (-(double.depth : ℤ)) (significand.log2 + exponent -
        ((double.precision - 1 : ℕ) : ℤ)) = place - 1074 := by
      have bits : ((double.precision - 1 : ℕ) : ℤ) = 52 := rfl
      have depth : (double.depth : ℤ) = 1074 := rfl
      omega
    have field : ((place : ℤ) - 1074 - -(double.depth : ℤ)).natAbs = place := by
      have depth : (double.depth : ℤ) = 1074 := rfl
      omega
    have hidden : Nat.pow 2 (double.precision - 1) = 2 ^ 52 := rfl
    have room : place * 2 ^ 52 + (2 ^ 52 + fraction) ≤ double.infinity := by
      have infinity : double.infinity = 2047 * 2 ^ 52 := rfl
      omega
    unfold Format.ofRatio
    simp only [if_neg nonzero, magnitude_ratio pos, leading, if_true, chosen, field, units, hidden]
    rw [min_eq_left room]
    ring
  · have depth : (double.depth : ℤ) = 1074 := rfl
    have hidden : double.precision - 1 = 52 := rfl
    have leading : (2 ^ 52 + fraction : ℚ) = (2 ^ 52 + fraction : ℕ) := by push_cast; rfl
    rw [← shifted, Format.size, if_neg (Nat.succ_ne_zero place), depth, hidden, leading,
      Nat.cast_succ, add_sub_cancel_right]

end Ratios

theorem toRatio_eq (f : Format) (bits : Nat) :
    f.toRatio bits = ratio (f.toScaled bits).1 (f.toScaled bits).2 := rfl

theorem toScaled_single {bits : Nat} (pos : 0 < bits) (finite : bits < single.infinity) :
    0 < (single.toScaled bits).1 ∧ (single.toScaled bits).1 < 2 ^ 24 ∧
      -149 ≤ (single.toScaled bits).2 ∧ (single.toScaled bits).2 ≤ 104 ∧
      single.size (bits / 2 ^ 23) (bits % 2 ^ 23) =
        (single.toScaled bits).1 * 2 ^ (single.toScaled bits).2 := by
  have infinity : single.infinity = 255 * 2 ^ 23 := rfl
  have places : single.precision - 1 = 23 := rfl
  have hidden : Nat.pow 2 23 = 2 ^ 23 := rfl
  have depth : (single.depth : ℤ) = 149 := rfl
  rw [infinity] at finite
  simp only [Format.toScaled, Format.size, places, hidden, depth]
  by_cases least : bits / 2 ^ 23 = 0
  · have whole : bits % 2 ^ 23 = bits := Nat.mod_eq_of_lt (by omega)
    simp only [if_pos least, whole]
    exact ⟨pos, by omega, le_rfl, by omega, trivial⟩
  · simp only [if_neg least]
    refine ⟨by omega, by omega, by omega, by omega, ?_⟩
    push_cast
    congr 2
    omega

theorem finite_value {bits : Nat} (finite : bits < single.infinity) (negative : Bool) :
    single.value negative bits = .finite (if negative then
      -single.size (bits / 2 ^ 23) (bits % 2 ^ 23) else
      single.size (bits / 2 ^ 23) (bits % 2 ^ 23)) := by
  have infinity : single.infinity = 255 * 2 ^ 23 := rfl
  have places : single.precision - 1 = 23 := rfl
  have fields : single.exponentBits = 8 := rfl
  rw [infinity] at finite
  unfold Format.value
  simp only [places, fields]
  rw [if_neg (by omega)]

theorem widen_value {x : Single} (pos : 0 < x.magnitude) : Kept x x.widen? := by
  have infinity : single.infinity = 255 * 2 ^ 23 := rfl
  have places : single.precision - 1 = 23 := rfl
  have fields : single.exponentBits = 8 := rfl
  have sign : single.signBit = 2 ^ 31 := rfl
  have small : x.magnitude < single.signBit := Nat.mod_lt _ (by rw [sign]; decide)
  unfold Single.widen? Single.isNaN
  split
  · rename_i beyond
    rw [decide_eq_true_eq] at beyond
    refine .absent ?_
    rw [infinity] at beyond
    rw [sign] at small
    unfold Single.value Format.value
    simp only [places, fields]
    rw [if_pos (by omega), if_neg (by omega)]
  · rename_i within
    rw [decide_eq_true_eq] at within
    split
    · rename_i same
      have value : x.value = .infinite x.negative := by
        unfold Single.value
        rw [same]
        rfl
      have fits : double.infinity < double.signBit := by decide
      obtain ⟨bits, negative⟩ := ofParts_magnitude fits x.negative
      refine .same ?_ (by rw [value]; exact nofun)
      rw [value, Double.value, bits, negative]
      rfl
    · rename_i other
      have finite : x.magnitude < single.infinity := by omega
      obtain ⟨positive, short, low, high, size⟩ := toScaled_single pos finite
      obtain ⟨field, fraction, bits, least, most, rest, exact_⟩ :=
        ofRatio_exact positive short low high
      have value := finite_value finite x.negative
      have fits : field * 2 ^ 52 + fraction < double.signBit := by
        have sign : double.signBit = 2 ^ 63 := rfl
        omega
      rw [toRatio_eq]
      simp only [bits]
      obtain ⟨magnitude, negative⟩ := ofParts_magnitude fits x.negative
      refine .same ?_ (by rw [Single.value, value]; exact nofun)
      have places : double.precision - 1 = 52 := rfl
      have fields : double.exponentBits = 11 := rfl
      have quotient : (field * 2 ^ 52 + fraction) / 2 ^ 52 = field := by omega
      have remainder : (field * 2 ^ 52 + fraction) % 2 ^ 52 = fraction := by omega
      rw [Single.value, value, Double.value, magnitude, negative, Format.value]
      simp only [places, fields, quotient, remainder]
      rw [if_neg (by omega), exact_, size]

theorem storedPriority_kept (x : Single) : Kept x (storedPriority x) := by
  unfold storedPriority
  split
  · rename_i zero
    have value : x.value = .finite 0 := by
      unfold Single.value
      rw [zero]
      cases x.negative <;> simp [Format.value, Format.size, single]
    refine .same ?_ (by rw [value]; exact nofun)
    rw [value]
    simp [Double.value, Double.magnitude, Double.negative, Format.value, Format.size, double]
  · rename_i nonzero
    exact widen_value (Nat.pos_of_ne_zero nonzero)

end Number

end Sitemaps
