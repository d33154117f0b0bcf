import Mathlib
import Sitemaps.Gzip.Checksum

/-!
The check of compressed data is a remainder of polynomials over the field of two elements. Bytes
are read as the coefficients of a polynomial, each byte from its lowest bit on; the complement of
the checksum is the remainder of the data, whose first 32 bits are complemented, by the generator.
-/

open Polynomial

namespace Sitemaps.Gzip

noncomputable def polynomial (bits : List Bool) : (ZMod 2)[X] :=
  bits.foldl (fun sum bit => X * sum + C (if bit then 1 else 0)) 0

def lowBits (count number : Nat) : List Bool := (List.range count).map number.testBit

def messageBits (bytes : List UInt8) : List Bool := bytes.flatMap fun byte => lowBits 8 byte.toNat

noncomputable def generator : (ZMod 2)[X] :=
  X ^ 32 + X ^ 26 + X ^ 23 + X ^ 22 + X ^ 16 + X ^ 12 + X ^ 11 + X ^ 10 + X ^ 8 + X ^ 7 + X ^ 5 +
    X ^ 4 + X ^ 2 + X + 1

/-- Whether `sum` is the cyclic redundancy check of `bytes`. -/
def Checks (sum : UInt32) (bytes : List UInt8) : Prop :=
  polynomial (lowBits 32 (~~~sum).toNat) =
    (X ^ 32 * polynomial (messageBits bytes) +
      X ^ (messageBits bytes).length * polynomial (List.replicate 32 true)) %ₘ generator

section Polynomial

variable {bits others : List Bool}

theorem polynomial_concat (bit : Bool) :
    polynomial (bits ++ [bit]) = X * polynomial bits + C (if bit then 1 else 0) := by
  simp [polynomial]

theorem polynomial_append :
    polynomial (bits ++ others) = X ^ others.length * polynomial bits + polynomial others := by
  induction others using List.reverseRecOn with
  | nil => simp [polynomial]
  | append_singleton others bit ih =>
    rw [← List.append_assoc, polynomial_concat, polynomial_concat, ih, List.length_append,
      List.length_singleton]
    ring

theorem polynomial_cons (bit : Bool) :
    polynomial (bit :: bits) = X ^ bits.length * C (if bit then 1 else 0) + polynomial bits := by
  have one : polynomial [bit] = C (if bit then 1 else 0) := by simp [polynomial]
  rw [← List.singleton_append, polynomial_append, one]

theorem polynomial_degree : (polynomial bits).degree < bits.length := by
  induction bits with
  | nil => simp [polynomial]
  | cons bit bits ih =>
    rw [polynomial_cons]
    have grows : (bits.length : WithBot Nat) < (bit :: bits).length := by
      exact_mod_cast Nat.lt_succ_self _
    have top : (X ^ bits.length * C (if bit then (1 : ZMod 2) else 0)).degree ≤
        (bits.length : WithBot Nat) := by
      rw [mul_comm]
      exact degree_C_mul_X_pow_le _ _
    apply lt_of_le_of_lt (degree_add_le _ _)
    exact max_lt (lt_of_le_of_lt top grows) (lt_trans ih grows)

theorem polynomial_zero (blank : polynomial bits = 0) : ∀ bit ∈ bits, bit = false := by
  induction bits using List.reverseRecOn with
  | nil => simp
  | append_singleton bits last ih =>
    rw [polynomial_concat] at blank
    have constant := congrArg (coeff · 0) blank
    have unset : last = false := by
      cases last with
      | false => rfl
      | true => simp at constant
    have rest : polynomial bits = 0 := by
      simpa [unset, X_ne_zero] using blank
    intro bit member
    rcases List.mem_append.mp member with earlier | here
    · exact ih rest bit earlier
    · rw [List.mem_singleton.mp here, unset]

end Polynomial

section Register

variable {count first second : Nat}

theorem lowBits_length : (lowBits count first).length = count := by simp [lowBits]

theorem lowBits_succ :
    lowBits (count + 1) first = lowBits count first ++ [first.testBit count] := by
  simp [lowBits, List.range_succ]

theorem lowBits_cons :
    lowBits (count + 1) first = first.testBit 0 :: lowBits count (first / 2) := by
  simp [lowBits, List.range_succ_eq_map, Function.comp_def, Nat.testBit_succ]

theorem polynomial_xor : polynomial (lowBits count (first ^^^ second)) =
    polynomial (lowBits count first) + polynomial (lowBits count second) := by
  induction count with
  | zero => simp [lowBits, polynomial]
  | succ count ih =>
    have bits : C (if (first ^^^ second).testBit count then (1 : ZMod 2) else 0) =
        C (if first.testBit count then 1 else 0) + C (if second.testBit count then 1 else 0) := by
      rw [Nat.testBit_xor, ← C_add]
      apply congrArg
      cases first.testBit count <;> cases second.testBit count <;> decide
    rw [lowBits_succ, lowBits_succ, lowBits_succ, polynomial_concat, polynomial_concat,
      polynomial_concat, ih, bits]
    ring

noncomputable def remainder (sum : UInt32) : (ZMod 2)[X] := polynomial (lowBits 32 sum.toNat)

variable {sum other : UInt32}

theorem remainder_xor : remainder (sum ^^^ other) = remainder sum + remainder other := by
  rw [remainder, UInt32.toNat_xor, polynomial_xor]
  rfl

theorem remainder_injective (same : remainder sum = remainder other) : sum = other := by
  have blank : remainder (sum ^^^ other) = 0 := by
    rw [remainder_xor, same, CharTwo.add_self_eq_zero]
  have unset := polynomial_zero blank
  have zero : (sum ^^^ other).toNat = 0 := by
    apply Nat.eq_of_testBit_eq
    intro place
    rw [Nat.zero_testBit]
    by_cases inside : place < 32
    · exact unset _ (List.mem_map.mpr ⟨place, List.mem_range.mpr inside, rfl⟩)
    · apply Nat.testBit_lt_two_pow
      exact lt_of_lt_of_le (UInt32.toNat_lt _) (Nat.pow_le_pow_right (by decide) (by omega))
  exact UInt32.xor_eq_zero_iff.mp (UInt32.toNat_inj.mp zero)

theorem remainder_shift : X * remainder sum =
    remainder (sum >>> 1) + X ^ 32 * C (if sum.toNat.testBit 0 then 1 else 0) := by
  have high : (sum.toNat / 2).testBit 31 = false := by
    apply Nat.testBit_lt_two_pow
    have := sum.toNat_lt
    omega
  have halved : (sum >>> 1).toNat = sum.toNat / 2 := by
    rw [UInt32.toNat_shiftRight]
    rfl
  have filled : lowBits 32 (sum.toNat / 2) = lowBits 31 (sum.toNat / 2) ++ [false] := by
    rw [lowBits_succ, high]
  rw [remainder, remainder, halved, filled, lowBits_cons, polynomial_cons, polynomial_concat,
    lowBits_length]
  simp only [Bool.false_eq_true, if_false, C_0]
  ring

theorem remainder_constant : remainder 0xEDB88320 + X ^ 32 = generator := by
  have bits : lowBits 32 (0xEDB88320 : UInt32).toNat =
      [false, false, false, false, false, true, false, false, true, true, false, false, false,
        false, false, true, false, false, false, true, true, true, false, true, true, false, true,
        true, false, true, true, true] := by decide
  rw [remainder, bits, generator]
  simp only [polynomial, List.foldl_cons, List.foldl_nil, Bool.false_eq_true, if_false, if_true,
    C_0, C_1]
  ring

theorem checksumBit_remainder : generator ∣ remainder (checksumBit sum) - X * remainder sum := by
  rw [remainder_shift]
  have odd : sum % 2 = 1 ↔ sum.toNat.testBit 0 = true := by
    rw [← UInt32.toNat_inj, UInt32.toNat_mod, Nat.testBit_zero, decide_eq_true_iff]
    rfl
  unfold checksumBit
  split
  · rename_i low
    rw [if_pos (odd.mp low), remainder_xor, C_1, mul_one]
    have same : remainder (sum >>> 1) + remainder 0xEDB88320 - (remainder (sum >>> 1) + X ^ 32) =
        generator := by
      rw [← remainder_constant, add_sub_add_left_eq_sub, CharTwo.sub_eq_add]
    rw [same]
  · rename_i low
    rw [if_neg (odd.not.mp low)]
    simp

theorem checksumByte_eq (sum : UInt32) (byte : UInt8) :
    checksumByte sum byte = checksumBit^[8] (sum ^^^ byte.toUInt32) := by
  simp only [checksumByte, Function.iterate_succ_apply, Function.iterate_zero_apply]

theorem checksumBit_iterate (count : Nat) :
    generator ∣ remainder (checksumBit^[count] sum) - X ^ count * remainder sum := by
  induction count with
  | zero => simp
  | succ count ih =>
    obtain ⟨first, earlier⟩ := ih
    rw [Function.iterate_succ_apply']
    obtain ⟨second, last⟩ : generator ∣ remainder (checksumBit (checksumBit^[count] sum)) -
        X * remainder (checksumBit^[count] sum) := checksumBit_remainder
    refine ⟨second + X * first, ?_⟩
    linear_combination last + X * earlier

theorem remainder_byte (byte : UInt8) :
    remainder byte.toUInt32 = X ^ 24 * polynomial (lowBits 8 byte.toNat) := by
  have padded (count : Nat) : polynomial (lowBits (8 + count) byte.toNat) =
      X ^ count * polynomial (lowBits 8 byte.toNat) := by
    induction count with
    | zero => simp
    | succ count ih =>
      have blank : byte.toNat.testBit (8 + count) = false := by
        apply Nat.testBit_lt_two_pow
        exact lt_of_lt_of_le byte.toNat_lt (Nat.pow_le_pow_right (by decide) (by omega))
      rw [← Nat.add_assoc, lowBits_succ, blank, polynomial_concat, ih]
      simp only [Bool.false_eq_true, if_false, C_0]
      ring
  rw [remainder, UInt8.toNat_toUInt32, padded 24]

theorem checksumByte_remainder (sum : UInt32) (byte : UInt8) :
    generator ∣ remainder (checksumByte sum byte) -
      (X ^ 8 * remainder sum + X ^ 32 * polynomial (lowBits 8 byte.toNat)) := by
  have spread : X ^ 8 * remainder (sum ^^^ byte.toUInt32) =
      X ^ 8 * remainder sum + X ^ 32 * polynomial (lowBits 8 byte.toNat) := by
    rw [remainder_xor, remainder_byte]
    ring
  rw [checksumByte_eq, ← spread]
  exact checksumBit_iterate 8

theorem messageBits_cons (byte : UInt8) (bytes : List UInt8) :
    messageBits (byte :: bytes) = lowBits 8 byte.toNat ++ messageBits bytes := rfl

theorem run_remainder (bytes : List UInt8) (sum : UInt32) :
    generator ∣ remainder (bytes.foldl checksumByte sum) -
      (X ^ 32 * polynomial (messageBits bytes) +
        X ^ (messageBits bytes).length * remainder sum) := by
  induction bytes generalizing sum with
  | nil => simp [messageBits, polynomial]
  | cons byte bytes ih =>
    obtain ⟨first, head⟩ := checksumByte_remainder sum byte
    obtain ⟨second, later⟩ := ih (checksumByte sum byte)
    rw [List.foldl_cons, messageBits_cons, polynomial_append, List.length_append, lowBits_length]
    refine ⟨second + X ^ (messageBits bytes).length * first, ?_⟩
    linear_combination later + X ^ (messageBits bytes).length * head

end Register

theorem generator_degree : generator.degree = 32 := by
  unfold generator
  compute_degree!

theorem generator_monic : generator.Monic := by
  unfold generator
  monicity!

theorem checks_checksum (bytes : List UInt8) : Checks (checksum bytes) bytes := by
  have kept : ~~~(checksum bytes) = bytes.foldl checksumByte 0xFFFFFFFF := by
    have all : (0xFFFFFFFF : UInt32) = -1 := by decide
    rw [checksum, all, UInt32.xor_neg_one, UInt32.not_not]
  have ones : polynomial (List.replicate 32 true) = remainder 0xFFFFFFFF := by
    have bits : List.replicate 32 true = lowBits 32 (0xFFFFFFFF : UInt32).toNat := by decide
    rw [bits, remainder]
  have low : (remainder (bytes.foldl checksumByte 0xFFFFFFFF)).degree < generator.degree := by
    rw [generator_degree]
    calc (remainder (bytes.foldl checksumByte 0xFFFFFFFF)).degree
        < (lowBits 32 (bytes.foldl checksumByte 0xFFFFFFFF).toNat).length := polynomial_degree
      _ = 32 := by rw [lowBits_length]; rfl
  unfold Checks
  rw [kept, ones, ← modByMonic_eq_of_dvd_sub generator_monic (run_remainder bytes 0xFFFFFFFF)]
  exact ((modByMonic_eq_self_iff generator_monic).mpr low).symm

/-- The checksum of bytes is their cyclic redundancy check, and nothing else is. -/
theorem checks_iff {sum : UInt32} {bytes : List UInt8} :
    Checks sum bytes ↔ sum = checksum bytes := by
  constructor
  · intro checks
    have same : remainder (~~~sum) = remainder (~~~(checksum bytes)) :=
      checks.trans (checks_checksum bytes).symm
    exact UInt32.not_inj.mp (remainder_injective same)
  · rintro rfl
    exact checks_checksum bytes

end Sitemaps.Gzip
