import Mathlib.Data.List.TakeWhile
import Mathlib.Tactic.Ring
import Sitemaps.Time.Pattern

/-! Numbers written with a fixed count of digits, and read back from them. -/

namespace Sitemaps.Time

section Numerals

variable {width n : Nat} {rest : List Char}

def numeral : Nat → Nat → List Char
  | 0, _ => []
  | width + 1, n => numeral width (n / 10) ++ [Nat.digitChar (n % 10)]

@[simp]
theorem length_numeral (width n : Nat) : (numeral width n).length = width := by
  induction width generalizing n with
  | zero => rfl
  | succ width ih => rw [numeral, List.length_append, ih, List.length_singleton]

theorem numeral_digits (width n : Nat) : ∀ c ∈ numeral width n, c.isDigit = true := by
  induction width generalizing n with
  | zero => exact List.forall_mem_nil _
  | succ width ih =>
    have digits : ∀ d < 10, (Nat.digitChar d).isDigit = true := by decide
    have last := digits (n % 10) (Nat.mod_lt n (by decide))
    exact List.forall_mem_append.mpr ⟨ih (n / 10), List.forall_mem_singleton.mpr last⟩

theorem numeral_starts (width n : Nat) :
    ∃ c tail, numeral (width + 1) n = c :: tail ∧ c.isDigit = true := by
  have length := length_numeral (width + 1) n
  cases written : numeral (width + 1) n with
  | nil =>
    rw [written] at length
    cases length
  | cons c tail =>
    have first := numeral_digits (width + 1) n c (by simp [written])
    exact ⟨c, tail, rfl, first⟩

theorem digitsValue_append (digits : List Char) (c : Char) :
    digitsValue (digits ++ [c]) = digitsValue digits * 10 + (c.toNat - 48) := by
  unfold digitsValue Text.ofDigits
  rw [List.map_append, List.foldl_append]
  rfl

theorem digitsValue_numeral (fits : n < 10 ^ width) : digitsValue (numeral width n) = n := by
  induction width generalizing n with
  | zero =>
    have none : n = 0 := by simpa using fits
    rw [none]
    rfl
  | succ width ih =>
    have front : n / 10 < 10 ^ width := by
      rw [pow_succ] at fits
      omega
    have last : (Nat.digitChar (n % 10)).toNat = 48 + n % 10 :=
      Nat.toNat_digitChar_of_lt_ten (Nat.mod_lt n (by decide))
    rw [numeral, digitsValue_append, ih front, last]
    omega

theorem numeral_zero (width : Nat) : numeral width 0 = List.replicate width '0' := by
  induction width with
  | zero => rfl
  | succ width ih =>
    rw [numeral, Nat.zero_div, ih, List.replicate_succ']
    rfl

theorem numeral_filled (fits : n < 10 ^ (width + 1)) : numeral (width + 1) n =
    List.replicate (width + 1 - (Nat.toDigits 10 n).length) '0' ++ Nat.toDigits 10 n := by
  induction width generalizing n with
  | zero =>
    have small : n < 10 := by simpa using fits
    rw [Nat.toDigits_of_lt_base small, numeral, Nat.mod_eq_of_lt small]
    rfl
  | succ width ih =>
    rw [numeral]
    by_cases small : n < 10
    · rw [Nat.toDigits_of_lt_base small, Nat.div_eq_of_lt small, Nat.mod_eq_of_lt small,
        numeral_zero]
      rfl
    · have front : n / 10 < 10 ^ (width + 1) := by
        rw [pow_succ] at fits
        omega
      rw [Nat.toDigits_of_base_le (by decide) (Nat.le_of_not_lt small), ih front,
        List.length_append, List.length_singleton, Nat.add_sub_add_right, List.append_assoc]

theorem toList_pushn (text : String) (c : Char) (count : Nat) :
    (text.pushn c count).toList = text.toList ++ List.replicate count c := by
  induction count with
  | zero => exact (List.append_nil _).symm
  | succ count ih =>
    have step : text.pushn c (count + 1) = (text.pushn c count).push c := rfl
    rw [step, String.toList_push, ih, List.replicate_succ', List.append_assoc]

end Numerals

section Reading

variable {least width n : Nat} {rest : List Char}

theorem takeWhile_numeral (ends : ∀ c ∈ rest.head?, c.isDigit = false) :
    (numeral width n ++ rest).takeWhile Char.isDigit = numeral width n := by
  rw [List.takeWhile_append_of_pos (numeral_digits width n)]
  cases rest with
  | nil => exact List.append_nil _
  | cons c rest =>
    rw [List.takeWhile_cons_of_neg (by simp [ends c rfl]), List.append_nil]

theorem number?_numeral (enough : least ≤ width) (fits : n < 10 ^ width) :
    number? least width (numeral width n ++ rest) = some (n, rest) := by
  have taken : (numeral width n ++ rest).take width = numeral width n :=
    List.take_left' (length_numeral width n)
  have digits : (numeral width n).takeWhile Char.isDigit = numeral width n := by
    rw [List.takeWhile_eq_self_iff]
    exact numeral_digits width n
  have left : (numeral width n ++ rest).drop width = rest :=
    List.drop_left' (length_numeral width n)
  unfold number?
  dsimp only
  rw [taken, digits, length_numeral, if_pos enough, digitsValue_numeral fits, left]

theorem nanos?_numeral (filled : 1 ≤ width) (most : width ≤ 9) (fits : n < 10 ^ width)
    (ends : ∀ c ∈ rest.head?, c.isDigit = false) :
    nanos? (numeral width n ++ rest) = some (n * 10 ^ (9 - width), rest) := by
  have digits : (numeral width n).isEmpty = false := by
    rw [List.isEmpty_eq_false_iff, ← List.length_pos_iff, length_numeral]
    exact filled
  have kept : (numeral width n).take 9 = numeral width n :=
    List.take_of_length_le (by rwa [length_numeral])
  have left : (numeral width n ++ rest).drop width = rest :=
    List.drop_left' (length_numeral width n)
  unfold nanos?
  dsimp only
  rw [takeWhile_numeral ends, digits, kept, length_numeral, digitsValue_numeral fits, left]
  rfl

end Reading

end Sitemaps.Time
