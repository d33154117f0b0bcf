import Mathlib.Data.List.Chain
import Mathlib.Data.Nat.Bitwise
import Sitemaps.Unicode.Ranges

/-!
Looking up a code point in a sorted table finds the row that holds it and no other. The code points
of a table, as the bits of one number, serve to check facts about all of them at once.
-/

namespace Sitemaps.Unicode

theorem toNat_ofNat {code : Nat} (valid : code.isValidChar) : (Char.ofNat code).toNat = code := by
  rw [Char.ofNat, dif_pos valid]
  rfl

theorem ofNat_invalid {code : Nat} (invalid : ¬ code.isValidChar) :
    Char.ofNat code = Char.ofNat 0 := by
  rw [Char.ofNat, dif_neg invalid]
  rfl

variable {α : Type}

def Row.Precedes (row next : Row α) : Prop := row.first ≤ row.last ∧ row.last < next.first

instance (row next : Row α) : Decidable (row.Precedes next) :=
  inferInstanceAs (Decidable (_ ∧ _))

theorem Row.Precedes.trans {a b c : Row α} (first : a.Precedes b) (second : b.Precedes c) :
    a.Precedes c :=
  ⟨first.1, first.2.trans_le (second.1.trans second.2.le)⟩

def Row.Holds (row : Row α) (code : Nat) : Prop := row.first ≤ code ∧ code ≤ row.last

instance (row : Row α) (code : Nat) : Decidable (row.Holds code) :=
  inferInstanceAs (Decidable (_ ∧ _))

namespace Table

variable {table : Table α} {code : Nat}

def Sorted (table : Table α) : Prop := table.rows.toList.IsChain Row.Precedes

instance (table : Table α) : Decidable table.Sorted :=
  inferInstanceAs (Decidable (List.IsChain _ _))

theorem Sorted.precedes (sorted : table.Sorted) {i j : Nat} {row next : Row α} (before : i < j)
    (here : table.rows[i]? = some row) (there : table.rows[j]? = some next) :
    row.Precedes next := by
  have pairs : table.rows.toList.Pairwise Row.Precedes :=
    have : IsTrans (Row α) Row.Precedes := ⟨fun _ _ _ => Row.Precedes.trans⟩
    List.isChain_iff_pairwise.mp sorted
  obtain ⟨within, rfl⟩ := Array.getElem?_eq_some_iff.mp here
  obtain ⟨inside, rfl⟩ := Array.getElem?_eq_some_iff.mp there
  exact List.pairwise_iff_getElem.mp pairs i j within inside before

structure Ranks (table : Table α) (code rank : Nat) : Prop where
  within : rank ≤ table.rows.size
  low : ∀ {i row}, i < rank → table.rows[i]? = some row → row.first ≤ code
  high : ∀ {i row}, rank ≤ i → table.rows[i]? = some row → code < row.first

theorem rank_ranks (sorted : table.Sorted) {low high : Nat} (within : high ≤ table.rows.size)
    (ordered : low ≤ high)
    (before : ∀ {i row}, i < low → table.rows[i]? = some row → row.first ≤ code)
    (after : ∀ {i row}, high ≤ i → table.rows[i]? = some row → code < row.first) :
    table.Ranks code (table.rank code low high) := by
  fun_induction table.rank code low high with
  | case1 low high open_ middle missing =>
    have := Array.getElem?_eq_none_iff.mp missing
    omega
  | case2 low high open_ middle row found starts ih =>
    apply ih within (by omega) _ after
    intro i other below held
    rcases Nat.lt_or_eq_of_le (Nat.le_of_lt_succ below) with earlier | rfl
    · have ascends := sorted.precedes earlier held found
      exact ascends.1.trans (ascends.2.le.trans starts)
    · rw [found] at held
      cases held
      exact starts
  | case3 low high open_ middle row found starts ih =>
    apply ih (by omega) (by omega) before
    intro i other above held
    rcases Nat.lt_or_eq_of_le above with later | rfl
    · have ascends := sorted.precedes later found held
      have := ascends.1
      have := ascends.2
      omega
    · rw [found] at held
      cases held
      omega
  | case4 low high closed =>
    have : low = high := by omega
    subst this
    exact ⟨within, before, after⟩

theorem row?_iff (sorted : table.Sorted) {row : Row α} :
    table.row? code = some row ↔ row ∈ table.rows.toList ∧ row.Holds code := by
  have ranks : table.Ranks code (table.rank code 0 table.rows.size) := by
    apply rank_ranks sorted le_rfl (Nat.zero_le _)
    · intro i row below
      cases below
    · intro i row above held
      have := Array.getElem?_eq_none_iff.mpr above
      rw [this] at held
      cases held
  have listed : row ∈ table.rows.toList ↔ ∃ i : Nat, table.rows[i]? = some row := by
    rw [Array.mem_toList_iff, Array.mem_iff_getElem?]
  unfold row?
  split
  next empty =>
    rw [empty] at ranks
    constructor
    · nofun
    · rintro ⟨member, starts, -⟩
      obtain ⟨i, held⟩ := listed.mp member
      have := ranks.high (Nat.zero_le i) held
      omega
  next count rank =>
    rw [rank] at ranks
    rw [Option.filter_eq_some_iff, decide_eq_true_iff, listed]
    constructor
    · rintro ⟨held, ends⟩
      exact ⟨⟨count, held⟩, ranks.low (Nat.lt_succ_self count) held, ends⟩
    · rintro ⟨⟨i, held⟩, starts, ends⟩
      have below : i ≤ count := by
        by_contra above
        have := ranks.high (by omega) held
        omega
      rcases Nat.lt_or_eq_of_le below with earlier | rfl
      · -- A row that starts later, but still at or before the code point, would overlap.
        have inside : count < table.rows.size := ranks.within
        have found : table.rows[count]? = some table.rows[count] :=
          Array.getElem?_eq_getElem inside
        have ascends := (sorted.precedes earlier held found).2
        have := ranks.low (Nat.lt_succ_self count) found
        omega
      · exact ⟨held, ends⟩

theorem find?_iff (sorted : table.Sorted) {first : Nat} {value : α} :
    table.find? code = some (first, value) ↔
      ∃ row ∈ table.rows.toList, row.Holds code ∧ row.first = first ∧ row.value = value := by
  simp only [find?, Option.map_eq_some_iff, row?_iff sorted, Prod.mk.injEq, and_assoc]

/-- The code points of a table, as the bits of a number. -/
def bits (table : Table α) : Nat :=
  table.rows.toList.foldr
    (fun row bits => bits ||| (2 ^ (row.last + 1 - row.first) - 1) <<< row.first) 0

theorem testBit_bits (table : Table α) (code : Nat) :
    table.bits.testBit code = true ↔ ∃ row ∈ table.rows.toList, row.Holds code := by
  unfold bits
  induction table.rows.toList with
  | nil => simp
  | cons row rows ih =>
    have range : ((2 ^ (row.last + 1 - row.first) - 1) <<< row.first).testBit code = true ↔
        row.Holds code := by
      simp only [Nat.testBit_shiftLeft, Nat.testBit_two_pow_sub_one, Bool.and_eq_true,
        decide_eq_true_iff]
      unfold Row.Holds
      omega
    simp only [List.foldr_cons, Nat.testBit_or, Bool.or_eq_true, ih, range,
      List.exists_mem_cons_iff]
    exact or_comm

end Table

theorem Ranges.contains_iff {ranges : Ranges} (sorted : ranges.Sorted) {code : Nat} :
    ranges.contains code = true ↔ ranges.bits.testBit code = true := by
  simp only [contains, Option.isSome_iff_exists, Table.row?_iff sorted, Table.testBit_bits]

def bitsOf (codes : List Nat) : Nat := codes.foldr (fun code bits => bits ||| 1 <<< code) 0

theorem testBit_bitsOf (codes : List Nat) (code : Nat) :
    (bitsOf codes).testBit code = true ↔ code ∈ codes := by
  unfold bitsOf
  induction codes with
  | nil => simp
  | cons other codes ih =>
    have single : (1 <<< other).testBit code = true ↔ code = other := by
      rw [Nat.one_shiftLeft, Nat.testBit_two_pow, decide_eq_true_iff]
      exact eq_comm
    simp only [List.foldr_cons, Nat.testBit_or, Bool.or_eq_true, ih, single, List.mem_cons]
    exact or_comm

end Sitemaps.Unicode
