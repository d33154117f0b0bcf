import Sitemaps.Proofs.Lookups
import Sitemaps.Url.Domain

/-!
What the mapping of domain names leaves may stay: mapping it once more changes nothing.
-/

namespace Sitemaps.Unicode

theorem mapping_sorted : stayingRanges.Sorted ∧ vanishingRanges.Sorted ∧
    alternatingRanges.Sorted ∧ movedRanges.Sorted ∧ spelledTable.Sorted := by decide +kernel

def Row.codes {α : Type} (row : Row α) : List Nat :=
  List.range' row.first (row.last + 1 - row.first)

theorem Row.mem_codes {α : Type} {row : Row α} {code : Nat} :
    code ∈ row.codes ↔ row.Holds code := by
  unfold codes Holds
  rw [List.mem_range'_1]
  omega

def successors : List Nat :=
  alternatingRanges.rows.toList.flatMap fun row =>
    row.codes.filter fun code => (code - row.first) % 2 ≠ 0

def stayingBits : Nat := stayingRanges.bits ||| bitsOf successors

/-- What the tables map to stays, and so does the character that stands in for all that are none.
What follows in an alternating range does not vanish. -/
theorem mapping_steady :
    (alternatingRanges.rows.toList.all fun row => row.codes.all fun code =>
      (code - row.first) % 2 ≠ 0 || stayingBits.testBit (code + 1)) = true ∧
    (movedRanges.rows.toList.all fun row => row.codes.all fun code =>
      stayingBits.testBit (code + row.value).toNat) = true ∧
    (spelledTable.rows.toList.all fun row => row.value.toList.all fun text =>
      text.all fun c => stayingBits.testBit c.toNat) = true ∧
    stayingBits.testBit 0 = true ∧ vanishingRanges.bits &&& bitsOf successors = 0 := by
  decide +kernel

def Steady (c : Char) : Prop := stayingBits.testBit c.toNat = true

theorem steady_ofNat {code : Nat} (steady : stayingBits.testBit code = true) :
    Steady (Char.ofNat code) := by
  unfold Steady
  by_cases valid : code.isValidChar
  · rw [toNat_ofNat valid]
    exact steady
  · rw [ofNat_invalid valid]
    exact mapping_steady.2.2.2.1

/-- What there is to say of the fate of a character that does not stay. -/
def Fate.Settles : Fate → Prop
  | .stays => False
  | .becomes text => ∀ c ∈ text, Steady c
  | _ => True

theorem moved_settles {code first : Nat} {distance : Int}
    (found : movedRanges.find? code = some (first, distance)) :
    (Fate.becomes [Char.ofNat (code + distance).toNat]).Settles := by
  obtain ⟨-, -, -, sorted, -⟩ := mapping_sorted
  obtain ⟨-, moved, -⟩ := mapping_steady
  obtain ⟨row, member, holds, -, rfl⟩ := (Table.find?_iff sorted).mp found
  have steady := List.all_eq_true.mp (List.all_eq_true.mp moved row member) code
    (Row.mem_codes.mpr holds)
  intro c only
  rw [List.mem_singleton.mp only]
  exact steady_ofNat steady

theorem spelled_settles {code first index : Nat} {spellings : Array (List Char)}
    {text : List Char} (found : spelledTable.find? code = some (first, spellings))
    (spelled : spellings[index]? = some text) : (Fate.becomes text).Settles := by
  obtain ⟨-, -, -, -, sorted⟩ := mapping_sorted
  obtain ⟨-, -, spelt, -⟩ := mapping_steady
  obtain ⟨row, member, holds, -, rfl⟩ := (Table.find?_iff sorted).mp found
  have listed : text ∈ row.value.toList :=
    Array.mem_toList_iff.mpr (Array.mem_of_getElem? spelled)
  have steady := List.all_eq_true.mp (List.all_eq_true.mp spelt row member) text listed
  intro c inside
  exact List.all_eq_true.mp steady c inside

theorem start?_iff {code first : Nat} : alternatingRanges.start? code = some first ↔
    ∃ row ∈ alternatingRanges.rows.toList, row.Holds code ∧ row.first = first := by
  obtain ⟨-, -, sorted, -⟩ := mapping_sorted
  simp only [Ranges.start?, Option.map_eq_some_iff, Table.row?_iff sorted, and_assoc]

theorem mem_successors {code : Nat} : code ∈ successors ↔
    ∃ first, alternatingRanges.start? code = some first ∧ (code - first) % 2 ≠ 0 := by
  simp only [successors, List.mem_flatMap, List.mem_filter, Row.mem_codes, start?_iff,
    decide_eq_true_iff]
  constructor
  · rintro ⟨row, member, holds, odd⟩
    exact ⟨row.first, ⟨row, member, holds, rfl⟩, odd⟩
  · rintro ⟨_, ⟨row, member, holds, rfl⟩, odd⟩
    exact ⟨row, member, holds, odd⟩

theorem alternating_settles {code first : Nat}
    (start : alternatingRanges.start? code = some first) (even : (code - first) % 2 = 0) :
    (Fate.becomes [Char.ofNat (code + 1)]).Settles := by
  obtain ⟨row, member, holds, rfl⟩ := start?_iff.mp start
  have steady := List.all_eq_true.mp (List.all_eq_true.mp mapping_steady.1 row member) code
    (Row.mem_codes.mpr holds)
  intro c only
  rw [List.mem_singleton.mp only]
  exact steady_ofNat (by simpa [even] using steady)

theorem fate_cases (c : Char) :
    (Steady c ∧ fate c = .stays) ∨ (¬ Steady c ∧ (fate c).Settles) := by
  obtain ⟨stayingSorted, vanishingSorted, -⟩ := mapping_sorted
  obtain ⟨-, -, -, -, apart⟩ := mapping_steady
  have kept : c.toNat ∈ successors → vanishingRanges.contains c.toNat = false := by
    intro member
    rw [← Bool.not_eq_true, Ranges.contains_iff vanishingSorted]
    intro vanishes
    have both := congrArg (Nat.testBit · c.toNat) apart
    simp [Nat.testBit_and, vanishes, (testBit_bitsOf successors c.toNat).mpr member] at both
  have steady : Steady c ↔ stayingRanges.contains c.toNat = true ∨ c.toNat ∈ successors := by
    rw [Steady, stayingBits, Nat.testBit_or, Bool.or_eq_true, testBit_bitsOf,
      Ranges.contains_iff stayingSorted]
  rw [steady, mem_successors]
  rw [mem_successors] at kept
  unfold fate
  by_cases staying : stayingRanges.contains c.toNat = true
  · simp [staying]
  by_cases vanishing : vanishingRanges.contains c.toNat = true
  · right
    simp only [staying, vanishing, if_true, Bool.false_eq_true, if_false, false_or]
    refine ⟨fun member => ?_, trivial⟩
    rw [vanishing] at kept
    cases kept member
  simp only [staying, vanishing, Bool.false_eq_true, if_false, false_or]
  cases start : alternatingRanges.start? c.toNat with
  | some first =>
    by_cases even : (c.toNat - first) % 2 = 0
    · right
      simp only [even, if_true]
      exact ⟨by simp [even], alternating_settles start even⟩
    · left
      exact ⟨⟨first, rfl, even⟩, by simp only [even, if_false]⟩
  | none =>
    right
    refine ⟨by simp, ?_⟩
    cases moved : movedRanges.find? c.toNat with
    | some move => exact moved_settles moved
    | none =>
      cases found : spelledTable.find? c.toNat with
      | none => trivial
      | some row =>
        obtain ⟨first, spellings⟩ := row
        cases spelled : spellings[c.toNat - first]? with
        | none => simp [spelled, Fate.Settles]
        | some text =>
          simp only [spelled]
          exact spelled_settles found spelled

end Sitemaps.Unicode

namespace Sitemaps.Url.Domain

open Unicode

theorem stays_iff {c : Char} : stays c = true ↔ Steady c := by
  unfold stays
  rcases fate_cases c with ⟨steady, fate⟩ | ⟨unsteady, settles⟩
  · simp [fate, steady]
  · cases fate : Unicode.fate c with
    | stays =>
      rw [fate] at settles
      exact settles.elim
    | _ => simp [unsteady]

theorem mapped_steady {text out : List Char} (mapped : mapped text = some out) :
    ∀ c ∈ out, Steady c := by
  induction text generalizing out with
  | nil => cases mapped; nofun
  | cons c rest ih =>
    unfold Domain.mapped at mapped
    rcases fate_cases c with ⟨steady, fate⟩ | ⟨-, settles⟩
    · rw [fate] at mapped
      obtain ⟨later, onward, rfl⟩ := Option.map_eq_some_iff.mp mapped
      exact List.forall_mem_cons.mpr ⟨steady, ih onward⟩
    · cases fate : Unicode.fate c with
      | stays =>
        rw [fate] at settles
        exact settles.elim
      | vanishes =>
        rw [fate] at mapped
        exact ih mapped
      | refused =>
        rw [fate] at mapped
        cases mapped
      | becomes text =>
        rw [fate] at mapped settles
        obtain ⟨later, onward, rfl⟩ := Option.map_eq_some_iff.mp mapped
        exact List.forall_mem_append.mpr ⟨settles, ih onward⟩

theorem mapped_self {text : List Char} (steady : ∀ c ∈ text, Steady c) :
    mapped text = some text := by
  induction text with
  | nil => rfl
  | cons c rest ih =>
    obtain ⟨first, later⟩ := List.forall_mem_cons.mp steady
    have stays : fate c = .stays := by
      rcases fate_cases c with ⟨-, fate⟩ | ⟨unsteady, -⟩
      · exact fate
      · exact absurd first unsteady
    simp [mapped, stays, ih later]

end Sitemaps.Url.Domain
