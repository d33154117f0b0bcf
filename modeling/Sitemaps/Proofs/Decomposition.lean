import Sitemaps.Proofs.Mapping

/-!
Canonical decompositions. Taking a character apart ends with characters that do not come apart, what
is composed comes apart into its parts again, and what may stand in a domain name stays so.
-/

namespace Sitemaps.Unicode

theorem canonical_sorted : decompositions.Sorted ∧ uncomposedRanges.Sorted ∧
    combiningClasses.Sorted ∧ (decompositions.rows.toList.all fun row =>
      row.last + 1 = row.first + row.value.size) = true := by decide +kernel

def spellings : List (List Char × Nat) :=
  decompositions.rows.toList.flatMap fun row => row.value.toList.zipIdx row.first

theorem decomposition?_iff {c : Char} {parts : List Char} :
    decomposition? c = some parts ↔ (parts, c.toNat) ∈ spellings := by
  obtain ⟨sorted, -, -, sized⟩ := canonical_sorted
  simp only [decomposition?, Option.bind_eq_some_iff, Prod.exists, Table.find?_iff sorted,
    spellings, List.mem_flatMap, List.mk_mem_zipIdx_iff_le_and_getElem?_sub, Array.getElem?_toList]
  constructor
  · rintro ⟨_, _, ⟨row, member, holds, rfl, rfl⟩, spelled⟩
    exact ⟨row, member, holds.1, spelled⟩
  · rintro ⟨row, member, starts, spelled⟩
    have filled := List.all_eq_true.mp sized row member
    have inside := (Array.getElem?_eq_some_iff.mp spelled).1
    have holds : row.Holds c.toNat := by
      rw [decide_eq_true_iff] at filled
      exact ⟨starts, by omega⟩
    exact ⟨row.first, row.value, ⟨row, member, holds, rfl, rfl⟩, spelled⟩

theorem decomposition?_none {c : Char} (outside : decompositions.bits.testBit c.toNat = false) :
    decomposition? c = none := by
  cases found : decompositions.find? c.toNat with
  | none => simp [decomposition?, found]
  | some row =>
    obtain ⟨first, value⟩ := row
    obtain ⟨row, member, holds, -, -⟩ := (Table.find?_iff canonical_sorted.1).mp found
    have inside := (Table.testBit_bits decompositions c.toNat).mpr ⟨row, member, holds⟩
    rw [outside] at inside
    cases inside

def isSyllable (code : Nat) : Bool := 0xAC00 ≤ code && code < 0xD7A4

theorem Hangul.decompose?_none {c : Char} (other : isSyllable c.toNat = false) :
    Hangul.decompose? c = none := by
  simp only [isSyllable, Bool.and_eq_false_iff, decide_eq_false_iff_not] at other
  unfold decompose? syllables leadCount vowelCount tailCount
  rw [if_neg (by omega)]

def Hangul.parts (lead vowel tail : Nat) : List Char :=
  if tail = 0 then [Char.ofNat (0x1100 + lead), Char.ofNat (0x1161 + vowel)]
  else [Char.ofNat (0x1100 + lead), Char.ofNat (0x1161 + vowel), Char.ofNat (0x11A7 + tail)]

theorem Hangul.decompose?_iff {c : Char} {found : List Char} :
    Hangul.decompose? c = some found ↔ ∃ lead vowel tail, lead < 19 ∧ vowel < 21 ∧ tail < 28 ∧
      c.toNat = 0xAC00 + (lead * 21 + vowel) * 28 + tail ∧
      Hangul.parts lead vowel tail = found := by
  unfold decompose? syllables leads vowels tails leadCount vowelCount tailCount
  constructor
  · intro syllable
    rw [Option.ite_none_right_eq_some, Option.some.injEq] at syllable
    obtain ⟨inside, rfl⟩ := syllable
    exact ⟨(c.toNat - 0xAC00) / 588, (c.toNat - 0xAC00) / 28 % 21, (c.toNat - 0xAC00) % 28,
      by omega, by omega, by omega, by omega, rfl⟩
  · rintro ⟨lead, vowel, tail, leads, vowels, tails, code, rfl⟩
    have first : (c.toNat - 0xAC00) / 588 = lead := by omega
    have second : (c.toNat - 0xAC00) / 28 % 21 = vowel := by omega
    have third : (c.toNat - 0xAC00) % 28 = tail := by omega
    rw [if_pos (by omega), Option.some.injEq]
    simp only [Nat.reduceMul, first, second, third, parts]

def isApart : List Char × Nat → Bool
  | (parts, code) => Nat.isValidChar code && !isSyllable code &&
    parts.all fun part => !isSyllable part.toNat

def isBeyond : List Char × Nat → Bool
  | ([a, b], code) => 0x80 ≤ code && a != '.' && 0x80 ≤ b.toNat
  | (_, code) => 0x80 ≤ code

/-- What stays comes apart into what stays, and what stays is composed to what stays. -/
def isSteady : List Char × Nat → Bool
  | (parts, code) =>
    if stayingBits.testBit code then parts.all fun part => stayingBits.testBit part.toNat
    else parts.length != 2 || uncomposedRanges.bits.testBit code ||
      !(parts.all fun part => stayingBits.testBit part.toNat)

theorem spellings_fit : (spellings.all fun spelling =>
    isApart spelling && isBeyond spelling && isSteady spelling) = true := by decide +kernel

theorem spelling_fits {parts : List Char} {code : Nat} (listed : (parts, code) ∈ spellings) :
    isApart (parts, code) = true ∧ isBeyond (parts, code) = true ∧
      isSteady (parts, code) = true := by
  simpa [and_assoc] using List.all_eq_true.mp spellings_fit _ listed

/-- Code points that come apart in more than `steps` steps, as the bits of a number. -/
def deep : Nat → Nat
  | 0 => decompositions.bits
  | steps + 1 =>
    bitsOf ((spellings.filter fun (parts, _) =>
      parts.any fun part => (deep steps).testBit part.toNat).map (·.2))

/-- Nothing comes apart in more than three steps. ASCII characters and the parts of Hangul syllables
do not come apart at all, and ASCII characters are no marks. The syllables and their parts stay. -/
theorem letters_whole : deep 3 = 0 ∧
    (∀ code ∈ List.range' 0x1100 0x100, decompositions.bits.testBit code = false) ∧
    (∀ code ∈ List.range 0x80, decompositions.bits.testBit code = false ∧
      combiningClasses.bits.testBit code = false) ∧
    (∃ row ∈ stayingRanges.rows.toList, row.first ≤ 0xAC00 ∧ 0xD7A3 ≤ row.last) ∧
    ∀ code ∈ List.range' 0x1100 19 ++ List.range' 0x1161 21 ++ List.range' 0x11A8 27,
      stayingBits.testBit code = true := by decide +kernel

def Whole (c : Char) : Prop := decomposeFully 4 c = [c]

theorem decomposeFully_whole {c : Char} (apart : Hangul.decompose? c = none)
    (last : decomposition? c = none) (steps : Nat) : decomposeFully steps c = [c] := by
  cases steps with
  | zero => rfl
  | succ steps => simp [decomposeFully, apart, last]

theorem part_deep {c part : Char} {parts : List Char} {steps : Nat}
    (spelled : decomposition? c = some parts) (member : part ∈ parts)
    (shallow : (deep (steps + 1)).testBit c.toNat = false) :
    (deep steps).testBit part.toNat = false := by
  by_contra deeper
  have listed : c.toNat ∈ (spellings.filter fun (parts, _) =>
      parts.any fun part => (deep steps).testBit part.toNat).map (·.2) := by
    refine List.mem_map.mpr ⟨(parts, c.toNat), List.mem_filter.mpr
      ⟨decomposition?_iff.mp spelled, List.any_eq_true.mpr ⟨part, member, ?_⟩⟩, rfl⟩
    simpa using deeper
  have deep := (testBit_bitsOf _ _).mpr listed
  rw [Unicode.deep, deep] at shallow
  cases shallow

theorem part_apart {c part : Char} {parts : List Char} (spelled : decomposition? c = some parts)
    (member : part ∈ parts) : Hangul.decompose? part = none := by
  have facts := (spelling_fits (decomposition?_iff.mp spelled)).1
  simp only [isApart, Bool.and_eq_true, List.all_eq_true, Bool.not_eq_true'] at facts
  exact Hangul.decompose?_none (facts.2 part member)

theorem decomposeFully_deep {steps : Nat} {c : Char} (apart : Hangul.decompose? c = none)
    (shallow : (deep steps).testBit c.toNat = false) {more : Nat} (enough : steps ≤ more) :
    decomposeFully more c = decomposeFully steps c ∧
      ∀ part ∈ decomposeFully more c, Whole part := by
  induction steps generalizing c more with
  | zero =>
    have last := decomposition?_none shallow
    rw [decomposeFully_whole apart last, decomposeFully_whole apart last]
    refine ⟨rfl, fun part only => ?_⟩
    rw [List.mem_singleton.mp only]
    exact decomposeFully_whole apart last 4
  | succ steps ih =>
    obtain ⟨more, rfl⟩ : ∃ less, more = less + 1 := ⟨more - 1, by omega⟩
    cases spelled : decomposition? c with
    | none =>
      rw [decomposeFully_whole apart spelled, decomposeFully_whole apart spelled]
      refine ⟨rfl, fun part only => ?_⟩
      rw [List.mem_singleton.mp only]
      exact decomposeFully_whole apart spelled 4
    | some parts =>
      have each : ∀ part ∈ parts, decomposeFully more part = decomposeFully steps part ∧
          ∀ piece ∈ decomposeFully more part, Whole piece := fun part member =>
        ih (part_apart spelled member) (part_deep spelled member shallow) (by omega)
      simp only [decomposeFully, apart, spelled]
      constructor
      · exact List.flatMap_congr fun part member => (each part member).1
      · intro piece inside
        obtain ⟨part, member, within⟩ := List.mem_flatMap.mp inside
        exact (each part member).2 piece within

theorem shallow (c : Char) : (deep 3).testBit c.toNat = false := by
  rw [letters_whole.1, Nat.zero_testBit]

theorem jamo_whole {code : Nat} (low : 0x1100 ≤ code) (high : code < 0x1200) :
    Whole (Char.ofNat code) := by
  have valid : code.isValidChar := Or.inl (by omega)
  have free := letters_whole.2.1 code (List.mem_range'_1.mpr (by omega))
  apply decomposeFully_whole
  · apply Hangul.decompose?_none
    rw [toNat_ofNat valid]
    simp [isSyllable]
    omega
  · apply decomposition?_none
    rw [toNat_ofNat valid]
    exact free

theorem decomposeFully_parts (c : Char) : ∀ part ∈ decomposeFully 4 c, Whole part := by
  cases syllable : Hangul.decompose? c with
  | none => exact (decomposeFully_deep syllable (shallow c) (by omega)).2
  | some parts =>
    simp only [decomposeFully, syllable]
    obtain ⟨lead, vowel, tail, leads, vowels, tails, -, rfl⟩ := Hangul.decompose?_iff.mp syllable
    have first : Whole (Char.ofNat (0x1100 + lead)) := jamo_whole (by omega) (by omega)
    have second : Whole (Char.ofNat (0x1161 + vowel)) := jamo_whole (by omega) (by omega)
    have third : Whole (Char.ofNat (0x11A7 + tail)) := jamo_whole (by omega) (by omega)
    unfold Hangul.parts
    split <;> simp [first, second, third]

def Composes (a b c : Char) : Prop :=
  ([a, b], c.toNat) ∈ spellings ∧ uncomposedRanges.contains c.toNat = false

def Inverts (known : Std.HashMap (Nat × Nat) Char) : Prop :=
  ∀ a b c : Char, known[(a.toNat, b.toNat)]? = some c → Composes a b c

theorem Inverts.insert {known : Std.HashMap (Nat × Nat) Char} (inverts : Inverts known)
    {a b : Char} {code : Nat} (listed : ([a, b], code) ∈ spellings)
    (formed : uncomposedRanges.contains code = false) :
    Inverts (known.insert (a.toNat, b.toNat) (Char.ofNat code)) := by
  intro x y c found
  rw [Std.HashMap.getElem?_insert] at found
  split at found
  next same =>
    simp only [beq_iff_eq, Prod.mk.injEq, Char.toNat_inj] at same
    obtain ⟨rfl, rfl⟩ := same
    cases found
    have facts := (spelling_fits listed).1
    simp only [isApart, Bool.and_eq_true] at facts
    have valid : code.isValidChar := by simpa using facts.1.1
    rw [Composes, toNat_ofNat valid]
    exact ⟨listed, formed⟩
  · exact inverts x y c found

/-- Every composite has just the decomposition that it was made from. -/
theorem composites_inverts : Inverts composites := by
  unfold composites
  rw [← Array.foldl_toList]
  apply List.foldlRecOn
  · intro a b c found
    simp at found
  intro known inverts row member
  apply List.foldlRecOn
  · exact inverts
  intro known inverts piece inside
  have listed : piece ∈ spellings := List.mem_flatMap.mpr ⟨row, member, inside⟩
  obtain ⟨parts, code⟩ := piece
  dsimp only
  split
  · split
    · exact inverts
    next formed => exact inverts.insert listed (by simpa using formed)
  · exact inverts

theorem Hangul.compose?_cases {a b c : Char} (composed : Hangul.compose? a b = some c) :
    ∃ lead vowel tail, lead < 19 ∧ vowel < 21 ∧ tail < 28 ∧
      c.toNat = 0xAC00 + (lead * 21 + vowel) * 28 + tail ∧
      ((tail = 0 ∧ a = Char.ofNat (0x1100 + lead) ∧ b = Char.ofNat (0x1161 + vowel)) ∨
        (tail ≠ 0 ∧ a.toNat = 0xAC00 + (lead * 21 + vowel) * 28 ∧
          b = Char.ofNat (0x11A7 + tail))) := by
  have code : ∀ {x : Char} {n : Nat}, x.toNat = n → x = Char.ofNat n := fun same => by
    rw [← same, Char.ofNat_toNat]
  unfold compose? syllables leads vowels tails leadCount vowelCount tailCount at composed
  dsimp only at composed
  split at composed
  next letters =>
    obtain ⟨low, leads, high, vowels⟩ := letters
    have first : a = Char.ofNat (0x1100 + (a.toNat - 0x1100)) := code (by omega)
    have second : b = Char.ofNat (0x1161 + (b.toNat - 0x1161)) := code (by omega)
    have whole : c.toNat = 0xAC00 + ((a.toNat - 0x1100) * 21 + (b.toNat - 0x1161)) * 28 + 0 := by
      rw [← Option.some.inj composed, Nat.add_zero]
      exact toNat_ofNat (Or.inl (by omega))
    exact ⟨_, _, 0, leads, vowels, by decide, whole, Or.inl ⟨rfl, first, second⟩⟩
  next =>
    split at composed
    next tailed =>
      have third : b = Char.ofNat (0x11A7 + (b.toNat - 0x11A7)) := code (by omega)
      have whole : c.toNat = a.toNat + (b.toNat - 0x11A7) := by
        rw [← Option.some.inj composed]
        exact toNat_ofNat (Or.inl (by omega))
      exact ⟨(a.toNat - 0xAC00) / 588, (a.toNat - 0xAC00) / 28 % 21, b.toNat - 0x11A7, by omega,
        by omega, by omega, by omega, Or.inr ⟨by omega, by omega, third⟩⟩
    next => cases composed

theorem decomposeFully_compose {a b c : Char} (composed : compose? a b = some c) :
    decomposeFully 4 c = decomposeFully 4 a ++ decomposeFully 4 b := by
  unfold compose? at composed
  cases syllable : Hangul.compose? a b with
  | some whole =>
    rw [syllable] at composed
    cases composed
    obtain ⟨lead, vowel, tail, leads, vowels, tails, code, parts⟩ := Hangul.compose?_cases syllable
    have apart : Hangul.decompose? c = some (Hangul.parts lead vowel tail) :=
      Hangul.decompose?_iff.mpr ⟨lead, vowel, tail, leads, vowels, tails, code, rfl⟩
    have first : Whole (Char.ofNat (0x1100 + lead)) := jamo_whole (by omega) (by omega)
    have second : Whole (Char.ofNat (0x1161 + vowel)) := jamo_whole (by omega) (by omega)
    have third : Whole (Char.ofNat (0x11A7 + tail)) := jamo_whole (by omega) (by omega)
    rcases parts with ⟨rfl, rfl, rfl⟩ | ⟨tailed, short, rfl⟩
    · rw [first, second]
      simp [decomposeFully, apart, Hangul.parts]
    · have untailed : Hangul.decompose? a = some (Hangul.parts lead vowel 0) :=
        Hangul.decompose?_iff.mpr ⟨lead, vowel, 0, leads, vowels, by omega, by omega, rfl⟩
      rw [third]
      simp [decomposeFully, apart, untailed, Hangul.parts, tailed]
  | none =>
    rw [syllable] at composed
    obtain ⟨listed, -⟩ := composites_inverts a b c composed
    have spelled : decomposition? c = some [a, b] := decomposition?_iff.mpr listed
    have facts := (spelling_fits listed).1
    simp only [isApart, Bool.and_eq_true, Bool.not_eq_true'] at facts
    have apart : Hangul.decompose? c = none := Hangul.decompose?_none facts.1.2
    have settled : ∀ part ∈ [a, b], decomposeFully 3 part = decomposeFully 4 part := by
      intro part member
      have other := part_apart spelled member
      have shallow := part_deep spelled member (shallow c)
      rw [(decomposeFully_deep other shallow (by omega : 2 ≤ 3)).1,
        (decomposeFully_deep other shallow (by omega : 2 ≤ 4)).1]
    have parted : decomposeFully 4 c = [a, b].flatMap (decomposeFully 3) := by
      rw [decomposeFully, apart]
      dsimp only
      rw [spelled]
    rw [parted, List.flatMap_congr settled]
    simp

section Plain

variable {a b c : Char}

theorem whole_ascii (ascii : c.toNat < 0x80) : Whole c := by
  have facts := letters_whole.2.2.1 c.toNat (List.mem_range.mpr ascii)
  apply decomposeFully_whole
  · apply Hangul.decompose?_none
    simp [isSyllable]
    omega
  · exact decomposition?_none facts.1

theorem combiningClass_ascii (ascii : c.toNat < 0x80) : combiningClass c = 0 := by
  have facts := letters_whole.2.2.1 c.toNat (List.mem_range.mpr ascii)
  unfold combiningClass
  cases found : combiningClasses.find? c.toNat with
  | none => rfl
  | some row =>
    obtain ⟨first, value⟩ := row
    obtain ⟨row, member, holds, -, -⟩ := (Table.find?_iff canonical_sorted.2.2.1).mp found
    have inside := (Table.testBit_bits combiningClasses c.toNat).mpr ⟨row, member, holds⟩
    rw [facts.2] at inside
    cases inside

theorem compose?_beyond (composed : compose? a b = some c) :
    0x80 ≤ c.toNat ∧ 0x80 ≤ b.toNat ∧ a ≠ '.' := by
  unfold compose? at composed
  cases syllable : Hangul.compose? a b with
  | some whole =>
    rw [syllable] at composed
    cases composed
    obtain ⟨lead, vowel, tail, leads, vowels, tails, code, parts⟩ := Hangul.compose?_cases syllable
    rcases parts with ⟨-, rfl, rfl⟩ | ⟨-, short, rfl⟩
    · have first : (Char.ofNat (0x1100 + lead)).toNat = 0x1100 + lead :=
        toNat_ofNat (Or.inl (by omega))
      have second : (Char.ofNat (0x1161 + vowel)).toNat = 0x1161 + vowel :=
        toNat_ofNat (Or.inl (by omega))
      refine ⟨by omega, by omega, fun dot => ?_⟩
      rw [dot] at first
      have : '.'.toNat = 46 := rfl
      omega
    · have third : (Char.ofNat (0x11A7 + tail)).toNat = 0x11A7 + tail :=
        toNat_ofNat (Or.inl (by omega))
      refine ⟨by omega, by omega, fun dot => ?_⟩
      rw [dot] at short
      have : '.'.toNat = 46 := rfl
      omega
  | none =>
    rw [syllable] at composed
    obtain ⟨listed, -⟩ := composites_inverts a b c composed
    have facts := (spelling_fits listed).2.1
    simp only [isBeyond, Bool.and_eq_true, decide_eq_true_iff, bne_iff_ne] at facts
    exact ⟨facts.1.1, facts.2, facts.1.2⟩

end Plain

section Steadiness

variable {a b c : Char}

theorem steady_syllable (low : 0xAC00 ≤ c.toNat) (high : c.toNat ≤ 0xD7A3) : Steady c := by
  obtain ⟨row, member, covers⟩ := letters_whole.2.2.2.1
  have holds : row.Holds c.toNat := ⟨covers.1.trans low, high.trans covers.2⟩
  have inside := (Table.testBit_bits stayingRanges c.toNat).mpr ⟨row, member, holds⟩
  rw [Steady, stayingBits, Nat.testBit_or, inside, Bool.true_or]

theorem steady_part {parts : List Char} (steady : Steady c)
    (spelled : decomposition? c = some parts) : ∀ part ∈ parts, Steady part := by
  have facts := (spelling_fits (decomposition?_iff.mp spelled)).2.2
  have stays : stayingBits.testBit c.toNat = true := steady
  simp only [isSteady, stays, if_true, List.all_eq_true] at facts
  exact facts

theorem Hangul.parts_steady {lead vowel tail : Nat} (leads : lead < 19) (vowels : vowel < 21)
    (tails : tail < 28) : ∀ part ∈ Hangul.parts lead vowel tail, Steady part := by
  obtain ⟨-, -, -, -, jamo⟩ := letters_whole
  simp only [List.mem_append, List.mem_range'_1] at jamo
  have first : Steady (Char.ofNat (0x1100 + lead)) := steady_ofNat (jamo _ (by omega))
  have second : Steady (Char.ofNat (0x1161 + vowel)) := steady_ofNat (jamo _ (by omega))
  unfold Hangul.parts
  split
  · simp [first, second]
  next tailed =>
    have third : Steady (Char.ofNat (0x11A7 + tail)) := steady_ofNat (jamo _ (by omega))
    simp [first, second, third]

theorem decomposeFully_steady (steps : Nat) (steady : Steady c) :
    ∀ part ∈ decomposeFully steps c, Steady part := by
  induction steps generalizing c with
  | zero => simpa [decomposeFully] using steady
  | succ steps ih =>
    rw [decomposeFully]
    cases syllable : Hangul.decompose? c with
    | some parts =>
      obtain ⟨lead, vowel, tail, leads, vowels, tails, -, rfl⟩ := Hangul.decompose?_iff.mp syllable
      exact Hangul.parts_steady leads vowels tails
    | none =>
      cases spelled : decomposition? c with
      | none => simpa using steady
      | some parts =>
        intro piece inside
        obtain ⟨part, member, within⟩ := List.mem_flatMap.mp inside
        exact ih (steady_part steady spelled part member) piece within

theorem compose?_steady (composed : compose? a b = some c) (first : Steady a) (second : Steady b) :
    Steady c := by
  unfold compose? at composed
  cases syllable : Hangul.compose? a b with
  | some whole =>
    rw [syllable] at composed
    cases composed
    obtain ⟨lead, vowel, tail, leads, vowels, tails, code, -⟩ := Hangul.compose?_cases syllable
    exact steady_syllable (by omega) (by omega)
  | none =>
    rw [syllable] at composed
    obtain ⟨listed, formed⟩ := composites_inverts a b c composed
    have unlisted : uncomposedRanges.bits.testBit c.toNat = false := by
      rw [← Bool.not_eq_true, ← Ranges.contains_iff canonical_sorted.2.1, formed]
      nofun
    have facts := (spelling_fits listed).2.2
    unfold Steady at *
    by_contra unsteady
    simp [isSteady, unsteady, unlisted, first, second] at facts

end Steadiness

end Sitemaps.Unicode
