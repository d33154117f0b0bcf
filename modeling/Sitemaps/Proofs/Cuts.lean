import Sitemaps.Xml.Token

/-!
Where a delimiter is found. It is found at the same place in an input that goes on, and what is
written between delimiters, as long as it holds none, is cut where it was written to end.
-/

namespace Sitemaps.Xml

section Cuts

def cutAt (ends : List UInt8 → UInt8 → Bool) (read : List UInt8) : List UInt8 → Option Cut
  | [] => none
  | b :: rest => if ends read b then some (read.reverse, rest) else cutAt ends (b :: read) rest

def endsInstruction (read : List UInt8) (b : UInt8) : Bool := b == 0x3E && read.head? == some 0x3F

def endsComment (read : List UInt8) (b : UInt8) : Bool :=
  b == 0x3E && 4 ≤ read.length && read.take 2 == [0x2D, 0x2D]

def endsCData (read : List UInt8) (b : UInt8) : Bool := b == 0x3E && read.take 2 == [0x5D, 0x5D]

variable (read bytes : List UInt8)

theorem cutInstruction_eq : cutInstruction read bytes = cutAt endsInstruction read bytes := by
  induction bytes generalizing read with
  | nil => rfl
  | cons b rest ih =>
    rw [cutInstruction, cutAt, ih]
    rfl

theorem cutComment_eq : cutComment read bytes = cutAt endsComment read bytes := by
  induction bytes generalizing read with
  | nil => rfl
  | cons b rest ih =>
    rw [cutComment, cutAt, ih]
    rfl

theorem cutCData_eq : cutCData read bytes = cutAt endsCData read bytes := by
  induction bytes generalizing read with
  | nil => rfl
  | cons b rest ih =>
    rw [cutCData, cutAt, ih]
    rfl

variable {quote : Option UInt8} {depth : Nat} {ends : List UInt8 → UInt8 → Bool}
  {read bytes content rest : List UInt8} (more : List UInt8)

theorem cutAt_append (cut : cutAt ends read bytes = some (content, rest)) :
    cutAt ends read (bytes ++ more) = some (content, rest ++ more) := by
  induction bytes generalizing read with
  | nil => cases cut
  | cons b tail ih =>
    rw [cutAt] at cut
    rw [List.cons_append, cutAt]
    split at cut
    · rename_i closes
      cases cut
      rw [if_pos closes]
    · rename_i inside
      rw [if_neg inside]
      exact ih cut

theorem cutTag_append (cut : cutTag quote read bytes = some (content, rest)) :
    cutTag quote read (bytes ++ more) = some (content, rest ++ more) := by
  induction bytes generalizing quote read with
  | nil => cases cut
  | cons b tail ih =>
    rw [List.cons_append]
    unfold cutTag at cut ⊢
    cases quote with
    | none =>
      dsimp only at cut ⊢
      split at cut
      · rename_i closes
        cases cut
        rw [if_pos closes]
      · rename_i inside
        rw [if_neg inside]
        exact ih cut
    | some mark => exact ih cut

theorem cutDoctype_append (cut : cutDoctype depth read bytes = some (content, rest)) :
    cutDoctype depth read (bytes ++ more) = some (content, rest ++ more) := by
  induction bytes generalizing depth read with
  | nil => cases cut
  | cons b tail ih =>
    rw [cutDoctype] at cut
    rw [List.cons_append, cutDoctype]
    split at cut
    · rename_i closes
      cases cut
      rw [if_pos closes]
    · rename_i inside
      rw [if_neg inside]
      exact ih cut

end Cuts

section Written

variable {ends : List UInt8 → UInt8 → Bool} {b x : UInt8}
  {start body finish read content before after : List UInt8} (rest : List UInt8)

theorem cutAt_found (closes : ends (content.reverse ++ read) b = true)
    (inside : ∀ before x after, content = before ++ x :: after →
      ends (before.reverse ++ read) x = false) :
    cutAt ends read (content ++ b :: rest) = some (read.reverse ++ content, rest) := by
  induction content generalizing read with
  | nil =>
    rw [List.nil_append, cutAt, if_pos (by simpa using closes), List.append_nil]
  | cons c content ih =>
    have first : ends read c = false := inside [] c content rfl
    rw [List.cons_append, cutAt, first, if_neg Bool.false_ne_true, ih]
    · simp
    · simpa using closes
    · intro before x after same
      have later := inside (c :: before) x after (by rw [same]; rfl)
      simpa using later

theorem split_body (start : List UInt8) (opens : x ∉ start) (closes : x ∉ finish)
    (same : start ++ body ++ finish = before ++ x :: after) :
    ∃ inner outer, body = inner ++ x :: outer ∧ before = start ++ inner := by
  rw [List.append_assoc] at same
  rcases List.append_eq_append_iff.mp same with ⟨inner, rfl, left⟩ | ⟨inner, started, left⟩
  · rcases List.append_eq_append_iff.mp left with ⟨outer, rfl, ended⟩ | ⟨outer, rfl, ended⟩
    · exact absurd (ended ▸ by simp) closes
    · cases outer with
      | nil =>
        rw [List.nil_append] at ended
        exact absurd (ended ▸ List.mem_cons_self) closes
      | cons y outer =>
        obtain ⟨rfl, -⟩ := List.cons.inj ended
        exact ⟨inner, outer, rfl, rfl⟩
  · cases inner with
    | nil =>
      rw [List.append_nil] at started
      subst started
      cases body with
      | nil =>
        rw [List.nil_append, List.nil_append] at left
        exact absurd (left ▸ List.mem_cons_self) closes
      | cons y body =>
        obtain ⟨rfl, -⟩ := List.cons.inj left
        exact ⟨[], body, rfl, by rw [List.append_nil]⟩
    | cons y inner =>
      obtain ⟨rfl, -⟩ := List.cons.inj left
      exact absurd (started ▸ by simp) opens

theorem cutCData_found (closed : ¬[0x5D, 0x5D, 0x3E] <:+: body) :
    cutCData [] (cdataWord ++ body ++ [0x5D, 0x5D] ++ 0x3E :: rest) =
      some (cdataWord ++ body ++ [0x5D, 0x5D], rest) := by
  rw [cutCData_eq, cutAt_found rest]
  · rfl
  · simp [endsCData]
  · intro before x after same
    cases ends : endsCData (before.reverse ++ []) x with
    | false => rfl
    | true =>
      simp only [endsCData, List.append_nil, Bool.and_eq_true, beq_iff_eq] at ends
      obtain ⟨rfl, marks⟩ := ends
      obtain ⟨inner, outer, rfl, rfl⟩ := split_body _ (by decide) (by decide) same
      rw [List.reverse_append] at marks
      rcases backwards : inner.reverse with _ | ⟨y, _ | ⟨z, early⟩⟩
      · simp [backwards, cdataWord] at marks
      · simp [backwards, cdataWord] at marks
      · rw [backwards] at marks
        obtain ⟨rfl, rfl⟩ : y = 0x5D ∧ z = 0x5D := by simpa using marks
        refine absurd ⟨early.reverse, outer, ?_⟩ closed
        rw [← List.reverse_reverse inner, backwards]
        simp

theorem cutComment_found (closed : ¬[0x2D, 0x2D, 0x3E] <:+: body) :
    cutComment [] ([0x2D, 0x2D] ++ body ++ [0x2D, 0x2D] ++ 0x3E :: rest) =
      some ([0x2D, 0x2D] ++ body ++ [0x2D, 0x2D], rest) := by
  rw [cutComment_eq, cutAt_found rest]
  · rfl
  · simp [endsComment]
  · intro before x after same
    cases ends : endsComment (before.reverse ++ []) x with
    | false => rfl
    | true =>
      simp only [endsComment, List.append_nil, Bool.and_eq_true, beq_iff_eq,
        decide_eq_true_eq] at ends
      obtain ⟨⟨rfl, long⟩, marks⟩ := ends
      obtain ⟨inner, outer, rfl, rfl⟩ := split_body _ (by decide) (by decide) same
      rw [List.reverse_append] at marks long
      -- the marks that open the comment do not close it
      rcases backwards : inner.reverse with _ | ⟨y, _ | ⟨z, early⟩⟩
      · simp [backwards] at long
      · simp [backwards] at long
      · rw [backwards] at marks
        obtain ⟨rfl, rfl⟩ : y = 0x2D ∧ z = 0x2D := by simpa using marks
        refine absurd ⟨early.reverse, outer, ?_⟩ closed
        rw [← List.reverse_reverse inner, backwards]
        simp

theorem cutInstruction_found (closed : ¬[0x3F, 0x3E] <:+: 0x3F :: body) :
    cutInstruction [0x3F] (body ++ [0x3F] ++ 0x3E :: rest) =
      some (0x3F :: body ++ [0x3F], rest) := by
  rw [cutInstruction_eq, cutAt_found rest]
  · rfl
  · simp [endsInstruction]
  · intro before x after same
    cases ends : endsInstruction (before.reverse ++ [0x3F]) x with
    | false => rfl
    | true =>
      simp only [endsInstruction, Bool.and_eq_true, beq_iff_eq] at ends
      obtain ⟨rfl, mark⟩ := ends
      obtain ⟨inner, outer, rfl, started⟩ := split_body [] (by decide) (by decide) same
      rw [started, List.nil_append] at mark
      rcases backwards : inner.reverse with _ | ⟨y, early⟩
      · rw [List.reverse_eq_nil_iff] at backwards
        subst backwards
        exact absurd ⟨[], outer, rfl⟩ closed
      · rw [backwards] at mark
        obtain rfl : y = 0x3F := by simpa using mark
        refine absurd ⟨0x3F :: early.reverse, outer, ?_⟩ closed
        rw [← List.reverse_reverse inner, backwards]
        simp

theorem cutTag_bare (bare : ∀ c ∈ content, c ≠ 0x22 ∧ c ≠ 0x27 ∧ c ≠ 0x3E) :
    cutTag none read (content ++ rest) = cutTag none (content.reverse ++ read) rest := by
  induction content generalizing read with
  | nil => rfl
  | cons c content ih =>
    obtain ⟨double, single, closing⟩ := bare c List.mem_cons_self
    rw [List.cons_append, cutTag]
    simp only [beq_iff_eq, closing, double, single, Bool.or_eq_true, or_false, if_false]
    rw [ih fun d member => bare d (List.mem_cons_of_mem c member)]
    simp

theorem cutTag_quoted (quoted : x ∉ content) :
    cutTag (some x) read (content ++ x :: rest) =
      cutTag none (x :: content.reverse ++ read) rest := by
  induction content generalizing read with
  | nil =>
    rw [List.nil_append, cutTag]
    simp
  | cons c content ih =>
    have other : c ≠ x := fun same => quoted (same ▸ List.mem_cons_self)
    rw [List.cons_append, cutTag]
    simp only [beq_iff_eq, other, if_false]
    rw [ih fun member => quoted (List.mem_cons_of_mem c member)]
    simp

end Written

end Sitemaps.Xml
