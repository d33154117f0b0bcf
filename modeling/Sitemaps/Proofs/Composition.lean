import Sitemaps.Proofs.Decomposition

/-!
Canonical composition does not change what it has made. A mark that is composed with its starter
passes marks of lower classes only, so it finds its place again when the text is taken apart.
-/

namespace Sitemaps.Unicode

section Marks

variable {run rest text other : List Char} {c mark : Char}

def Ordered (text : List Char) : Prop :=
  text.IsChain fun a b => combiningClass b = 0 ∨ combiningClass a ≤ combiningClass b

theorem mem_insertMark : c ∈ insertMark mark run ↔ c = mark ∨ c ∈ run := by
  induction run with
  | nil => simp [insertMark]
  | cons first run ih =>
    unfold insertMark
    split <;> simp [ih, or_left_comm]

theorem insertMark_pairwise
    (sorted : run.Pairwise fun a b => combiningClass a ≤ combiningClass b) :
    (insertMark mark run).Pairwise fun a b => combiningClass a ≤ combiningClass b := by
  induction run with
  | nil => simp [insertMark]
  | cons first run ih =>
    obtain ⟨least, later⟩ := List.pairwise_cons.mp sorted
    unfold insertMark
    split
    next low =>
      refine List.pairwise_cons.mpr ⟨fun c member => ?_, ih later⟩
      rcases mem_insertMark.mp member with rfl | member
      · exact low
      · exact least c member
    next high =>
      refine List.pairwise_cons.mpr ⟨fun c member => ?_, sorted⟩
      rcases List.mem_cons.mp member with rfl | member
      · omega
      · have := least c member
        omega

theorem orderMarks_ordered
    (sorted : run.Pairwise fun a b => combiningClass a ≤ combiningClass b) :
    Ordered (orderMarks run text) := by
  induction text generalizing run with
  | nil => exact sorted.isChain.imp fun _ _ => Or.inr
  | cons c rest ih =>
    unfold orderMarks
    split
    next starter =>
      refine List.isChain_append.mpr ⟨sorted.isChain.imp fun _ _ => Or.inr, ?_, ?_⟩
      · refine List.isChain_cons.mpr ⟨fun next _ => Or.inr ?_, ih List.Pairwise.nil⟩
        omega
      · intro last _ next first
        cases first
        exact Or.inl starter
    next => exact ih (insertMark_pairwise sorted)

theorem Ordered.le_last (ordered : Ordered (run ++ mark :: rest))
    (marks : ∀ c ∈ run, combiningClass c ≠ 0) (high : combiningClass mark ≠ 0) :
    ∀ c ∈ run, combiningClass c ≤ combiningClass mark := by
  induction run with
  | nil => nofun
  | cons first run ih =>
    obtain ⟨-, others⟩ := List.forall_mem_cons.mp marks
    obtain ⟨step, later⟩ := List.isChain_cons.mp ordered
    have below := ih later others
    refine List.forall_mem_cons.mpr ⟨?_, below⟩
    cases run with
    | nil => exact (step mark rfl).resolve_left high
    | cons second run =>
      have next := (step second rfl).resolve_left (others second List.mem_cons_self)
      exact next.trans (below second List.mem_cons_self)

theorem insertMark_last (low : ∀ c ∈ run, combiningClass c ≤ combiningClass mark) :
    insertMark mark run = run ++ [mark] := by
  induction run with
  | nil => rfl
  | cons first run ih =>
    obtain ⟨here, later⟩ := List.forall_mem_cons.mp low
    simp [insertMark, here, ih later]

theorem orderMarks_self (ordered : Ordered (run ++ text))
    (marks : ∀ c ∈ run, combiningClass c ≠ 0) : orderMarks run text = run ++ text := by
  induction text generalizing run with
  | nil => simp [orderMarks]
  | cons c rest ih =>
    unfold orderMarks
    split
    next starter =>
      have later : Ordered ([] ++ rest) := (List.isChain_append.mp ordered).2.1.tail
      rw [ih later nofun, List.nil_append]
    next high =>
      rw [insertMark_last (ordered.le_last marks high), ih (by simpa using ordered),
        List.append_assoc]
      · rfl
      · intro mark member
        rcases List.mem_append.mp member with before | last
        · exact marks mark before
        · rwa [List.mem_singleton.mp last]

theorem Ordered.drop (ordered : Ordered (run ++ mark :: rest))
    (low : ∀ c ∈ run, combiningClass c ≤ combiningClass mark) : Ordered (run ++ rest) := by
  obtain ⟨first, last, -⟩ := List.isChain_append.mp ordered
  obtain ⟨next, later⟩ := List.isChain_cons.mp last
  refine List.isChain_append.mpr ⟨first, later, fun c ends starter starts => ?_⟩
  have below := low c (List.mem_of_mem_getLast? ends)
  rcases next starter starts with starter | above
  · exact Or.inl starter
  · exact Or.inr (below.trans above)

/-- Texts that ordering makes one text, whatever marks stand before them. -/
def Reordered (text other : List Char) : Prop :=
  ∀ run, orderMarks run text = orderMarks run other

theorem Reordered.append (same : Reordered text other) (before : List Char) :
    Reordered (before ++ text) (before ++ other) := by
  induction before with
  | nil => exact same
  | cons c before ih =>
    intro run
    simp only [List.cons_append, orderMarks]
    rw [ih [], ih (insertMark c run)]

theorem insertMark_comm {other : Char} (apart : combiningClass mark ≠ combiningClass other) :
    insertMark mark (insertMark other run) = insertMark other (insertMark mark run) := by
  induction run with
  | nil =>
    rcases Nat.lt_or_gt_of_ne apart with lower | higher
    · simp [insertMark, lower.le, Nat.not_le.mpr lower]
    · simp [insertMark, higher.le, Nat.not_le.mpr higher]
  | cons c run ih =>
    by_cases first : combiningClass c ≤ combiningClass mark
    · by_cases second : combiningClass c ≤ combiningClass other
      · simp [insertMark, first, second, ih]
      · simp [insertMark, first, second]
        omega
    · by_cases second : combiningClass c ≤ combiningClass other
      · simp [insertMark, first, second]
        omega
      · rcases Nat.lt_or_gt_of_ne apart with lower | higher
        · simp [insertMark, first, second, lower.le, Nat.not_le.mpr lower]
        · simp [insertMark, first, second, higher.le, Nat.not_le.mpr higher]

theorem reordered_pass {passed : List Char}
    (marks : ∀ k ∈ passed, combiningClass k ≠ 0 ∧ combiningClass k < combiningClass c) :
    Reordered (c :: (passed ++ rest)) (passed ++ c :: rest) := by
  induction passed with
  | nil => exact fun _ => rfl
  | cons k passed ih =>
    obtain ⟨here, later⟩ := List.forall_mem_cons.mp marks
    have swapped : Reordered (c :: k :: (passed ++ rest)) (k :: c :: (passed ++ rest)) := by
      intro run
      have high : combiningClass c ≠ 0 := by omega
      simp only [orderMarks, high, here.1, if_false]
      rw [insertMark_comm (by omega)]
    have onward : Reordered ([k] ++ c :: (passed ++ rest)) ([k] ++ (passed ++ c :: rest)) :=
      (ih later).append [k]
    exact fun run => (swapped run).trans (onward run)

end Marks

section Composition

variable {starter c : Char} {kept rest text : List Char} {barrier : Nat}

structure Settled (text : List Char) : Prop where
  ordered : Ordered text
  whole : ∀ c ∈ text, Whole c

theorem flatMap_whole (whole : ∀ c ∈ text, Whole c) : text.flatMap (decomposeFully 4) = text := by
  induction text with
  | nil => rfl
  | cons c rest ih =>
    obtain ⟨first, later⟩ := List.forall_mem_cons.mp whole
    rw [List.flatMap_cons, first, ih later]
    rfl

theorem mem_orderMarks {run : List Char} (member : c ∈ orderMarks run text) :
    c ∈ run ∨ c ∈ text := by
  induction text generalizing run with
  | nil => exact Or.inl member
  | cons first rest ih =>
    unfold orderMarks at member
    split at member
    · rcases List.mem_append.mp member with before | after
      · exact Or.inl before
      · rcases List.mem_cons.mp after with rfl | after
        · exact Or.inr List.mem_cons_self
        · rcases ih after with nowhere | later
          · cases nowhere
          · exact Or.inr (List.mem_cons_of_mem _ later)
    · rcases ih member with inserted | later
      · rcases mem_insertMark.mp inserted with rfl | before
        · exact Or.inr List.mem_cons_self
        · exact Or.inl before
      · exact Or.inr (List.mem_cons_of_mem _ later)

theorem mem_decomposed (member : c ∈ decomposed text) :
    ∃ origin ∈ text, c ∈ decomposeFully 4 origin := by
  rcases mem_orderMarks member with nowhere | inside
  · cases nowhere
  · exact List.mem_flatMap.mp inside

theorem decomposed_settled (text : List Char) : Settled (decomposed text) := by
  refine ⟨orderMarks_ordered List.Pairwise.nil, fun c member => ?_⟩
  obtain ⟨origin, -, part⟩ := mem_decomposed member
  exact decomposeFully_parts origin c part

theorem composeFrom_reordered (wholeKept : ∀ k ∈ kept, Whole k) (wholeRest : ∀ c ∈ rest, Whole c)
    (ordered : Ordered (kept.reverse ++ rest))
    (below : ∀ k ∈ kept, combiningClass k ≠ 0 ∧ combiningClass k ≤ barrier) :
    Reordered ((composeFrom starter kept barrier rest).flatMap (decomposeFully 4))
      (decomposeFully 4 starter ++ (kept.reverse ++ rest)) := by
  induction rest generalizing starter kept barrier with
  | nil =>
    intro run
    rw [composeFrom, List.flatMap_cons, flatMap_whole (by simpa using wholeKept), List.append_nil]
  | cons c rest ih =>
    obtain ⟨whole, others⟩ := List.forall_mem_cons.mp wholeRest
    have marks : ∀ k ∈ kept.reverse, combiningClass k ≠ 0 := fun k member =>
      (below k (List.mem_reverse.mp member)).1
    unfold composeFrom
    dsimp only
    split
    next combined found =>
      rw [Option.ite_none_left_eq_some] at found
      obtain ⟨unblocked, composes⟩ := found
      have passes : ∀ k ∈ kept.reverse,
          combiningClass k ≠ 0 ∧ combiningClass k < combiningClass c := by
        intro k member
        have kept := List.mem_reverse.mp member
        have := below k kept
        simp [List.ne_nil_of_mem kept] at unblocked
        omega
      have ordered := ordered.drop fun k member => (passes k member).2.le
      have moved : Reordered (decomposeFully 4 starter ++ c :: (kept.reverse ++ rest))
          (decomposeFully 4 starter ++ (kept.reverse ++ c :: rest)) :=
        (reordered_pass passes).append _
      have parted : decomposeFully 4 combined ++ (kept.reverse ++ rest) =
          decomposeFully 4 starter ++ c :: (kept.reverse ++ rest) := by
        rw [decomposeFully_compose composes, whole, List.append_assoc]
        rfl
      intro run
      rw [ih wholeKept others ordered below run, parted]
      exact moved run
    next =>
      split
      next starts =>
        have later : Ordered rest := (List.isChain_append.mp ordered).2.1.tail
        have onward : Reordered ((composeFrom c [] 0 rest).flatMap (decomposeFully 4))
            (decomposeFully 4 c ++ rest) := ih (by simp) others later (by simp)
        rw [whole] at onward
        have same : kept.reverse.flatMap (decomposeFully 4) = kept.reverse :=
          flatMap_whole (by simpa using wholeKept)
        rw [List.cons_append, List.flatMap_cons, List.flatMap_append, same]
        exact (onward.append kept.reverse).append _
      next high =>
        have higher := ordered.le_last marks high
        have reaches : ∀ k ∈ c :: kept,
            combiningClass k ≠ 0 ∧ combiningClass k ≤ combiningClass c :=
          List.forall_mem_cons.mpr ⟨⟨high, le_rfl⟩, fun k member =>
            ⟨(below k member).1, higher k (List.mem_reverse.mpr member)⟩⟩
        simpa using ih (List.forall_mem_cons.mpr ⟨whole, wholeKept⟩) others
          (by simpa using ordered) reaches

theorem composed_reordered (settled : Settled text) :
    Reordered ((composed text).flatMap (decomposeFully 4)) text := by
  induction text with
  | nil => exact fun _ => rfl
  | cons c rest ih =>
    obtain ⟨whole, others⟩ := List.forall_mem_cons.mp settled.whole
    have later : Ordered rest := settled.ordered.tail
    unfold composed
    split
    · have onward : Reordered ((composeFrom c [] 0 rest).flatMap (decomposeFully 4))
          (decomposeFully 4 c ++ rest) := composeFrom_reordered (by simp) others later (by simp)
      rw [whole] at onward
      exact onward
    · rw [List.flatMap_cons, whole]
      exact (ih ⟨later, others⟩).append [c]

/-- Composed text is canonical. -/
theorem canonical_composed (settled : Settled text) :
    canonical (composed text) = composed text := by
  have back : decomposed (composed text) = text := by
    rw [decomposed, composed_reordered settled []]
    exact orderMarks_self settled.ordered (by simp)
  rw [canonical, back]

theorem composeFrom_steady (steady : Steady starter) (before : ∀ k ∈ kept, Steady k)
    (after : ∀ c ∈ rest, Steady c) : ∀ c ∈ composeFrom starter kept barrier rest, Steady c := by
  induction rest generalizing starter kept barrier with
  | nil => simpa [composeFrom, steady] using before
  | cons c rest ih =>
    obtain ⟨here, later⟩ := List.forall_mem_cons.mp after
    unfold composeFrom
    dsimp only
    split
    next combined found =>
      rw [Option.ite_none_left_eq_some] at found
      exact ih (compose?_steady found.2 steady here) before later
    next =>
      split
      · have kept : ∀ k ∈ kept.reverse, Steady k := by simpa using before
        rw [List.cons_append]
        exact List.forall_mem_cons.mpr
          ⟨steady, List.forall_mem_append.mpr ⟨kept, ih here (by simp) later⟩⟩
      · exact ih steady (List.forall_mem_cons.mpr ⟨here, before⟩) later

theorem canonical_steady (steady : ∀ c ∈ text, Steady c) : ∀ c ∈ canonical text, Steady c := by
  have parts : ∀ c ∈ decomposed text, Steady c := by
    intro c member
    obtain ⟨origin, inside, part⟩ := mem_decomposed member
    exact decomposeFully_steady 4 (steady origin inside) c part
  unfold canonical
  generalize decomposed text = pieces at parts
  induction pieces with
  | nil => simp [composed]
  | cons c rest ih =>
    obtain ⟨here, later⟩ := List.forall_mem_cons.mp parts
    unfold composed
    split
    · exact composeFrom_steady here (by simp) later
    · exact List.forall_mem_cons.mpr ⟨here, ih later⟩

end Composition

section Plain

variable {starter c : Char} {kept before rest text : List Char} {barrier : Nat}

theorem compose?_ascii (ascii : c.toNat < 0x80) : compose? starter c = none := by
  cases composed : compose? starter c with
  | none => rfl
  | some whole =>
    have beyond := (compose?_beyond composed).2.1
    omega

theorem compose?_dot : compose? '.' c = none := by
  cases composed : compose? '.' c with
  | none => rfl
  | some whole => exact absurd rfl (compose?_beyond composed).2.2

theorem composeFrom_dot : composeFrom starter kept barrier (before ++ '.' :: rest) =
    composeFrom starter kept barrier before ++ composeFrom '.' [] 0 rest := by
  have ascii : '.'.toNat < 0x80 := by decide
  induction before generalizing starter kept barrier with
  | nil => simp [composeFrom, combiningClass_ascii ascii, compose?_ascii ascii]
  | cons c before ih =>
    simp only [List.cons_append, composeFrom]
    split
    · exact ih
    · split
      · rw [ih, List.cons_append, List.append_assoc]
      · exact ih

theorem composeFrom_after_dot : composeFrom '.' kept barrier rest =
    '.' :: kept.reverse ++ composed rest := by
  induction rest generalizing kept barrier with
  | nil => simp [composeFrom, composed]
  | cons c rest ih =>
    simp only [composeFrom, compose?_dot, ite_self, composed]
    split
    · rfl
    · simp [ih]

theorem composed_dot :
    composed (before ++ '.' :: rest) = composed before ++ '.' :: composed rest := by
  have ascii : '.'.toNat < 0x80 := by decide
  induction before with
  | nil => simp [composed, combiningClass_ascii ascii, composeFrom_after_dot]
  | cons c before ih =>
    simp only [List.cons_append, composed]
    split
    · rw [composeFrom_dot, composeFrom_after_dot]
      rfl
    · rw [ih, List.cons_append]

theorem composeFrom_dotless (first : starter ≠ '.') (before : '.' ∉ kept) (after : '.' ∉ rest) :
    '.' ∉ composeFrom starter kept barrier rest := by
  induction rest generalizing starter kept barrier with
  | nil => simpa [composeFrom] using ⟨first.symm, before⟩
  | cons c rest ih =>
    obtain ⟨here, later⟩ : '.' ≠ c ∧ '.' ∉ rest := by simpa using after
    unfold composeFrom
    dsimp only
    split
    next combined found =>
      rw [Option.ite_none_left_eq_some] at found
      have beyond := (compose?_beyond found.2).1
      refine ih (fun dot => ?_) before later
      rw [dot] at beyond
      exact absurd beyond (by decide)
    next =>
      split
      · have onward : '.' ∉ composeFrom c [] 0 rest := ih here.symm (by simp) later
        simp [first.symm, before, onward]
      · exact ih first (by simp [here, before]) later

theorem composed_dotless (dotless : '.' ∉ text) : '.' ∉ composed text := by
  induction text with
  | nil => simp [composed]
  | cons c rest ih =>
    obtain ⟨here, later⟩ : '.' ≠ c ∧ '.' ∉ rest := by simpa using dotless
    unfold composed
    split
    · exact composeFrom_dotless here.symm (by simp) later
    · simp [here, ih later]

theorem composeFrom_ascii (ascii : ∀ c ∈ rest, c.toNat < 0x80) :
    composeFrom starter [] 0 rest = starter :: rest := by
  induction rest generalizing starter with
  | nil => rfl
  | cons c rest ih =>
    obtain ⟨here, later⟩ := List.forall_mem_cons.mp ascii
    simp [composeFrom, compose?_ascii here, combiningClass_ascii here, ih later]

theorem canonical_ascii (ascii : ∀ c ∈ text, c.toNat < 0x80) : canonical text = text := by
  have apart : decomposed text = text := by
    rw [decomposed, flatMap_whole fun c member => whole_ascii (ascii c member)]
    induction text with
    | nil => rfl
    | cons c rest ih =>
      obtain ⟨here, later⟩ := List.forall_mem_cons.mp ascii
      simp [orderMarks, combiningClass_ascii here, ih later]
  rw [canonical, apart]
  cases text with
  | nil => rfl
  | cons c rest =>
    obtain ⟨here, later⟩ := List.forall_mem_cons.mp ascii
    simp [composed, combiningClass_ascii here, composeFrom_ascii later]

end Plain

end Sitemaps.Unicode
