import Sitemaps.Proofs.Course

/-!
What workers do for their roots, in the order in which it happens. Traces that agree on every root
differ in their order only, and if no page was handed over for two roots they store the same.
-/

namespace Sitemaps

/-- Deeds in order, each with the root that it was done for. -/
abbrev Trace := List (Root × Deed)

namespace Trace

def deeds (trace : Trace) : List Deed := trace.map Prod.snd

def ofRoot (root : Root) (trace : Trace) : List Deed :=
  (trace.filter (·.1 == root)).map Prod.snd

def tag (root : Root) (deeds : List Deed) : Trace := deeds.map (root, ·)

/-- No URL was handed over for two different roots. -/
def Apart (trace : Trace) : Prop :=
  ∀ (first second : Root) (entry other : Sitemap.Entry), (first, .hand entry) ∈ trace →
    (second, .hand other) ∈ trace → entry.reference = other.reference → first = second

instance (trace : Trace) : Decidable trace.Apart :=
  decidable_of_iff (∀ step ∈ trace, ∀ other ∈ trace, ∀ entry ∈ Deed.entry? step.2,
      ∀ twin ∈ Deed.entry? other.2, entry.reference = twin.reference → step.1 = other.1) <| by
    constructor
    · intro apart first second entry other here there same
      exact apart _ here _ there entry rfl other rfl same
    · rintro apart ⟨first, deed⟩ here ⟨second, found⟩ there entry handed twin given same
      cases deed with
      | attempt location announced => cases handed
      | hand own =>
        cases found with
        | attempt location announced => cases given
        | hand other =>
          cases handed
          cases given
          exact apart first second entry twin here there same

section Parts

variable (root other : Root) (first second : Trace) (deed : Deed) (done : List Deed)

theorem deeds_append : Trace.deeds (first ++ second) = first.deeds ++ second.deeds :=
  List.map_append

theorem deeds_tag : (tag root done).deeds = done := by
  unfold deeds tag
  rw [List.map_map]
  exact List.map_id done

theorem ofRoot_append :
    ofRoot root (first ++ second) = ofRoot root first ++ ofRoot root second := by
  simp [ofRoot]

theorem ofRoot_cons :
    ofRoot root ((other, deed) :: first) = (if other = root then [deed] else []) ++
      ofRoot root first := by
  by_cases same : other = root <;> simp [ofRoot, same]

theorem ofRoot_tag : ofRoot root (tag other done) = if other = root then done else [] := by
  induction done with
  | nil => simp [tag, ofRoot]
  | cons deed rest ih =>
    have next : tag other (deed :: rest) = (other, deed) :: tag other rest := rfl
    rw [next, ofRoot_cons, ih]
    split <;> rfl

theorem filter_root : first.filter (·.1 == root) = tag root (first.ofRoot root) := by
  unfold tag ofRoot
  rw [List.map_map]
  refine (List.map_id _).symm.trans (List.map_congr_left ?_)
  rintro ⟨other, deed⟩ member
  simp only [List.mem_filter, beq_iff_eq] at member
  simp [member.2]

end Parts

variable {first second : Trace}

theorem perm_of_roots (same : ∀ root, first.ofRoot root = second.ofRoot root) :
    first.Perm second := by
  induction first generalizing second with
  | nil =>
    cases second with
    | nil => exact .nil
    | cons step rest => simpa [ofRoot] using same step.1
  | cons step rest ih =>
    obtain ⟨root, deed⟩ := step
    have found : second.filter (·.1 == root) = (root, deed) :: tag root (ofRoot root rest) := by
      rw [filter_root, ← same, ofRoot_cons, if_pos rfl]
      rfl
    obtain ⟨before, after, rfl, others, -, -⟩ := List.filter_eq_cons_iff.mp found
    have none_before : ofRoot root before = [] := by
      unfold ofRoot
      rw [List.filter_eq_nil_iff.mpr others]
      rfl
    have rest_same : ∀ other, ofRoot other rest = ofRoot other (before ++ after) := by
      intro other
      have here := same other
      rw [ofRoot_append, ofRoot_cons, ofRoot_cons] at here
      rw [ofRoot_append]
      by_cases own : root = other
      · subst own
        simpa [none_before] using here
      · simpa [own] using here
    exact ((ih rest_same).cons _).trans List.perm_middle.symm

theorem about_owner {trace : Trace} {url : String} {owner : Root}
    (owned : ∀ root entry, (root, .hand entry) ∈ trace → entry.reference = url → root = owner) :
    Tables.about url ((Deed.handed trace.deeds).map Page.ofEntry) =
      Tables.about url ((Deed.handed (trace.ofRoot owner)).map Page.ofEntry) := by
  induction trace with
  | nil => rfl
  | cons step rest ih =>
    obtain ⟨root, deed⟩ := step
    have tail := ih fun other entry member => owned other entry (List.mem_cons_of_mem _ member)
    have split : Trace.deeds ((root, deed) :: rest) = [deed] ++ Trace.deeds rest := rfl
    rw [split, Deed.handed_append, List.map_append, Tables.about_append, tail, ofRoot_cons,
      Deed.handed_append, List.map_append, Tables.about_append]
    congr 1
    by_cases own : root = owner
    · rw [if_pos own]
    · rw [if_neg own]
      cases deed with
      | attempt location found => rfl
      | hand entry =>
        have elsewhere : entry.reference ≠ url :=
          fun here => own (owned root entry List.mem_cons_self here)
        simp [Deed.handed, Deed.entry?, Tables.about, Page.ofEntry, elsewhere]

theorem about_agree (apart : first.Apart) (same : ∀ root, first.ofRoot root = second.ofRoot root)
    (url : String) : Tables.about url ((Deed.handed first.deeds).map Page.ofEntry) =
      Tables.about url ((Deed.handed second.deeds).map Page.ofEntry) := by
  have owned : ∃ owner, ∀ root entry, (root, .hand entry) ∈ first → entry.reference = url →
      root = owner := by
    by_cases held : ∃ root entry, (root, Deed.hand entry) ∈ first ∧ entry.reference = url
    · obtain ⟨owner, entry, member, here⟩ := held
      exact ⟨owner, fun root other found there =>
        apart root owner other entry found member (there.trans here.symm)⟩
    · exact ⟨⟨""⟩, fun root entry member here => absurd ⟨root, entry, member, here⟩ held⟩
  obtain ⟨owner, owned⟩ := owned
  have owned' : ∀ root entry, (root, .hand entry) ∈ second → entry.reference = url →
      root = owner :=
    fun root entry member => owned root entry ((perm_of_roots same).mem_iff.mpr member)
  rw [about_owner owned, about_owner owned', same]

end Trace

end Sitemaps
