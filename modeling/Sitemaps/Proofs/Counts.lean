import Sitemaps.Proofs.Findings

/-!
A summary counts what was announced: the entries, those out of scope, and the child sitemaps, no
matter where the reading ended.
-/

namespace Sitemaps.Sitemap

def Finding.stray? : Finding → Option String
  | .outOfScope reference => some reference
  | _ => none

/-- What was out of scope among what a document announces. -/
def straysOf (findings : List Finding) : List String := findings.filterMap Finding.stray?

theorem childrenOf_append (first second : List Finding) :
    childrenOf (first ++ second) = childrenOf first ++ childrenOf second :=
  List.filterMap_append

theorem straysOf_append (first second : List Finding) :
    straysOf (first ++ second) = straysOf first ++ straysOf second :=
  List.filterMap_append

def Summary.of (outcome : Outcome) (findings : List Finding) : Summary :=
  ⟨outcome, (entriesOf findings).length, (straysOf findings).length, (childrenOf findings).length⟩

def Summary.add (summary : Summary) (findings : List Finding) : Summary :=
  ⟨summary.outcome, summary.emitted + (entriesOf findings).length,
    summary.outOfScope + (straysOf findings).length,
    summary.children + (childrenOf findings).length⟩

theorem Summary.add_append (summary : Summary) (first second : List Finding) :
    summary.add (first ++ second) = (summary.add first).add second := by
  simp only [add, entriesOf_append, straysOf_append, childrenOf_append, List.length_append,
    Nat.add_assoc]

theorem Summary.of_append (outcome : Outcome) (first second : List Finding) :
    Summary.of outcome (first ++ second) = (Summary.of outcome first).add second := by
  simp only [of, add, entriesOf_append, straysOf_append, childrenOf_append, List.length_append]

namespace Document

/-- What a document announces on its way to another is what that one has counted in addition. -/
def Counts (before : Document) (result : Document × List Finding) : Prop :=
  ∀ outcome, result.1.summary outcome = (before.summary outcome).add result.2

variable (document : Document)

theorem Counts.trans {before : Document} {first second : Document × List Finding}
    (one : before.Counts first) (two : first.1.Counts second) :
    before.Counts (second.1, first.2 ++ second.2) := by
  intro outcome
  rw [two outcome, one outcome, Summary.add_append]

theorem fill_uncounted (draft : Draft) (field : Field) (value : String) (summary : Summary) :
    summary.add (fill draft field value).2 = summary := by
  cases field with
  | loc => rfl
  | changeFreq => rfl
  | lastMod =>
    simp only [fill]
    split <;> rfl
  | priority =>
    simp only [fill]
    split <;> rfl

theorem dispatch_counts (value : String) : document.Counts (document.dispatch value) := by
  intro outcome
  unfold dispatch
  split
  · rfl
  · exact (fill_uncounted _ _ _ _).symm
  · rfl

theorem flush_counts : document.Counts document.flush := by
  intro outcome
  unfold flush
  dsimp only
  split
  · rfl
  · exact dispatch_counts { document with gathered := [] } _ outcome

theorem start_counts (tag : Tag) : document.Counts (document.start tag, []) := by
  intro outcome
  cases tag <;> rfl

theorem stop_counts (tag : Tag) : document.Counts (document.stop tag) := by
  intro outcome
  cases tag with
  | url =>
    unfold stop closeEntry
    dsimp only
    split
    · rfl
    · split <;> rfl
  | _ => rfl

theorem handle_counts (event : Xml.Event) : document.Counts (document.handle event) := by
  cases event with
  | text content =>
    intro outcome
    rfl
  | aside =>
    intro outcome
    rfl
  | opening name =>
    have started := document.flush_counts.trans (start_counts _ (Tag.ofName name))
    rw [List.append_nil] at started
    exact started
  | closing name => exact document.flush_counts.trans (stop_counts _ (Tag.ofName name))
  | single name =>
    have single := (start_counts document.flush.1 (Tag.ofName name)).trans
      (stop_counts _ (Tag.ofName name))
    exact document.flush_counts.trans single

section Next

variable {document after : Document} {findings : List Finding}

theorem finished_counts (step : document.next = .finished after findings) :
    document.Counts (after, findings) := by
  obtain ⟨-, flushed⟩ := next_finished_iff.mp step
  rw [← flushed]
  exact document.flush_counts

theorem onward_counts (step : document.next = .onward after findings) :
    document.Counts (after, findings) := by
  obtain ⟨event, reader, -, handled⟩ := next_onward_iff.mp step
  rw [← handled]
  exact handle_counts { document with reader := reader } event

end Next

end Document

end Sitemaps.Sitemap
