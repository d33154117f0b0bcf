import Sitemaps.Sitemap.Parse

/-!
What a document has still to announce. The findings of an undisturbed reading are cut by its events:
what one event announces, and what stands ahead of the document that is left.
-/

namespace Sitemaps.Sitemap

namespace Finding

def child? : Finding → Option String
  | .child location => some location
  | _ => none

def entry? : Finding → Option Entry
  | .entry page => some page
  | _ => none

def handsOn : Finding → Bool
  | .child _ | .entry _ => true
  | _ => false

end Finding

def childrenOf (findings : List Finding) : List String := findings.filterMap Finding.child?

def entriesOf (findings : List Finding) : List Entry := findings.filterMap Finding.entry?

/-- What is handed on from what a document announces. -/
def handedOn (findings : List Finding) : List Finding := findings.filter Finding.handsOn

theorem handedOn_append (first second : List Finding) :
    handedOn (first ++ second) = handedOn first ++ handedOn second :=
  List.filter_append ..

theorem mem_childrenOf {findings : List Finding} {location : String} :
    location ∈ childrenOf findings ↔ Finding.child location ∈ findings := by
  unfold childrenOf
  rw [List.mem_filterMap]
  constructor
  · rintro ⟨finding, member, same⟩
    cases finding with
    | child other =>
      cases same
      exact member
    | _ => cases same
  · intro member
    exact ⟨.child location, member, rfl⟩

theorem entriesOf_append (first second : List Finding) :
    entriesOf (first ++ second) = entriesOf first ++ entriesOf second :=
  List.filterMap_append

namespace Document

section Readers

variable (document : Document) (reader : Xml.Reader)

theorem flush_with : flush { document with reader := reader } =
    ({ document.flush.1 with reader := reader }, document.flush.2) := by
  unfold flush dispatch text
  simp only
  split
  · rfl
  · split <;> rfl

theorem start_with (tag : Tag) : start { document with reader := reader } tag =
    { document.start tag with reader := reader } := by
  cases tag <;> rfl

theorem stop_with (tag : Tag) : stop { document with reader := reader } tag =
    ({ (document.stop tag).1 with reader := reader }, (document.stop tag).2) := by
  cases tag with
  | url =>
    simp only [stop, closeEntry]
    cases document.draft.bind Draft.finish with
    | none => rfl
    | some entry =>
      cases passes : document.scope.passes entry.reference document.location <;> simp [passes]
  | _ => rfl

theorem handle_with (event : Xml.Event) : handle { document with reader := reader } event =
    ({ (document.handle event).1 with reader := reader }, (document.handle event).2) := by
  cases event with
  | text content => rfl
  | aside => rfl
  | opening name => simp only [handle, flush_with, start_with]
  | closing name => simp only [handle, flush_with, stop_with]
  | single name => simp only [handle, flush_with, start_with, stop_with]

end Readers

theorem flush_unawaited (document : Document) (unawaited : document.awaiting = none) :
    document.flush = ({ document with gathered := [] }, []) := by
  unfold flush dispatch
  simp [unawaited]

section Events

variable {document : Document}

theorem next_failed {fault : Xml.Fault} (step : document.reader.next = .error fault) :
    document.next = .failed fault := by
  unfold next
  rw [step]

theorem next_finished (step : document.reader.next = .ok none) :
    document.next = .finished document.flush.1 document.flush.2 := by
  unfold next
  rw [step]

theorem next_onward {event : Xml.Event} {reader : Xml.Reader}
    (step : document.reader.next = .ok (some (event, reader))) :
    document.next = .onward (handle { document with reader := reader } event).1
      (handle { document with reader := reader } event).2 := by
  unfold next
  rw [step]

theorem next_finished_iff {after : Document} {findings : List Finding} :
    document.next = .finished after findings ↔
      document.reader.next = .ok none ∧ document.flush = (after, findings) := by
  constructor
  · intro step
    unfold next at step
    split at step
    · cases step
    · rename_i ends
      cases step
      exact ⟨ends, rfl⟩
    · cases step
  · rintro ⟨ends, flushed⟩
    rw [next_finished ends, flushed]

theorem next_onward_iff {after : Document} {findings : List Finding} :
    document.next = .onward after findings ↔ ∃ event reader,
      document.reader.next = .ok (some (event, reader)) ∧
        handle { document with reader := reader } event = (after, findings) := by
  constructor
  · intro step
    unfold next at step
    split at step
    · cases step
    · cases step
    · rename_i event reader read
      cases step
      exact ⟨event, reader, read, rfl⟩
  · rintro ⟨event, reader, read, handled⟩
    rw [next_onward read, handled]

end Events

section Reading

variable {document after : Document} {findings : List Finding} (found : List Finding)

theorem parseFrom_failed {fault : Xml.Fault} (step : document.next = .failed fault) :
    document.parseFrom found none = ⟨found.reverse, .error fault⟩ := by
  unfold parseFrom
  split <;> simp_all

theorem parseFrom_finished (step : document.next = .finished after findings) :
    document.parseFrom found none =
      ⟨(findings.reverse ++ found).reverse, .ok (after.summary .completed)⟩ := by
  unfold parseFrom
  split <;> simp_all

theorem parseFrom_onward (step : document.next = .onward after findings) :
    document.parseFrom found none = after.parseFrom (findings.reverse ++ found) none := by
  conv => lhs; unfold parseFrom
  split
  · simp_all
  · simp_all
  · rename_i other findings step'
    rw [step] at step'
    cases step'
    rfl

end Reading

/-- What an undisturbed reading from here on announces. -/
def ahead (document : Document) : List Finding := (document.parseFrom [] none).findings

theorem parseFrom_findings (document : Document) (found : List Finding) :
    (document.parseFrom found none).findings = found.reverse ++ document.ahead := by
  induction size : document.remaining using Nat.strongRecOn generalizing document found with
  | ind n ih =>
    unfold ahead
    cases step : document.next with
    | failed fault => simp [parseFrom_failed _ step]
    | finished after findings => simp [parseFrom_finished _ step]
    | onward after findings =>
      have shorter := next_shorter step
      have rest := fun found => ih after.remaining (size ▸ shorter) after found rfl
      rw [parseFrom_onward _ step, parseFrom_onward _ step, rest, rest]
      simp

theorem ahead_failed {document : Document} {fault : Xml.Fault}
    (step : document.next = .failed fault) :
    document.ahead = [] := by
  rw [ahead, parseFrom_failed [] step]
  rfl

theorem ahead_finished {document after : Document} {findings : List Finding}
    (step : document.next = .finished after findings) : document.ahead = findings := by
  rw [ahead, parseFrom_finished [] step]
  simp

theorem ahead_onward {document after : Document} {findings : List Finding}
    (step : document.next = .onward after findings) :
    document.ahead = findings ++ after.ahead := by
  rw [ahead, parseFrom_onward [] step, parseFrom_findings]
  simp

end Document

end Sitemaps.Sitemap
