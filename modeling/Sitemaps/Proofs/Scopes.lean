import Sitemaps.Proofs.Findings

/-!
One document read under two scopes. What is read is the same; only, where the narrower scope does
not let an entry pass that the wider one does, the entry is told to be out of scope.
-/

namespace Sitemaps

namespace Scope

def Within (narrow wide : Scope) : Prop :=
  ∀ reference location, narrow.passes reference location = true →
    wide.passes reference location = true

theorem Within.refl (scope : Scope) : scope.Within scope := fun _ _ => id

theorem strict_within_lenient : Scope.strict.Within .lenient := fun _ _ _ => rfl

end Scope

namespace Sitemap

/-- What becomes of a finding where a scope is applied to it. -/
def Finding.judge (scope : Scope) (location : String) : Finding → Finding
  | .entry page =>
    if scope.passes page.reference location then .entry page else .outOfScope page.reference
  | finding => finding

theorem judge_entry {scope : Scope} {location : String} {finding : Finding} {page : Entry}
    (judged : finding.judge scope location = .entry page) :
    finding = .entry page ∧ scope.passes page.reference location = true := by
  cases finding with
  | entry other =>
    simp only [Finding.judge] at judged
    split at judged
    · rename_i passes
      cases judged
      exact ⟨rfl, passes⟩
    · cases judged
  | _ => cases judged

theorem passes_of_judged {scope : Scope} {location : String} {findings : List Finding}
    {page : Entry} (judged : findings = findings.map (Finding.judge scope location))
    (found : .entry page ∈ findings) : scope.passes page.reference location = true := by
  rw [judged] at found
  obtain ⟨finding, -, same⟩ := List.mem_map.mp found
  exact (judge_entry same).2

namespace Document

section Rescope

variable (document : Document) (scope : Scope) (emitted dropped : Nat)

def rescope : Document :=
  { document with scope := scope, emitted := emitted, outOfScope := dropped }

theorem flush_rescope : (document.rescope scope emitted dropped).flush =
    (document.flush.1.rescope scope emitted dropped, document.flush.2) := by
  unfold flush dispatch text rescope
  dsimp only
  split
  · rfl
  · split <;> rfl

theorem start_rescope (tag : Tag) : (document.rescope scope emitted dropped).start tag =
    (document.start tag).rescope scope emitted dropped := by
  cases tag <;> rfl

end Rescope

/-- Two readings of a document that differ in scope and in what was counted under it. -/
structure Twin (wide narrow : Scope) (first second : Document) : Prop where
  scope : first.scope = wide
  same : second = first.rescope narrow second.emitted second.outOfScope
  entries : second.emitted + second.outOfScope = first.emitted + first.outOfScope
  lenient : wide = .lenient → first.outOfScope = 0

theorem ofBytes_twin (wide narrow : Scope) (location : String) (bytes : List UInt8)
    (failure : Option String) : Twin wide narrow (ofBytes location wide bytes failure)
      (ofBytes location narrow bytes failure) :=
  ⟨rfl, rfl, rfl, fun _ => rfl⟩

theorem Twin.own {wide narrow : Scope} {first second : Document}
    (twin : Twin wide narrow first second) : Twin wide wide first first :=
  ⟨twin.scope, by rw [← twin.scope]; rfl, rfl, twin.lenient⟩

structure Agree (wide narrow : Scope) (location : String) (first second : Document × List Finding) :
    Prop where
  twin : Twin wide narrow first.1 second.1
  located : first.1.location = location
  judged : second.2 = first.2.map (Finding.judge narrow location)

theorem judge_plain {findings : List Finding} (plain : entriesOf findings = [])
    (scope : Scope) (location : String) :
    findings.map (Finding.judge scope location) = findings := by
  induction findings with
  | nil => rfl
  | cons finding rest ih =>
    cases finding with
    | entry page => cases plain
    | _ => exact congrArg _ (ih plain)

theorem flush_plain (document : Document) : entriesOf document.flush.2 = [] ∧
    document.flush.1.scope = document.scope ∧ document.flush.1.location = document.location ∧
    document.flush.1.emitted = document.emitted ∧
    document.flush.1.outOfScope = document.outOfScope := by
  have filled (draft : Draft) (field : Field) (value : String) :
      entriesOf (fill draft field value).2 = [] := by
    unfold fill
    split
    · rfl
    · rfl
    · split <;> rfl
    · split <;> rfl
  unfold flush dispatch
  dsimp only
  split
  · exact ⟨rfl, rfl, rfl, rfl, rfl⟩
  · split
    · exact ⟨rfl, rfl, rfl, rfl, rfl⟩
    · exact ⟨filled _ _ _, rfl, rfl, rfl, rfl⟩
    · exact ⟨rfl, rfl, rfl, rfl, rfl⟩

section Twins

variable {wide narrow : Scope} {first second : Document}

theorem Twin.flush (twin : Twin wide narrow first second) :
    Agree wide narrow first.location first.flush second.flush := by
  obtain ⟨plain, scope, location, emitted, dropped⟩ := flush_plain first
  have flushed : second.flush = (first.flush.1.rescope narrow second.emitted second.outOfScope,
      first.flush.2) := by
    rw [twin.same, flush_rescope]
    rfl
  rw [flushed]
  refine ⟨⟨scope.trans twin.scope, rfl, ?_, dropped ▸ twin.lenient⟩, location,
    (judge_plain plain _ _).symm⟩
  rw [emitted, dropped]
  exact twin.entries

theorem Twin.start (twin : Twin wide narrow first second) (tag : Tag) :
    Twin wide narrow (first.start tag) (second.start tag) ∧
      (first.start tag).location = first.location := by
  rw [twin.same, start_rescope]
  cases tag <;> exact ⟨⟨twin.scope, rfl, twin.entries, twin.lenient⟩, rfl⟩

theorem Twin.closeEntry (within : narrow.Within wide) (twin : Twin wide narrow first second) :
    Agree wide narrow first.location first.closeEntry second.closeEntry := by
  obtain ⟨scope, same, entries, lenient⟩ := twin
  generalize second.emitted = emitted at same entries
  generalize second.outOfScope = dropped at same entries
  subst same
  unfold Document.closeEntry
  simp only [rescope]
  cases first.draft.bind Draft.finish with
  | none => exact ⟨⟨scope, rfl, entries, lenient⟩, rfl, rfl⟩
  | some page =>
    by_cases passes : narrow.passes page.reference first.location = true
    · have wider : first.scope.passes page.reference first.location = true :=
        scope ▸ within page.reference first.location passes
      simp only [passes, wider, if_true]
      refine ⟨⟨scope, rfl, ?_, lenient⟩, rfl, ?_⟩
      · simp only
        omega
      · simp [Finding.judge, passes]
    · simp only [passes]
      by_cases wider : first.scope.passes page.reference first.location = true
      · simp only [wider, if_true]
        refine ⟨⟨scope, rfl, ?_, lenient⟩, rfl, ?_⟩
        · simp only [Bool.false_eq_true, if_false]
          omega
        · simp [Finding.judge, passes]
      · simp only [wider]
        refine ⟨⟨scope, rfl, ?_, ?_⟩, rfl, rfl⟩
        · simp only [Bool.false_eq_true, if_false]
          omega
        · rintro rfl
          exact absurd (by rw [scope]; rfl) wider

theorem Twin.stop (within : narrow.Within wide) (twin : Twin wide narrow first second) (tag : Tag) :
    Agree wide narrow first.location (first.stop tag) (second.stop tag) := by
  cases tag with
  | url => exact twin.closeEntry within
  | _ =>
    rw [twin.same]
    exact ⟨⟨twin.scope, rfl, twin.entries, twin.lenient⟩, rfl, rfl⟩

theorem Twin.handle (within : narrow.Within wide) (twin : Twin wide narrow first second)
    (event : Xml.Event) :
    Agree wide narrow first.location (first.handle event) (second.handle event) := by
  have flushed := twin.flush
  cases event with
  | text content =>
    rw [twin.same]
    exact ⟨⟨twin.scope, rfl, twin.entries, twin.lenient⟩, rfl, rfl⟩
  | aside => exact ⟨twin, rfl, rfl⟩
  | opening name =>
    obtain ⟨started, located⟩ := flushed.twin.start (Tag.ofName name)
    exact ⟨started, located.trans flushed.located, flushed.judged⟩
  | closing name =>
    have stopped := flushed.twin.stop within (Tag.ofName name)
    refine ⟨stopped.twin, stopped.located.trans flushed.located, ?_⟩
    simp only [Document.handle, List.map_append, stopped.judged, flushed.judged, flushed.located]
  | single name =>
    obtain ⟨started, located⟩ := flushed.twin.start (Tag.ofName name)
    have stopped := started.stop within (Tag.ofName name)
    rw [located, flushed.located] at stopped
    refine ⟨stopped.twin, stopped.located, ?_⟩
    simp only [Document.handle, List.map_append, stopped.judged, flushed.judged]

inductive Step.Agree (wide narrow : Scope) (location : String) : Step → Step → Prop
  | failed {fault : Xml.Fault} : Agree wide narrow location (.failed fault) (.failed fault)
  | finished {first second : Document × List Finding}
      (agree : Document.Agree wide narrow location first second) :
      Agree wide narrow location (.finished first.1 first.2) (.finished second.1 second.2)
  | onward {first second : Document × List Finding}
      (agree : Document.Agree wide narrow location first second) :
      Agree wide narrow location (.onward first.1 first.2) (.onward second.1 second.2)

theorem Twin.next (within : narrow.Within wide) (twin : Twin wide narrow first second) :
    Step.Agree wide narrow first.location first.next second.next := by
  have reads : second.reader = first.reader := by
    rw [twin.same]
    rfl
  unfold Document.next
  rw [reads]
  split
  · exact .failed
  · exact .finished twin.flush
  · rename_i event reader read
    have moved : Twin wide narrow { first with reader := reader }
        { second with reader := reader } := by
      rw [twin.same]
      exact ⟨twin.scope, rfl, twin.entries, twin.lenient⟩
    exact .onward (moved.handle within event)

def Step.findings : Step → List Finding
  | .failed _ => []
  | .finished _ findings | .onward _ findings => findings

theorem Step.Agree.judged {location : String} {one other : Step}
    (agree : Step.Agree wide narrow location one other) :
    other.findings = one.findings.map (Finding.judge narrow location) := by
  cases agree with
  | failed => rfl
  | finished agree => exact agree.judged
  | onward agree => exact agree.judged

theorem Twin.passing (twin : Twin wide narrow first second) {page : Entry}
    (found : .entry page ∈ first.next.findings) :
    wide.passes page.reference first.location = true :=
  passes_of_judged (twin.own.next (.refl wide)).judged found

theorem parseFrom_going {document : Document} {found : List Finding} {polls : Polls}
    (going : polls = some 0 → False) : document.parseFrom found polls =
      match document.next with
      | .failed fault => ⟨found.reverse, .error fault⟩
      | .finished last findings =>
        ⟨(findings.reverse ++ found).reverse, .ok (last.summary .completed)⟩
      | .onward after findings =>
        after.parseFrom (findings.reverse ++ found) (polls.map (· - 1)) := by
  conv => lhs; unfold Document.parseFrom
  split
  · exact absurd rfl going
  · split <;> simp_all

inductive Ends (wide : Scope) : Except Xml.Fault Summary → Except Xml.Fault Summary → Prop
  | broken {fault : Xml.Fault} : Ends wide (.error fault) (.error fault)
  | closed {first second : Summary} (outcome : second.outcome = first.outcome)
      (children : second.children = first.children)
      (entries : second.emitted + second.outOfScope = first.emitted + first.outOfScope)
      (lenient : wide = .lenient → first.outOfScope = 0) : Ends wide (.ok first) (.ok second)

theorem Twin.summary (twin : Twin wide narrow first second) (outcome : Outcome) :
    Ends wide (.ok (first.summary outcome)) (.ok (second.summary outcome)) := by
  have children : second.children = first.children := by rw [twin.same]; rfl
  exact .closed rfl children twin.entries twin.lenient

theorem Twin.parseFrom (within : narrow.Within wide) (twin : Twin wide narrow first second)
    (found : List Finding) (polls : Polls) :
    let widely := first.parseFrom found polls
    let narrowly := second.parseFrom (found.map (Finding.judge narrow first.location)) polls
    narrowly.findings = widely.findings.map (Finding.judge narrow first.location) ∧
      Ends wide widely.result narrowly.result := by
  fun_induction Document.parseFrom found first polls generalizing second with
  | case1 found first =>
    have stopped (found : List Finding) : second.parseFrom found (some 0) =
        ⟨found.reverse, .ok (second.summary .stopped)⟩ := by
      unfold Document.parseFrom
      rfl
    rw [stopped]
    exact ⟨List.map_reverse.symm, twin.summary .stopped⟩
  | case2 found first polls fault step going =>
    have next := twin.next within
    rw [step] at next
    rw [parseFrom_going going]
    generalize second.next = other at next
    cases next
    exact ⟨List.map_reverse.symm, .broken⟩
  | case3 found first polls last findings step going =>
    have next := twin.next within
    rw [step] at next
    rw [parseFrom_going going]
    generalize second.next = other at next
    cases next with
    | finished agree =>
      exact ⟨by simp [agree.judged], agree.twin.summary .completed⟩
  | case4 found first polls after findings step shorter going ih =>
    have next := twin.next within
    rw [step] at next
    rw [parseFrom_going going]
    generalize second.next = other at next
    cases next with
    | onward agree =>
      have rest := ih agree.twin
      rw [agree.located, List.map_append, List.map_reverse, ← agree.judged] at rest
      exact rest

end Twins

end Document

theorem parse_within {wide narrow : Scope} (within : narrow.Within wide) (location : String)
    (bytes : List UInt8) (failure : Option String) (polls : Polls) :
    (parse location narrow bytes failure polls).findings =
        (parse location wide bytes failure polls).findings.map (Finding.judge narrow location) ∧
      Document.Ends wide (parse location wide bytes failure polls).result
        (parse location narrow bytes failure polls).result :=
  (Document.ofBytes_twin wide narrow location bytes failure).parseFrom within [] polls

theorem parse_passing {scope : Scope} {location : String} {bytes : List UInt8}
    {failure : Option String} {polls : Polls} {page : Entry}
    (found : .entry page ∈ (parse location scope bytes failure polls).findings) :
    scope.passes page.reference location = true :=
  passes_of_judged (parse_within (.refl scope) location bytes failure polls).1 found

end Sitemap

end Sitemaps
