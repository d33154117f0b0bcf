import Sitemaps.Proofs.Findings

/-!
One event of a document hands on one finding at most. The end of an entry could hand on two, the
location that text before it completes and the entry itself; the nesting of elements rules it out.
-/

namespace Sitemaps

namespace Xml

def Event.nest (event : Event) (before after : List Name) : Prop :=
  match event with
  | .opening name => after = name :: before
  | .closing name => before = name :: after
  | _ => after = before

theorem Reader.close_opened {reader after : Reader} {name : Name}
    (closed : reader.close name = .ok after) : reader.opened = name :: after.opened := by
  unfold Reader.close at closed
  split at closed
  · cases closed
  · rename_i innermost outer opened
    split at closed
    · rename_i same
      cases closed
      rw [opened, eq_of_beq same]
    · cases closed

theorem Reader.read_nest {reader after : Reader} {token : Token} {event : Event}
    (read : reader.read token = .ok (event, after)) :
    event.nest reader.opened after.opened := by
  cases token with
  | text content =>
    simp only [Reader.read] at read
    cases made : characters content with
    | error fault => simp [made, Except.map] at read
    | ok text =>
      simp only [made, Except.map, Except.ok.injEq, Prod.mk.injEq] at read
      obtain ⟨rfl, rfl⟩ := read
      rfl
  | closing name =>
    simp only [Reader.read] at read
    cases made : reader.close name with
    | error fault => simp [made, Except.map] at read
    | ok left =>
      simp only [made, Except.map, Except.ok.injEq, Prod.mk.injEq] at read
      obtain ⟨rfl, rfl⟩ := read
      exact Reader.close_opened made
  | _ =>
    simp only [Reader.read, Except.ok.injEq, Prod.mk.injEq] at read
    obtain ⟨rfl, rfl⟩ := read
    rfl

theorem Reader.next_nest {reader after : Reader} {event : Event}
    (read : reader.next = .ok (some (event, after))) :
    event.nest reader.opened after.opened := by
  unfold Reader.next at read
  cases token : Token.next reader.failure reader.rest with
  | error fault => simp [token, bind, Except.bind] at read
  | ok found =>
    cases found with
    | none =>
      cases done : reader.finish <;> simp [token, bind, Except.bind, done, Except.map] at read
    | some found =>
      obtain ⟨content, rest⟩ := found
      simp only [token, bind, Except.bind] at read
      cases made : Reader.read { reader with rest := rest } content with
      | error fault => simp [made, Except.map] at read
      | ok next =>
        simp only [made, Except.map, Except.ok.injEq, Option.some.injEq] at read
        subst read
        have nest := Reader.read_nest made
        exact nest

end Xml

namespace Sitemap

def Tag.bounds : Tag → Bool
  | .url | .field _ => true
  | .sitemap | .other => false

def bounding (opened : List Xml.Name) : Option Tag := (opened.map Tag.ofName).find? Tag.bounds

theorem bounding_cons (name : Xml.Name) (opened : List Xml.Name) :
    bounding (name :: opened) =
      if (Tag.ofName name).bounds then some (Tag.ofName name) else bounding opened := by
  unfold bounding
  rw [List.map_cons, List.find?_cons]
  cases (Tag.ofName name).bounds <;> rfl

namespace Document

def located (document : Document) : Bool := (document.draft.bind (·.reference)).isSome

/-- While a draft has its reference, only an element within that of the draft can await text. -/
def Nested (document : Document) (opened : List Xml.Name) : Prop :=
  document.located = true → document.awaiting ≠ none →
    ∃ field, bounding opened = some (.field field)

theorem fill_handsOn (draft : Draft) (field : Field) (value : String) :
    (fill draft field value).2.countP Finding.handsOn = 0 := by
  cases field with
  | loc => rfl
  | changeFreq => rfl
  | lastMod =>
    simp only [fill]
    split <;> rfl
  | priority =>
    simp only [fill]
    split <;> rfl

/-- Handing text out ends the waiting for it or leaves field and draft as they are, and hands on a
location only where the draft stays as it is. -/
structure Handed (document : Document) (result : Document × List Finding) : Prop where
  waiting : result.1.awaiting = none ∨
    result.1.awaiting = document.awaiting ∧ result.1.draft = document.draft
  single : result.2.countP Finding.handsOn ≤ 1
  awaited : result.2.countP Finding.handsOn ≠ 0 →
    document.awaiting ≠ none ∧ result.1.draft = document.draft

theorem dispatch_handed (document : Document) (value : String) :
    document.Handed (document.dispatch value) := by
  cases awaiting : document.awaiting with
  | none =>
    have same : document.dispatch value = (document, []) := by simp [dispatch, awaiting]
    rw [same]
    exact ⟨Or.inr ⟨rfl, rfl⟩, Nat.zero_le _, fun some => absurd rfl some⟩
  | some field =>
    have waits : document.awaiting ≠ none := by simp [awaiting]
    unfold dispatch
    rw [awaiting]
    split
    · exact ⟨Or.inl rfl, Nat.le_refl 1, fun _ => ⟨waits, rfl⟩⟩
    · rename_i other draft _ _ _
      have none_handed := fill_handsOn draft other value
      refine ⟨Or.inl rfl, ?_, fun some => absurd none_handed some⟩
      rw [none_handed]
      exact Nat.zero_le 1
    · exact ⟨Or.inr ⟨rfl, rfl⟩, Nat.zero_le _, fun some => absurd rfl some⟩

theorem flush_handed (document : Document) : document.Handed document.flush := by
  have handed := dispatch_handed { document with gathered := [] }
    (String.ofList (Text.trimChars document.text))
  unfold flush
  simp only
  split
  · exact ⟨Or.inr ⟨rfl, rfl⟩, Nat.zero_le _, fun some => absurd rfl some⟩
  · exact ⟨handed.waiting, handed.single, handed.awaited⟩

theorem closeEntry_single (document : Document) :
    document.closeEntry.2.countP Finding.handsOn ≤ 1 := by
  unfold closeEntry
  split
  · exact Nat.zero_le 1
  · split <;> simp [Finding.handsOn]

theorem closeEntry_unlocated {document : Document} (unlocated : document.located = false) :
    document.closeEntry.2 = [] := by
  have unfinished : document.draft.bind Draft.finish = none := by
    unfold located at unlocated
    cases held : document.draft with
    | none => rfl
    | some draft =>
      have blank : draft.reference = none := by simpa [held] using unlocated
      simp [Draft.finish, blank]
  simp [closeEntry, unfinished]

theorem flush_nested {document : Document} {opened : List Xml.Name}
    (nested : document.Nested opened) : document.flush.1.Nested opened := by
  intro located awaiting
  rcases (flush_handed document).waiting with stopped | ⟨kept, draft⟩
  · exact absurd stopped awaiting
  · refine nested ?_ (kept ▸ awaiting)
    unfold Document.located at located ⊢
    rwa [← draft]

theorem start_nested {document : Document} {opened : List Xml.Name} (name : Xml.Name)
    (nested : document.Nested opened) :
    (document.start (Tag.ofName name)).Nested (name :: opened) := by
  intro located awaiting
  rw [bounding_cons]
  cases tag : Tag.ofName name with
  | url => simp [start, tag, Document.located] at located
  | field field => exact ⟨field, rfl⟩
  | sitemap =>
    rw [tag] at located awaiting
    exact nested located awaiting
  | other =>
    rw [tag] at located awaiting
    exact nested located awaiting

theorem closeEntry_draft (document : Document) : document.closeEntry.1.draft = none := by
  unfold closeEntry
  split
  · rfl
  · split <;> rfl

theorem stop_nested {document : Document} {opened : List Xml.Name} (name : Xml.Name)
    (nested : document.Nested (name :: opened)) :
    (document.stop (Tag.ofName name)).1.Nested opened := by
  intro located awaiting
  cases tag : Tag.ofName name with
  | url =>
    rw [tag] at located
    simp [stop, Document.located, closeEntry_draft] at located
  | field field => simp [stop, tag] at awaiting
  | sitemap =>
    rw [tag] at located awaiting
    simpa [bounding_cons, tag, Tag.bounds] using nested located awaiting
  | other =>
    rw [tag] at located awaiting
    simpa [bounding_cons, tag, Tag.bounds] using nested located awaiting

/-- The end of an entry hands on nothing if the text before it was handed on: the waiting element
would be open within the entry. -/
theorem stop_flush_single {document : Document} {opened : List Xml.Name} (name : Xml.Name)
    (nested : document.Nested (name :: opened)) :
    (document.flush.2 ++ (document.flush.1.stop (Tag.ofName name)).2).countP
      Finding.handsOn ≤ 1 := by
  have handed := flush_handed document
  rw [List.countP_append]
  cases tag : Tag.ofName name with
  | url =>
    by_cases quiet : document.flush.2.countP Finding.handsOn = 0
    · have one := closeEntry_single document.flush.1
      simp only [stop]
      omega
    · obtain ⟨awaiting, draft⟩ := handed.awaited quiet
      have unlocated : document.flush.1.located = false := by
        apply Bool.eq_false_iff.mpr
        intro located
        have held : document.located = true := by
          unfold Document.located at located ⊢
          rwa [← draft]
        obtain ⟨field, bound⟩ := nested held awaiting
        simp [bounding_cons, tag, Tag.bounds] at bound
      have one := handed.single
      simp only [stop, closeEntry_unlocated unlocated, List.countP_nil]
      omega
  | _ => simpa [stop] using handed.single

theorem start_stop_quiet (document : Document) (tag : Tag) :
    ((document.start tag).stop tag).2 = [] := by
  cases tag with
  | url => exact closeEntry_unlocated rfl
  | _ => rfl

theorem handle_nested {document : Document} {event : Xml.Event} {before after : List Xml.Name}
    (nested : document.Nested before) (nest : event.nest before after) :
    (document.handle event).1.Nested after ∧
      (document.handle event).2.countP Finding.handsOn ≤ 1 := by
  cases event with
  | text content =>
    cases nest
    exact ⟨nested, Nat.zero_le 1⟩
  | aside =>
    cases nest
    exact ⟨nested, Nat.zero_le 1⟩
  | opening name =>
    cases nest
    exact ⟨start_nested name (flush_nested nested), (flush_handed document).single⟩
  | closing name =>
    cases nest
    exact ⟨stop_nested name (flush_nested nested), stop_flush_single name nested⟩
  | single name =>
    cases nest
    refine ⟨stop_nested name (start_nested name (flush_nested nested)), ?_⟩
    simp only [handle, start_stop_quiet, List.append_nil]
    exact (flush_handed document).single

/-- What is open in the document is nested as its state says. -/
def Balanced (document : Document) : Prop := document.Nested document.reader.opened

theorem ofBytes_balanced (location : String) (scope : Scope) (bytes : List UInt8)
    (failure : Option String) : (ofBytes location scope bytes failure).Balanced := by
  intro located
  cases located

theorem next_balanced {document after : Document} {findings : List Finding}
    (balanced : document.Balanced) (step : document.next = .onward after findings) :
    after.Balanced ∧ findings.countP Finding.handsOn ≤ 1 := by
  obtain ⟨event, reader, read, handled⟩ := next_onward_iff.mp step
  have nested : ({ document with reader := reader } : Document).Nested document.reader.opened :=
    balanced
  have kept := handle_nested nested (Xml.Reader.next_nest read)
  have reads := handle_reader { document with reader := reader } event
  rw [handled] at kept reads
  constructor
  · unfold Balanced
    rw [reads]
    exact kept.1
  · exact kept.2

theorem finished_single {document after : Document} {findings : List Finding}
    (step : document.next = .finished after findings) :
    findings.countP Finding.handsOn ≤ 1 := by
  obtain ⟨-, flushed⟩ := next_finished_iff.mp step
  have handed := (flush_handed document).single
  rwa [flushed] at handed

end Document

end Sitemap

end Sitemaps
