import Sitemaps.Proofs.Elements
import Sitemaps.Proofs.Trimming

/-!
Documents that are read on alike, and sequences of events that can stand for each other. What a
document has counted plays no part in that, nor does text that nobody awaits, nor white space
before text.
-/

namespace Sitemaps

def Xml.Event.isTag : Xml.Event → Bool
  | .opening _ | .closing _ | .single _ => true
  | .text _ | .aside => false

namespace Sitemap

namespace Document

/-- Documents that are read on alike. -/
structure Alike (first second : Document) : Prop where
  location : first.location = second.location
  scope : first.scope = second.scope
  inIndex : first.inIndex = second.inIndex
  awaiting : first.awaiting = second.awaiting
  draft : first.draft = second.draft
  text : first.awaiting ≠ none → Text.trimLeft first.text = Text.trimLeft second.text

theorem Alike.refl (document : Document) : document.Alike document :=
  ⟨rfl, rfl, rfl, rfl, rfl, fun _ => rfl⟩

section Alike

variable {first second third : Document}

theorem Alike.symm (alike : first.Alike second) : second.Alike first where
  location := alike.location.symm
  scope := alike.scope.symm
  inIndex := alike.inIndex.symm
  awaiting := alike.awaiting.symm
  draft := alike.draft.symm
  text waits := (alike.text (alike.awaiting ▸ waits)).symm

theorem Alike.trans (one : first.Alike second) (two : second.Alike third) : first.Alike third where
  location := one.location.trans two.location
  scope := one.scope.trans two.scope
  inIndex := one.inIndex.trans two.inIndex
  awaiting := one.awaiting.trans two.awaiting
  draft := one.draft.trans two.draft
  text waits := (one.text waits).trans (two.text (one.awaiting ▸ waits))

end Alike

def Concur (first second : Document × List Finding) : Prop :=
  first.2 = second.2 ∧ first.1.Alike second.1

theorem Concur.after {told other : List Finding} {first second : Document × List Finding}
    (agree : Concur first second) (before : told = other) :
    Concur (first.1, told ++ first.2) (second.1, other ++ second.2) :=
  ⟨by rw [before, agree.1], agree.2⟩

section Steps

variable {first second : Document}

theorem flush_gathered (document : Document) : document.flush.1.gathered = [] := by
  unfold flush dispatch
  dsimp only
  split
  · rfl
  · split <;> rfl

theorem start_gathered (document : Document) (tag : Tag) :
    (document.start tag).gathered = document.gathered := by
  cases tag <;> rfl

theorem flush_flushed {document : Document} (flushed : document.gathered = []) :
    document.flush = (document, []) := by
  have none_left : document.text = [] := by simp [text, flushed]
  have same : { document with gathered := [] } = document := by rw [← flushed]
  unfold flush
  rw [none_left, same]
  rfl

theorem Alike.dispatch (alike : first.Alike second) (value : String)
    (left : first.gathered = []) (right : second.gathered = []) :
    Concur (first.dispatch value) (second.dispatch value) := by
  obtain ⟨location, scope, inIndex, awaiting, draft, text⟩ := alike
  have texts : first.text = second.text := by simp [Document.text, left, right]
  unfold Document.dispatch
  rw [awaiting, inIndex, draft]
  split
  · exact ⟨rfl, location, scope, rfl, rfl, rfl, fun _ => congrArg _ texts⟩
  · exact ⟨rfl, location, scope, rfl, rfl, rfl, fun _ => congrArg _ texts⟩
  · exact ⟨rfl, location, scope, inIndex, awaiting, draft, fun _ => congrArg _ texts⟩

theorem Alike.flush (alike : first.Alike second) : Concur first.flush second.flush := by
  cases awaiting : first.awaiting with
  | none =>
    rw [flush_unawaited first awaiting, flush_unawaited second (alike.awaiting ▸ awaiting)]
    exact ⟨rfl, alike.location, alike.scope, alike.inIndex, alike.awaiting, alike.draft,
      fun waits => absurd awaiting waits⟩
  | some field =>
    have texts : Text.trimChars first.text = Text.trimChars second.text :=
      congrArg Text.trimRight (alike.text (by simp [awaiting]))
    have emptied : ({ first with gathered := [] } : Document).Alike
        { second with gathered := [] } :=
      ⟨alike.location, alike.scope, alike.inIndex, alike.awaiting, alike.draft, fun _ => rfl⟩
    unfold Document.flush
    rw [texts]
    dsimp only
    split
    · exact ⟨rfl, emptied⟩
    · exact emptied.dispatch _ rfl rfl

theorem Alike.start (alike : first.Alike second) (tag : Tag) (left : first.gathered = [])
    (right : second.gathered = []) : (first.start tag).Alike (second.start tag) := by
  have texts : first.text = second.text := by simp [Document.text, left, right]
  obtain ⟨location, scope, inIndex, awaiting, draft, text⟩ := alike
  cases tag with
  | sitemap => exact ⟨location, scope, rfl, awaiting, draft, text⟩
  | url => exact ⟨location, scope, inIndex, awaiting, rfl, text⟩
  | field field => exact ⟨location, scope, inIndex, rfl, draft, fun _ => congrArg _ texts⟩
  | other => exact ⟨location, scope, inIndex, awaiting, draft, text⟩

theorem Alike.closeEntry (alike : first.Alike second) :
    Concur first.closeEntry second.closeEntry := by
  obtain ⟨location, scope, inIndex, awaiting, draft, text⟩ := alike
  unfold Document.closeEntry
  rw [draft, scope, location]
  split
  · exact ⟨rfl, rfl, rfl, inIndex, awaiting, rfl, text⟩
  · dsimp only
    split <;> exact ⟨rfl, rfl, rfl, inIndex, awaiting, rfl, text⟩

theorem Alike.stop (alike : first.Alike second) (tag : Tag) :
    Concur (first.stop tag) (second.stop tag) := by
  cases tag with
  | url => exact alike.closeEntry
  | sitemap =>
    exact ⟨rfl, alike.location, alike.scope, rfl, alike.awaiting, alike.draft, alike.text⟩
  | field field =>
    exact ⟨rfl, alike.location, alike.scope, alike.inIndex, rfl, alike.draft,
      fun waits => absurd rfl waits⟩
  | other => exact ⟨rfl, alike⟩

theorem Alike.handle (alike : first.Alike second) (event : Xml.Event) :
    Concur (first.handle event) (second.handle event) := by
  obtain ⟨flushed, flush⟩ := alike.flush
  have emptied := flush_gathered first
  have emptiedOther := flush_gathered second
  cases event with
  | text content =>
    refine ⟨rfl, alike.location, alike.scope, alike.inIndex, alike.awaiting, alike.draft, ?_⟩
    intro waits
    simp only [Document.handle, Document.text, List.reverse_cons, List.flatten_append]
    have before := alike.text waits
    unfold Document.text at before
    rw [Text.trimLeft_append, before, ← Text.trimLeft_append]
  | aside => exact ⟨rfl, alike⟩
  | opening name => exact ⟨flushed, flush.start _ emptied emptiedOther⟩
  | closing name => exact (flush.stop (Tag.ofName name)).after flushed
  | single name =>
    have started := flush.start (Tag.ofName name) emptied emptiedOther
    exact (started.stop (Tag.ofName name)).after flushed

theorem Alike.feed (alike : first.Alike second) (events : List Xml.Event) :
    Concur (first.feed events) (second.feed events) := by
  induction events generalizing first second with
  | nil => exact ⟨rfl, alike⟩
  | cons event events ih =>
    obtain ⟨handled, onward⟩ := alike.handle event
    exact (ih onward).after handled

end Steps

/-- Sequences of events that can stand for each other. -/
def Interchangeable (events others : List Xml.Event) : Prop :=
  ∀ first second : Document, first.Alike second → Concur (first.feed events) (second.feed others)

namespace Interchangeable

variable {events others more further : List Xml.Event}

theorem refl (events : List Xml.Event) : Interchangeable events events :=
  fun _ _ alike => alike.feed events

theorem symm (same : Interchangeable events others) : Interchangeable others events := by
  intro first second alike
  obtain ⟨told, last⟩ := same second first alike.symm
  exact ⟨told.symm, last.symm⟩

theorem trans (one : Interchangeable events others) (two : Interchangeable others more) :
    Interchangeable events more := by
  intro first second alike
  obtain ⟨told, last⟩ := one first second alike
  obtain ⟨toldOther, lastOther⟩ := two second second (.refl second)
  exact ⟨told.trans toldOther, last.trans lastOther⟩

theorem append (one : Interchangeable events others) (two : Interchangeable more further) :
    Interchangeable (events ++ more) (others ++ further) := by
  intro first second alike
  obtain ⟨told, middle⟩ := one first second alike
  rw [feed_append, feed_append]
  exact (two _ _ middle).after told

theorem cons (event : Xml.Event) (same : Interchangeable events others) :
    Interchangeable (event :: events) (event :: others) :=
  (refl [event]).append same

theorem of_feed (same : ∀ document : Document, document.feed events = document.feed others) :
    Interchangeable events others := by
  intro first second alike
  rw [← same second]
  exact alike.feed events

end Interchangeable

section Events

theorem interchange_aside : Interchangeable [.aside] [] := .of_feed fun _ => rfl

theorem interchange_texts (first second : List Char) :
    Interchangeable [.text (first ++ second)] [.text first, .text second] := by
  intro document other alike
  obtain ⟨told, last⟩ := alike.feed [.text (first ++ second)]
  refine ⟨told, last.location, last.scope, last.inIndex, last.awaiting, last.draft, ?_⟩
  intro waits
  rw [last.text waits]
  simp [feed, handle, text]

theorem interchange_silence : Interchangeable [.text []] [] := by
  intro document other alike
  refine ⟨rfl, alike.location, alike.scope, alike.inIndex, alike.awaiting, alike.draft, ?_⟩
  intro waits
  have same := alike.text waits
  simpa [feed, handle, text] using same

theorem interchange_single (name : Xml.Name) :
    Interchangeable [.single name] [.opening name, .closing name] := by
  apply Interchangeable.of_feed
  intro document
  have emptied : (document.flush.1.start (Tag.ofName name)).gathered = [] := by
    rw [start_gathered, flush_gathered]
  simp [feed, handle, flush_flushed emptied]

theorem interchange_named {name other : Xml.Name} (same : Tag.ofName name = Tag.ofName other) :
    Interchangeable [.single name] [.single other] ∧
      Interchangeable [.opening name] [.opening other] ∧
      Interchangeable [.closing name] [.closing other] := by
  refine ⟨.of_feed ?_, .of_feed ?_, .of_feed ?_⟩
  all_goals
    intro document
    simp only [feed, handle, same]

section Blank

variable {blank : List Char} {event : Xml.Event}

theorem flush_blank (document : Document) (white : ∀ c ∈ blank, Text.isBlank c = true) :
    ({ document with gathered := blank :: document.gathered } : Document).flush =
      document.flush := by
  have longer : ({ document with gathered := blank :: document.gathered } : Document).text =
      document.text ++ blank := by
    simp [text]
  unfold flush
  rw [longer, Text.trimChars_blank white]

theorem interchange_blank_before (tag : event.isTag = true)
    (white : ∀ c ∈ blank, Text.isBlank c = true) :
    Interchangeable [.text blank, event] [event] := by
  apply Interchangeable.of_feed
  intro document
  have same := flush_blank document white
  cases event with
  | text content => cases tag
  | aside => cases tag
  | _ => simp only [feed, handle, same, List.nil_append]

theorem stop_gathered (document : Document) (tag : Tag) :
    (document.stop tag).1.gathered = document.gathered := by
  cases tag with
  | url =>
    unfold stop closeEntry
    dsimp only
    split
    · rfl
    · split <;> rfl
  | _ => rfl

theorem handle_gathered (document : Document) (tag : event.isTag = true) :
    (document.handle event).1.gathered = [] := by
  cases event with
  | text content => cases tag
  | aside => cases tag
  | opening name => exact (start_gathered _ _).trans document.flush_gathered
  | closing name => exact (stop_gathered _ _).trans document.flush_gathered
  | single name =>
    exact (stop_gathered _ _).trans ((start_gathered _ _).trans document.flush_gathered)

theorem alike_blank {document : Document} (emptied : document.gathered = [])
    (white : ∀ c ∈ blank, Text.isBlank c = true) :
    ({ document with gathered := blank :: document.gathered } : Document).Alike document := by
  refine ⟨rfl, rfl, rfl, rfl, rfl, fun _ => ?_⟩
  have before : document.text = [] := by simp [text, emptied]
  have blanked : ({ document with gathered := blank :: document.gathered } : Document).text =
      blank := by simp [text, emptied]
  rw [before, blanked, Text.trimLeft_blank white]
  rfl

theorem interchange_blank_after (tag : event.isTag = true)
    (white : ∀ c ∈ blank, Text.isBlank c = true) :
    Interchangeable [event, .text blank] [event] := by
  intro document other alike
  obtain ⟨told, last⟩ := alike.feed [event]
  have blanked := alike_blank (handle_gathered document tag) white
  exact ⟨told, blanked.trans last⟩

end Blank

end Events

end Document

end Sitemap

end Sitemaps
