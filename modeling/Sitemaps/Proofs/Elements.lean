import Sitemaps.Proofs.Nesting

/-!
Documents as trees of elements. What a document that is read to its end announces follows from its
events alone.
-/

namespace Sitemaps

namespace Xml

deriving instance DecidableEq for Event

/-- What stands in an element, or in a whole document: text, elements, and markup that is passed
over. -/
inductive Content
  | done
  | text (content : List Char) (rest : Content)
  | aside (rest : Content)
  | single (name : Name) (rest : Content)
  | element (name : Name) (inner rest : Content)

namespace Content

def events : Content → List Event
  | done => []
  | text content rest => .text content :: rest.events
  | aside rest => .aside :: rest.events
  | single name rest => .single name :: rest.events
  | element name inner rest => .opening name :: inner.events ++ .closing name :: rest.events

def names : Content → List Name
  | done => []
  | text _ rest => rest.names
  | aside rest => rest.names
  | single name rest => name :: rest.names
  | element name inner rest => name :: inner.names ++ rest.names

def append : Content → Content → Content
  | done, second => second
  | text content rest, second => text content (rest.append second)
  | aside rest, second => aside (rest.append second)
  | single name rest, second => single name (rest.append second)
  | element name inner rest, second => element name inner (rest.append second)

def characters : Content → List Char
  | done => []
  | text content rest => content ++ rest.characters
  | aside rest => rest.characters
  | single _ rest => rest.characters
  | element _ _ rest => rest.characters

theorem events_append (first second : Content) :
    (first.append second).events = first.events ++ second.events := by
  induction first with
  | done => rfl
  | text content rest ih => simp only [append, events, ih, List.cons_append]
  | aside rest ih => simp only [append, events, ih, List.cons_append]
  | single name rest ih => simp only [append, events, ih, List.cons_append]
  | element name inner rest _ ih =>
    simp only [append, events, ih, List.cons_append, List.append_assoc]

end Content

namespace Reader

/-- The document is read to its end, with these events. -/
inductive Reads : Reader → List Event → Prop
  | finished {reader : Reader} (ends : reader.next = .ok none) : Reads reader []
  | onward {reader after : Reader} {event : Event} {events : List Event}
      (read : reader.next = .ok (some (event, after))) (rest : Reads after events) :
      Reads reader (event :: events)

def follows (reader : Reader) : List Event → Bool
  | [] =>
    match reader.next with
    | .ok none => true
    | _ => false
  | event :: events =>
    match reader.next with
    | .ok (some (found, after)) => found == event && after.follows events
    | _ => false

theorem reads_iff {reader : Reader} {events : List Event} :
    reader.Reads events ↔ reader.follows events = true := by
  constructor
  · intro reads
    induction reads with
    | finished ends => simp only [follows, ends]
    | onward read _ ih => simp only [follows, read, ih, beq_self_eq_true, Bool.and_self]
  · intro follows
    induction events generalizing reader with
    | nil =>
      unfold Reader.follows at follows
      split at follows
      · rename_i ends
        exact .finished ends
      · cases follows
    | cons event events ih =>
      unfold Reader.follows at follows
      split at follows
      · rename_i found after read
        rw [Bool.and_eq_true, beq_iff_eq] at follows
        obtain ⟨rfl, later⟩ := follows
        exact .onward read (ih later)
      · cases follows

instance (reader : Reader) (events : List Event) : Decidable (reader.Reads events) :=
  decidable_of_iff _ reads_iff.symm

end Reader

end Xml

namespace Sitemap

namespace Document

/-- What a document makes of a sequence of events. -/
def feed (document : Document) : List Xml.Event → Document × List Finding
  | [] => (document, [])
  | event :: events =>
    let (document, first) := document.handle event
    let (document, rest) := document.feed events
    (document, first ++ rest)

theorem feed_append (document : Document) (first second : List Xml.Event) :
    document.feed (first ++ second) = (((document.feed first).1.feed second).1,
      (document.feed first).2 ++ ((document.feed first).1.feed second).2) := by
  induction first generalizing document with
  | nil => rfl
  | cons event rest ih => simp only [List.cons_append, feed, ih, List.append_assoc]

theorem feed_with (document : Document) (reader : Xml.Reader) (events : List Xml.Event) :
    feed { document with reader := reader } events =
      ({ (document.feed events).1 with reader := reader }, (document.feed events).2) := by
  induction events generalizing document with
  | nil => rfl
  | cons event rest ih => simp only [feed, handle_with, ih]

theorem parseFrom_reads {document : Document} {events : List Xml.Event}
    (reads : document.reader.Reads events) (found : List Finding) :
    document.parseFrom found none =
      ⟨found.reverse ++ (document.feed events).2 ++ (document.feed events).1.flush.2,
        .ok ((document.feed events).1.flush.1.summary .completed)⟩ := by
  generalize same : document.reader = reader at reads
  induction reads generalizing document found with
  | finished ends =>
    subst same
    rw [parseFrom_finished found (next_finished ends)]
    simp [feed]
  | @onward reader after event events read rest ih =>
    subst same
    have step := next_onward read
    rw [handle_with] at step
    rw [parseFrom_onward found step, ih _ rfl, feed_with, flush_with]
    simp [feed, summary]

end Document

end Sitemap

end Sitemaps
