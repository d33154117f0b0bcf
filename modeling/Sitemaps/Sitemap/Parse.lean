import Sitemaps.Sitemap.Document

/-! Reading a sitemap document from start to end, or until it is told to stop. -/

namespace Sitemaps.Sitemap

inductive Outcome
  | completed
  | stopped
  deriving DecidableEq, Repr

structure Summary where
  outcome : Outcome
  emitted : Nat
  outOfScope : Nat
  children : Nat
  deriving DecidableEq, Repr

def Document.summary (document : Document) (outcome : Outcome) : Summary :=
  ⟨outcome, document.emitted, document.outOfScope, document.children⟩

theorem Document.flush_reader (document : Document) :
    document.flush.1.reader = document.reader := by
  unfold flush dispatch
  simp only []
  split
  · rfl
  · split <;> rfl

theorem Document.start_reader (document : Document) (tag : Tag) :
    (document.start tag).reader = document.reader := by
  cases tag <;> rfl

theorem Document.stop_reader (document : Document) (tag : Tag) :
    (document.stop tag).1.reader = document.reader := by
  cases tag <;> simp only [stop]
  unfold closeEntry
  split
  · rfl
  · split <;> rfl

theorem Document.handle_reader (document : Document) (event : Xml.Event) :
    (document.handle event).1.reader = document.reader := by
  cases event <;> simp [handle, flush_reader, start_reader, stop_reader]

theorem Document.next_shorter {document after : Document} {findings}
    (step : document.next = .onward after findings) : after.remaining < document.remaining := by
  unfold Document.next at step
  split at step
  · simp at step
  · simp at step
  · rename_i event reader read
    simp at step
    have shorter := Xml.Reader.next_shorter read
    rw [← step.1]
    simpa [remaining, handle_reader] using shorter

structure Parsed where
  findings : List Finding
  result : Except Xml.Fault Summary

/-- The polls left before a stop request is seen; `none` if there is none to see. -/
abbrev Polls := Option Nat

def Document.parseFrom (found : List Finding) (document : Document) (polls : Polls) : Parsed :=
  match polls with
  | some 0 => ⟨found.reverse, .ok (document.summary .stopped)⟩
  | _ =>
    match step : document.next with
    | .failed fault => ⟨found.reverse, .error fault⟩
    | .finished document findings =>
      ⟨(findings.reverse ++ found).reverse, .ok (document.summary .completed)⟩
    | .onward after findings =>
      have := Document.next_shorter step
      parseFrom (findings.reverse ++ found) after (polls.map (· - 1))
  termination_by document.remaining

def parse (location : String) (scope : Scope) (bytes : List UInt8) (failure : Option String)
    (polls : Polls) : Parsed :=
  (Document.ofBytes location scope bytes failure).parseFrom [] polls

end Sitemaps.Sitemap
