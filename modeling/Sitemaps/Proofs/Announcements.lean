import Sitemaps.Proofs.Extensions
import Sitemaps.Proofs.Interruption
import Sitemaps.Proofs.Sources
import Sitemaps.Proofs.Trimming

/-!
What a document announces is in order, whatever its bytes are and wherever its reading ends: texts
are trimmed and never blank, entries lie in the scope, and every entry that is counted was ended by
a tag of its own.
-/

namespace Sitemaps

namespace Text

variable {text : List Char}

structure Trimmed (text : String) : Prop where
  filled : text ≠ ""
  trimmed : trim text = text

theorem trimmed_chars (filled : trimChars text ≠ []) :
    Trimmed (String.ofList (trimChars text)) := by
  constructor
  · intro blank
    exact filled (String.ofList_injective blank)
  · rw [trim, String.toList_ofList, trimChars_trimmed]

end Text

namespace Sitemap

structure Entry.Trimmed (page : Entry) : Prop where
  reference : Text.Trimmed page.reference
  changeFrequency : ∀ frequency ∈ page.changeFrequency, Text.Trimmed frequency

structure Draft.Trimmed (draft : Draft) : Prop where
  reference : ∀ reference ∈ draft.reference, Text.Trimmed reference
  changeFrequency : ∀ frequency ∈ draft.changeFrequency, Text.Trimmed frequency

def Finding.Trimmed : Finding → Prop
  | .child value | .badDate value | .badPriority value | .outOfScope value => Text.Trimmed value
  | .entry page => page.Trimmed

theorem Draft.finish_trimmed {draft : Draft} {page : Entry} (trimmed : draft.Trimmed)
    (finished : draft.finish = some page) : page.Trimmed := by
  obtain ⟨reference, given, made⟩ := Option.bind_eq_some_iff.mp finished
  rw [Option.ite_none_left_eq_some] at made
  obtain ⟨-, made⟩ := made
  cases made
  exact ⟨trimmed.reference reference given, trimmed.changeFrequency⟩

namespace Document

variable {document : Document}

def Trimmed (document : Document) : Prop := ∀ draft ∈ document.draft, draft.Trimmed

/-- What comes of a document and what it announces on the way are trimmed. -/
structure Tidies (result : Document × List Finding) : Prop where
  document : result.1.Trimmed
  found : ∀ finding ∈ result.2, finding.Trimmed

theorem Tidies.still (trimmed : document.Trimmed) : Tidies (document, []) :=
  ⟨trimmed, List.forall_mem_nil _⟩

theorem Tidies.append {first second : Document × List Finding} (one : Tidies first)
    (two : Tidies second) : Tidies (second.1, first.2 ++ second.2) :=
  ⟨two.document, List.forall_mem_append.mpr ⟨one.found, two.found⟩⟩

theorem fill_tidies {draft : Draft} {value : String} (trimmed : draft.Trimmed)
    (tidy : Text.Trimmed value) (field : Field) :
    (fill draft field value).1.Trimmed ∧ ∀ finding ∈ (fill draft field value).2,
      finding.Trimmed := by
  cases field with
  | loc =>
    have filled : ∀ reference ∈ some value, Text.Trimmed reference := by
      rintro _ ⟨⟩
      exact tidy
    exact ⟨⟨filled, trimmed.changeFrequency⟩, List.forall_mem_nil _⟩
  | changeFreq =>
    have filled : ∀ frequency ∈ some value, Text.Trimmed frequency := by
      rintro _ ⟨⟩
      exact tidy
    exact ⟨⟨trimmed.reference, filled⟩, List.forall_mem_nil _⟩
  | lastMod =>
    simp only [fill]
    split
    · exact ⟨⟨trimmed.reference, trimmed.changeFrequency⟩, List.forall_mem_nil _⟩
    · exact ⟨trimmed, List.forall_mem_singleton.mpr tidy⟩
  | priority =>
    simp only [fill]
    split
    · exact ⟨⟨trimmed.reference, trimmed.changeFrequency⟩, List.forall_mem_nil _⟩
    · exact ⟨trimmed, List.forall_mem_singleton.mpr tidy⟩

theorem dispatch_tidies {value : String} (trimmed : document.Trimmed)
    (tidy : Text.Trimmed value) : Tidies (document.dispatch value) := by
  unfold dispatch
  split
  · exact ⟨trimmed, List.forall_mem_singleton.mpr tidy⟩
  · rename_i field draft _ drafted _
    have filled := fill_tidies (trimmed draft drafted) tidy field
    refine ⟨?_, filled.2⟩
    rintro _ ⟨⟩
    exact filled.1
  · exact .still trimmed

theorem flush_tidies (trimmed : document.Trimmed) : Tidies document.flush := by
  unfold flush
  dsimp only
  split
  · exact .still trimmed
  · rename_i filled
    have tidy := Text.trimmed_chars (by simpa using filled)
    have emptied : ({ document with gathered := [] } : Document).Trimmed := trimmed
    exact dispatch_tidies emptied tidy

theorem start_trimmed (trimmed : document.Trimmed) (tag : Tag) : (document.start tag).Trimmed := by
  cases tag with
  | url =>
    rintro _ ⟨⟩
    exact ⟨nofun, nofun⟩
  | _ => exact trimmed

theorem closeEntry_tidies (trimmed : document.Trimmed) : Tidies document.closeEntry := by
  have closed : ∀ draft ∈ (none : Option Draft), draft.Trimmed := nofun
  unfold closeEntry
  dsimp only
  split
  · exact .still closed
  · rename_i page finished
    obtain ⟨draft, held, finished⟩ := Option.bind_eq_some_iff.mp finished
    have tidy : page.Trimmed := Draft.finish_trimmed (trimmed draft held) finished
    split
    · exact ⟨closed, List.forall_mem_singleton.mpr tidy⟩
    · exact ⟨closed, List.forall_mem_singleton.mpr tidy.reference⟩

theorem stop_tidies (trimmed : document.Trimmed) (tag : Tag) : Tidies (document.stop tag) := by
  cases tag with
  | url => exact closeEntry_tidies trimmed
  | _ => exact .still trimmed

theorem handle_tidies (trimmed : document.Trimmed) (event : Xml.Event) :
    Tidies (document.handle event) := by
  have flushed := flush_tidies trimmed
  cases event with
  | text content => exact .still trimmed
  | aside => exact .still trimmed
  | opening name => exact ⟨start_trimmed flushed.document _, flushed.found⟩
  | closing name => exact flushed.append (stop_tidies flushed.document _)
  | single name => exact flushed.append (stop_tidies (start_trimmed flushed.document _) _)

theorem onward_tidies {after : Document} {findings : List Finding} (trimmed : document.Trimmed)
    (step : document.next = .onward after findings) : Tidies (after, findings) := by
  obtain ⟨event, reader, -, handled⟩ := next_onward_iff.mp step
  have kept : ({ document with reader := reader } : Document).Trimmed := trimmed
  rw [← handled]
  exact handle_tidies kept event

theorem finished_tidies {after : Document} {findings : List Finding} (trimmed : document.Trimmed)
    (step : document.next = .finished after findings) : Tidies (after, findings) := by
  obtain ⟨-, flushed⟩ := next_finished_iff.mp step
  rw [← flushed]
  exact flush_tidies trimmed

theorem parseFrom_tidies (trimmed : document.Trimmed) {found : List Finding}
    (tidy : ∀ finding ∈ found, finding.Trimmed) (polls : Polls) :
    ∀ finding ∈ (document.parseFrom found polls).findings, finding.Trimmed := by
  have turned {found : List Finding} (tidy : ∀ finding ∈ found, finding.Trimmed) :
      ∀ finding ∈ found.reverse, finding.Trimmed :=
    fun finding member => tidy finding (List.mem_reverse.mp member)
  fun_induction parseFrom found document polls with
  | case1 => exact turned tidy
  | case2 => exact turned tidy
  | case3 found document polls after findings step going =>
    have more := (finished_tidies trimmed step).found
    exact turned (List.forall_mem_append.mpr ⟨turned more, tidy⟩)
  | case4 found document polls after findings step shorter going ih =>
    have onward := onward_tidies trimmed step
    exact ih onward.document (List.forall_mem_append.mpr ⟨turned onward.found, tidy⟩)

end Document

end Sitemap

namespace Xml.Reader

/-- The events that are read before a stop request is seen, the document ends or a fault comes. -/
def eventsUntil (reader : Reader) (polls : Option Nat) : List Event :=
  match polls with
  | some 0 => []
  | _ =>
    match _read : reader.next with
    | .ok (some (event, after)) => event :: after.eventsUntil (polls.map (· - 1))
    | _ => []
  termination_by reader.rest.length
  decreasing_by exact next_shorter _read

theorem eventsUntil_onward {reader after : Reader} {polls : Option Nat} {event : Event}
    (going : polls = some 0 → False) (read : reader.next = .ok (some (event, after))) :
    reader.eventsUntil polls = event :: after.eventsUntil (polls.map (· - 1)) := by
  conv => lhs; unfold eventsUntil
  split
  · exact absurd rfl going
  · split <;> simp_all

end Xml.Reader

namespace Sitemap

def endsEntry : Xml.Event → Bool
  | .closing name => Tag.ofName name == .url
  | _ => false

def judged (findings : List Finding) : Nat :=
  (entriesOf findings).length + (straysOf findings).length

theorem judged_append (first second : List Finding) :
    judged (first ++ second) = judged first + judged second := by
  simp only [judged, entriesOf_append, straysOf_append, List.length_append]
  omega

namespace Document

variable (document : Document)

theorem flush_judged : judged document.flush.2 = 0 := by
  obtain ⟨plain, -, -, -, dropped⟩ := flush_plain document
  have counted : document.flush.1.outOfScope =
      document.outOfScope + (straysOf document.flush.2).length :=
    congrArg Summary.outOfScope (document.flush_counts .completed)
  rw [judged, plain, List.length_nil]
  omega

theorem closeEntry_judged : judged document.closeEntry.2 ≤ 1 := by
  unfold closeEntry
  dsimp only
  split
  · exact Nat.zero_le 1
  · split <;> exact Nat.le_refl 1

theorem handle_judged (event : Xml.Event) :
    judged (document.handle event).2 ≤ [event].countP endsEntry := by
  cases event with
  | text content => exact Nat.zero_le _
  | aside => exact Nat.zero_le _
  | opening name => exact Nat.le_of_eq document.flush_judged
  | single name =>
    simp only [handle, start_stop_quiet, List.append_nil]
    exact Nat.le_of_eq document.flush_judged
  | closing name =>
    simp only [handle, judged_append, flush_judged, Nat.zero_add, stop]
    cases tag : Tag.ofName name with
    | url =>
      have ends : endsEntry (.closing name) = true := by simp [endsEntry, tag]
      rw [List.countP_singleton, if_pos ends]
      exact document.flush.1.closeEntry_judged
    | _ => exact Nat.zero_le _

theorem parseFrom_judged (document : Document) (found : List Finding) (polls : Polls) :
    judged (document.parseFrom found polls).findings ≤
      judged found.reverse + (document.reader.eventsUntil polls).countP endsEntry := by
  fun_induction parseFrom found document polls with
  | case1 => exact Nat.le_add_right _ _
  | case2 => exact Nat.le_add_right _ _
  | case3 found document polls after findings step going =>
    obtain ⟨-, flushed⟩ := next_finished_iff.mp step
    have quiet := document.flush_judged
    rw [flushed] at quiet
    rw [List.reverse_append, List.reverse_reverse, judged_append, quiet]
    exact Nat.le_add_right _ _
  | case4 found document polls after findings step shorter going ih =>
    obtain ⟨event, reader, read, handled⟩ := next_onward_iff.mp step
    have told := handle_judged { document with reader := reader } event
    have reads := handle_reader { document with reader := reader } event
    rw [handled] at told reads
    rw [List.reverse_append, List.reverse_reverse, judged_append, reads] at ih
    rw [Xml.Reader.eventsUntil_onward going read, List.countP_cons]
    rw [List.countP_singleton] at told
    dsimp only at ih told
    omega

end Document

/-- Whatever a document consists of and wherever its reading ends, what it announces is in order,
and so is the summary. -/
theorem parse_announcements (location : String) (scope : Scope) (bytes : List UInt8)
    (failure : Option String) (polls : Polls) :
    let parsed := parse location scope bytes failure polls
    let events := (Xml.Reader.ofBytes bytes failure).eventsUntil polls
    (∀ child, .child child ∈ parsed.findings → Text.Trimmed child) ∧
    (∀ page, .entry page ∈ parsed.findings → page.Trimmed ∧
      (scope = .strict → (directory location).toList <+: page.reference.toList)) ∧
    (∀ summary, parsed.result = .ok summary →
      summary.emitted = (entriesOf parsed.findings).length ∧
      summary.children = (childrenOf parsed.findings).length ∧
      (scope = .lenient → summary.outOfScope = 0) ∧
      summary.emitted + summary.outOfScope ≤ events.countP endsEntry) := by
  intro parsed events
  let document := Document.ofBytes location scope bytes failure
  have undrafted : document.Trimmed := nofun
  have trimmed : ∀ finding ∈ parsed.findings, finding.Trimmed :=
    Document.parseFrom_tidies undrafted (List.forall_mem_nil _) polls
  refine ⟨fun child => trimmed (.child child), ?_, ?_⟩
  · intro page found
    refine ⟨trimmed (.entry page) found, ?_⟩
    rintro rfl
    have passes : Scope.strict.passes page.reference location = true := parse_passing found
    simpa only [Scope.passes, List.isPrefixOf_iff_prefix] using passes
  · intro summary ends
    have told : summary = .of summary.outcome parsed.findings :=
      document.parseFrom_summary (fun _ => rfl) ends
    have read : judged parsed.findings ≤ judged [] + events.countP endsEntry :=
      document.parseFrom_judged [] polls
    have closed := (parse_within (.refl scope) location bytes failure polls).2
    rw [show (parse location scope bytes failure polls).result = .ok summary from ends] at closed
    have unstrayed : scope = .lenient → summary.outOfScope = 0 := by
      cases closed with
      | closed outcome children entries lenient => exact lenient
    refine ⟨congrArg Summary.emitted told, congrArg Summary.children told, unstrayed, ?_⟩
    calc summary.emitted + summary.outOfScope
        = judged parsed.findings := by rw [told]; rfl
      _ ≤ judged [] + events.countP endsEntry := read
      _ = events.countP endsEntry := Nat.zero_add _

theorem parse_announcements_blank :
    let bytes := Text.asciiBytes ("<urlset><sitemap><loc> http://a/t </loc></sitemap>" ++
      "<url><loc> http://a/p </loc><changefreq> hourly</changefreq></url>" ++
      "<url><loc> </loc></url><url><loc>http://b/</loc></url></urlset>")
    let page : Entry := ⟨"http://a/p", none, some "hourly", none⟩
    let parsed := parse "http://a/s.xml" .strict bytes none none
    (.child "http://a/t" ∈ parsed.findings ∧ Text.Trimmed "http://a/t") ∧
    (.entry page ∈ parsed.findings ∧ page.Trimmed ∧
      (directory "http://a/s.xml").toList <+: page.reference.toList) ∧
    parsed.result = .ok ⟨.completed, 1, 1, 1⟩ ∧
      1 + 1 ≤ ((Xml.Reader.ofBytes bytes none).eventsUntil none).countP endsEntry := by
  intro bytes page parsed
  let entry (content : Xml.Content) (rest : Xml.Content) :=
    Xml.Content.element (Text.asciiBytes "url") content rest
  let content : Xml.Content := .element (Text.asciiBytes "urlset")
    (.element (Text.asciiBytes "sitemap") (labelled "loc" " http://a/t " .done)
      (entry (labelled "loc" " http://a/p " (labelled "changefreq" " hourly" .done))
        (entry (labelled "loc" " " .done) (entry (labelled "loc" "http://b/" .done) .done)))) .done
  have reads : (Xml.Reader.ofBytes bytes none).Reads content.events := by decide +kernel
  have whole := parse_reads "http://a/s.xml" .strict reads
  have findings : parsed.findings =
      [.child "http://a/t", .entry page, .outOfScope "http://b/"] := by
    rw [show parsed = _ from whole]
    decide +kernel
  have ends : parsed.result = .ok ⟨.completed, 1, 1, 1⟩ := by
    rw [show parsed = _ from whole]
    decide +kernel
  obtain ⟨children, entries, summary⟩ :=
    parse_announcements "http://a/s.xml" .strict bytes none none
  have child : .child "http://a/t" ∈ parsed.findings := by simp [findings]
  have found : .entry page ∈ parsed.findings := by simp [findings]
  obtain ⟨trimmed, below⟩ := entries page found
  exact ⟨⟨child, children _ child⟩, ⟨found, trimmed, below rfl⟩, ends, (summary _ ends).2.2.2⟩

end Sitemap

end Sitemaps
