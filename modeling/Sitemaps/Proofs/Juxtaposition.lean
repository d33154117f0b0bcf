import Sitemaps.Proofs.Extensions
import Sitemaps.Proofs.Sources

/-!
Elements side by side. What an element sets while a document is read, its end undoes, however the
elements are nested; so each piece of well-formed content announces what it would announce alone.
-/

namespace Sitemaps

namespace Xml

/-- Content that can be read on its own: character data, markup, and elements that are closed. -/
def WellFormed (content : List UInt8) : Prop :=
  ∃ events, Reader.Reads ⟨content, none, []⟩ events

theorem wellFormed_iff {content : List UInt8} :
    WellFormed content ↔ ∃ source : Source, source.bytes = content := by
  constructor
  · rintro ⟨events, reads⟩
    exact reads.source
  · rintro ⟨source, rfl⟩
    have nothing : Reader.Reads ⟨[], none, []⟩ [] := .finished rfl
    have ends : ∀ b ∈ ([] : List UInt8).head?, b = 0x3C := nofun
    obtain ⟨events, reads, -⟩ := source.shows.alone [] ends nothing
    rw [List.append_nil, List.append_nil] at reads
    exact ⟨events, reads⟩

end Xml

namespace Sitemap

namespace Document

/-- What content leaves behind: a field that was awaited may be filled, an index left and an entry
closed, but nothing is begun. -/
structure Settles (before after : Document) : Prop where
  location : after.location = before.location
  scope : after.scope = before.scope
  waiting : after.awaiting = none ∨ after.awaiting = before.awaiting
  indexing : after.inIndex = false ∨ after.inIndex = before.inIndex
  drafting : before.draft = none → after.draft = none

section Settling

variable {before middle after : Document}

theorem Settles.refl (document : Document) : document.Settles document :=
  ⟨rfl, rfl, .inr rfl, .inr rfl, id⟩

theorem Settles.trans (one : before.Settles middle) (two : middle.Settles after) :
    before.Settles after where
  location := two.location.trans one.location
  scope := two.scope.trans one.scope
  waiting := by
    rcases two.waiting with stopped | same
    · exact .inl stopped
    · exact one.waiting.imp same.trans same.trans
  indexing := by
    rcases two.indexing with left | same
    · exact .inl left
    · exact one.indexing.imp same.trans same.trans
  drafting := fun undrafted => two.drafting (one.drafting undrafted)

theorem flush_settles (document : Document) : document.Settles document.flush.1 := by
  have passed := flush_passed [] document
  exact ⟨passed.location, passed.scope, passed.waiting, passed.indexing, passed.undrafted⟩

theorem Settles.bracket {tag : Tag} (inner : (before.start tag).Settles after) :
    before.Settles (after.stop tag).1 := by
  obtain ⟨location, scope, waiting, indexing, drafting⟩ := inner
  cases tag with
  | sitemap => exact ⟨location, scope, waiting, .inl rfl, drafting⟩
  | url =>
    unfold stop closeEntry
    dsimp only
    split
    · exact ⟨location, scope, waiting, indexing, fun _ => rfl⟩
    · split <;> exact ⟨location, scope, waiting, indexing, fun _ => rfl⟩
  | field field => exact ⟨location, scope, .inl rfl, indexing, drafting⟩
  | other => exact ⟨location, scope, waiting, indexing, drafting⟩

theorem feed_settles (content : Xml.Content) (document : Document) :
    document.Settles (document.feed content.events).1 := by
  induction content generalizing document with
  | done => exact .refl document
  | text content rest ih =>
    have gathers : document.Settles { document with gathered := content :: document.gathered } :=
      ⟨rfl, rfl, .inr rfl, .inr rfl, id⟩
    exact gathers.trans (ih _)
  | aside rest ih => exact ih document
  | single name rest ih =>
    rw [feed_single]
    have element := Settles.bracket (.refl (document.flush.1.start (Tag.ofName name)))
    exact (document.flush_settles.trans element).trans (ih _)
  | element name inner rest innerSettles ih =>
    rw [feed_element]
    have within := (innerSettles (document.flush.1.start (Tag.ofName name))).trans (flush_settles _)
    exact (document.flush_settles.trans within.bracket).trans (ih _)

end Settling

section Apart

variable {location : String} {scope : Scope} {document first second : Document}

theorem Apart.settles (apart : first.Apart location scope) (settles : first.Settles second) :
    second.Apart location scope where
  location := settles.location.trans apart.location
  scope := settles.scope.trans apart.scope
  unawaited := by
    rcases settles.waiting with stopped | same
    · exact stopped
    · exact same.trans apart.unawaited
  outer := by
    rcases settles.indexing with left | same
    · exact left
    · exact same.trans apart.outer
  undrafted := settles.drafting apart.undrafted

/-- Outside all entries one document is as good as another. -/
theorem Apart.alike (one : first.Apart location scope) (two : second.Apart location scope) :
    first.Alike second where
  location := one.location.trans two.location.symm
  scope := one.scope.trans two.scope.symm
  inIndex := one.outer.trans two.outer.symm
  awaiting := one.unawaited.trans two.unawaited.symm
  draft := one.undrafted.trans two.undrafted.symm
  text waits := absurd one.unawaited waits

theorem Apart.told (apart : document.Apart location scope) {name : Xml.Name}
    (other : Tag.ofName name = .other) (content : Xml.Content) :
    document.told (Xml.Content.element name content .done).events =
      (document.feed content.events).2 := by
  let inner := document.flush.1.feed content.events
  have opening : document.flush.1.Apart location scope := apart.flush
  have inside : inner.1.Apart location scope := opening.settles (feed_settles content _)
  have ended : inner.1.flush.1.Apart location scope := inside.flush
  have told : document.told (Xml.Content.element name content .done).events =
      document.flush.2 ++ (inner.2 ++ inner.1.flush.2 ++ []) ++ [] ++ inner.1.flush.1.flush.2 := by
    unfold Document.told
    rw [feed_element, other]
    rfl
  rw [told, flush_outside apart.unawaited, flush_outside inside.unawaited,
    flush_outside ended.unawaited]
  simp only [List.append_nil, List.nil_append]
  exact ((opening.alike apart).feed content.events).1

theorem Apart.feed_append (apart : document.Apart location scope) (one two : Xml.Content) :
    (document.feed (one.append two).events).2 =
      (document.feed one.events).2 ++ (document.feed two.events).2 := by
  have back := apart.settles (feed_settles one document)
  rw [Xml.Content.events_append, Document.feed_append, ((back.alike apart).feed two.events).1]

end Apart

end Document

/-- Pieces of content next to each other in a set of pages announce what each announces alone, one
after the other, and the counts add up. -/
theorem parse_juxtaposed (location : String) (scope : Scope) {first second : List UInt8}
    (one : Xml.WellFormed first) (two : Xml.WellFormed second) :
    let whole content := parse location scope
      (Text.asciiBytes "<urlset>" ++ content ++ Text.asciiBytes "</urlset>") none none
    ∃ a b : Summary, (whole first).result = .ok a ∧ (whole second).result = .ok b ∧
      (whole (first ++ second)).findings = (whole first).findings ++ (whole second).findings ∧
      (whole (first ++ second)).result = .ok ⟨.completed, a.emitted + b.emitted,
        a.outOfScope + b.outOfScope, a.children + b.children⟩ := by
  intro whole
  let document := Document.ofBytes location scope [] none
  have apart : document.Apart location scope := ⟨⟨rfl, rfl, rfl, rfl⟩, rfl⟩
  have alone (source : Xml.Source) : whole source.bytes =
      ⟨(document.feed source.content.events).2,
        .ok (.of .completed (document.feed source.content.events).2)⟩ := by
    have set : Tag.ofName (Text.asciiBytes "urlset") = .other := by decide
    have written : Text.asciiBytes "<urlset>" ++ source.bytes ++ Text.asciiBytes "</urlset>" =
        (Xml.Source.element (Text.asciiBytes "urlset") [] [] (by decide) (by decide) source
          .done).bytes := by
      rw [List.append_assoc]
      rfl
    change parse location scope _ none none = _
    rw [written, parse_source, ← apart.told set source.content]
    rfl
  obtain ⟨first, rfl⟩ := Xml.wellFormed_iff.mp one
  obtain ⟨second, rfl⟩ := Xml.wellFormed_iff.mp two
  rw [← Xml.Source.bytes_append, alone, alone, alone, Xml.Source.content_append,
    apart.feed_append, Summary.of_append]
  exact ⟨_, _, rfl, rfl, rfl, rfl⟩

theorem parse_juxtaposed_child :
    let child := Text.asciiBytes "<sitemap><loc>http://a/t</loc></sitemap>"
    let page := Text.asciiBytes "<url><loc>http://a/p</loc></url>"
    let whole content := parse "http://a/s.xml" .strict
      (Text.asciiBytes "<urlset>" ++ content ++ Text.asciiBytes "</urlset>") none none
    Xml.WellFormed child ∧ Xml.WellFormed page ∧
      (whole (child ++ page)).findings = (whole child).findings ++ (whole page).findings := by
  intro child page whole
  have one : Xml.WellFormed child :=
    ⟨(Xml.Content.element (Text.asciiBytes "sitemap") (labelled "loc" "http://a/t" .done)
      .done).events, by decide +kernel⟩
  have two : Xml.WellFormed page :=
    ⟨(Xml.Content.element (Text.asciiBytes "url") (labelled "loc" "http://a/p" .done)
      .done).events, by decide +kernel⟩
  obtain ⟨a, b, -, -, joined, -⟩ := parse_juxtaposed "http://a/s.xml" .strict one two
  exact ⟨one, two, joined⟩

end Sitemap

end Sitemaps
