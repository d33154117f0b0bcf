import Sitemaps.Proofs.Elements
import Sitemaps.Proofs.RoundTrip
import Sitemaps.Proofs.Scopes

/-!
Pages among extensions. Elements are known by their local names at whatever depth, so what a foreign
element does to a page follows from the names in it: none but those of entries and locations can
change which page is announced.
-/

namespace Sitemaps.Sitemap

def Lacks (tag : Tag) (names : List Xml.Name) : Prop := ∀ name ∈ names, Tag.ofName name ≠ tag

instance (tag : Tag) (names : List Xml.Name) : Decidable (Lacks tag names) :=
  inferInstanceAs (Decidable (∀ _ ∈ _, _))

/-- The value that a text stands for; a blank one stands for none. -/
def present? (characters : List Char) : Option String :=
  let value := Text.trimChars characters
  if value.isEmpty then none else some (String.ofList value)

theorem present?_nonempty {characters : List Char} {value : String}
    (present : present? characters = some value) : value.isEmpty = false := by
  unfold present? at present
  simp only at present
  split at present
  · cases present
  · rename_i filled
    cases present
    simpa using filled

namespace Document

def reference? (document : Document) : Option String := document.draft.bind (·.reference)

/-- What elements with these names may do to a document, where none of them is an entry: they
complete no page, and only a location among them changes what a page refers to. -/
structure Passed (names : List Xml.Name) (before : Document) (result : Document × List Finding) :
    Prop where
  location : result.1.location = before.location
  scope : result.1.scope = before.scope
  drafting : result.1.draft.isSome = before.draft.isSome
  waiting : result.1.awaiting = none ∨ result.1.awaiting = before.awaiting
  indexing : result.1.inIndex = false ∨ result.1.inIndex = before.inIndex
  entries : entriesOf result.2 = []
  reference : Lacks (.field .loc) names → before.awaiting ≠ some .loc →
    result.1.reference? = before.reference?

namespace Passed

variable {names : List Xml.Name} {before : Document} {first second : Document × List Finding}

theorem refl (names : List Xml.Name) (before : Document) : Passed names before (before, []) :=
  ⟨rfl, rfl, rfl, Or.inr rfl, Or.inr rfl, rfl, fun _ _ => rfl⟩

theorem trans (one : Passed names before first) (two : Passed names first.1 second) :
    Passed names before (second.1, first.2 ++ second.2) where
  location := two.location.trans one.location
  scope := two.scope.trans one.scope
  drafting := two.drafting.trans one.drafting
  waiting := by
    rcases two.waiting with stopped | same
    · exact Or.inl stopped
    · exact one.waiting.imp same.trans same.trans
  indexing := by
    rcases two.indexing with left | same
    · exact Or.inl left
    · exact one.indexing.imp same.trans same.trans
  entries := by rw [entriesOf_append, one.entries, two.entries]; rfl
  reference := by
    intro lacks unawaited
    have still : first.1.awaiting ≠ some .loc := by
      rcases one.waiting with stopped | same
      · rw [stopped]
        exact fun none => nomatch none
      · rw [same]
        exact unawaited
    exact (two.reference lacks still).trans (one.reference lacks unawaited)

theorem weaken {wider : List Xml.Name} (passed : Passed names before first)
    (within : ∀ name ∈ names, name ∈ wider) : Passed wider before first :=
  { passed with
    reference := fun lacks => passed.reference fun name member => lacks name (within name member) }

end Passed

theorem dispatch_reference (document : Document) (value : String)
    (unawaited : document.awaiting ≠ some .loc) :
    (document.dispatch value).1.reference? = document.reference? := by
  unfold dispatch
  split
  · rename_i awaiting _
    exact absurd awaiting unawaited
  · rename_i _ _ field draft awaiting drafted _
    have other : field ≠ .loc := by
      rintro rfl
      exact unawaited awaiting
    simp [reference?, fill_draft, other, drafted]
  · rfl

theorem dispatch_flags (document : Document) (value : String) :
    (document.dispatch value).1.draft.isSome = document.draft.isSome ∧
      ((document.dispatch value).1.awaiting = none ∨
        (document.dispatch value).1.awaiting = document.awaiting) ∧
      (document.dispatch value).1.inIndex = document.inIndex := by
  unfold dispatch
  split
  · exact ⟨rfl, Or.inl rfl, rfl⟩
  · rename_i _ _ _ _ _ drafted _
    exact ⟨by rw [drafted]; rfl, Or.inl rfl, rfl⟩
  · exact ⟨rfl, Or.inr rfl, rfl⟩

theorem flush_passed (names : List Xml.Name) (document : Document) :
    Passed names document document.flush := by
  obtain ⟨entries, scope, location, -, -⟩ := flush_plain document
  let value := String.ofList (Text.trimChars document.text)
  obtain ⟨drafting, waiting, indexing⟩ := dispatch_flags { document with gathered := [] } value
  have flags : document.flush.1.draft.isSome = document.draft.isSome ∧
      (document.flush.1.awaiting = none ∨ document.flush.1.awaiting = document.awaiting) ∧
      document.flush.1.inIndex = document.inIndex ∧
      (document.awaiting ≠ some .loc → document.flush.1.reference? = document.reference?) := by
    unfold flush
    simp only
    split
    · exact ⟨rfl, Or.inr rfl, rfl, fun _ => rfl⟩
    · exact ⟨drafting, waiting, indexing, dispatch_reference { document with gathered := [] } value⟩
  exact ⟨location, scope, flags.1, flags.2.1, Or.inr flags.2.2.1, entries, fun _ => flags.2.2.2⟩

theorem bracket_passed {names : List Xml.Name} (document : Document) {name : Xml.Name}
    {result : Document × List Finding} (foreign : Tag.ofName name ≠ .url)
    (inner : Passed names (document.start (Tag.ofName name)) result) :
    Passed (name :: names) document ((result.1.stop (Tag.ofName name)).1,
      result.2 ++ (result.1.stop (Tag.ofName name)).2) := by
  have within : ∀ other ∈ names, other ∈ name :: names := fun _ => List.mem_cons_of_mem name
  cases tag : Tag.ofName name with
  | url => exact absurd tag foreign
  | other =>
    rw [tag] at inner
    have passed := inner.weaken within
    rw [stop, List.append_nil]
    exact passed
  | sitemap =>
    rw [tag] at inner
    have passed := inner.weaken within
    rw [stop, List.append_nil]
    exact ⟨passed.location, passed.scope, passed.drafting, passed.waiting, Or.inl rfl,
      passed.entries, passed.reference⟩
  | field field =>
    rw [tag] at inner
    rw [stop, List.append_nil]
    refine ⟨inner.location, inner.scope, inner.drafting, Or.inl rfl, inner.indexing,
      inner.entries, ?_⟩
    intro lacks unawaited
    have other : field ≠ .loc := by
      rintro rfl
      exact lacks name List.mem_cons_self tag
    apply inner.reference (fun name member => lacks name (within name member))
    intro same
    exact other (Option.some.inj same)

theorem feed_single (document : Document) (name : Xml.Name) (rest : Xml.Content) :
    document.feed (Xml.Content.single name rest).events =
      ((((document.flush.1.start (Tag.ofName name)).stop (Tag.ofName name)).1.feed rest.events).1,
        document.flush.2 ++ ((document.flush.1.start (Tag.ofName name)).stop (Tag.ofName name)).2 ++
          (((document.flush.1.start (Tag.ofName name)).stop
            (Tag.ofName name)).1.feed rest.events).2) := rfl

def within (document : Document) (inner : List Xml.Event) : Document × List Finding :=
  ((document.feed inner).1.flush.1, (document.feed inner).2 ++ (document.feed inner).1.flush.2)

theorem feed_element (document : Document) (name : Xml.Name) (inner rest : Xml.Content) :
    let opened := document.flush.1.start (Tag.ofName name)
    let ended := opened.within inner.events
    let closed := ended.1.stop (Tag.ofName name)
    document.feed (Xml.Content.element name inner rest).events =
      ((closed.1.feed rest.events).1,
        document.flush.2 ++ (ended.2 ++ closed.2) ++ (closed.1.feed rest.events).2) := by
  intro opened ended closed
  simp only [Xml.Content.events, List.cons_append, feed, feed_append, handle, closed, ended, within,
    opened, List.append_assoc]

theorem feed_passed (content : Xml.Content) (foreign : Lacks .url content.names)
    (document : Document) :
    Passed content.names document (document.feed content.events) := by
  induction content generalizing document with
  | done => exact .refl _ document
  | text content rest ih =>
    have gathered := ih foreign { document with gathered := content :: document.gathered }
    exact ⟨gathered.location, gathered.scope, gathered.drafting, gathered.waiting,
      gathered.indexing, gathered.entries, gathered.reference⟩
  | aside rest ih => exact ih foreign document
  | single name rest ih =>
    have later : ∀ other ∈ rest.names, other ∈ name :: rest.names :=
      fun _ => List.mem_cons_of_mem name
    have tag : Passed (name :: rest.names) document.flush.1 _ :=
      bracket_passed document.flush.1 (foreign name List.mem_cons_self) (.refl rest.names _)
    have others := ih (fun other member => foreign other (later other member))
      ((document.flush.1.start (Tag.ofName name)).stop (Tag.ofName name)).1
    rw [feed_single]
    exact ((flush_passed _ document).trans tag).trans (others.weaken later)
  | element name inner rest first second =>
    have early : ∀ other ∈ inner.names, other ∈ name :: inner.names ++ rest.names := by
      intro other member
      exact List.mem_append_left _ (List.mem_cons_of_mem name member)
    have later : ∀ other ∈ rest.names, other ∈ name :: inner.names ++ rest.names :=
      fun _ => List.mem_append_right _
    have opening : Tag.ofName name ≠ .url :=
      foreign name (List.mem_append_left _ List.mem_cons_self)
    have content := first (fun other member => foreign other (early other member))
      (document.flush.1.start (Tag.ofName name))
    have element := bracket_passed document.flush.1 opening
      (content.trans (flush_passed inner.names _))
    have others := second (fun other member => foreign other (later other member))
      (((document.flush.1.start (Tag.ofName name)).within inner.events).1.stop
        (Tag.ofName name)).1
    rw [feed_element]
    exact ((flush_passed _ document).trans (element.weaken fun _ => List.mem_append_left _)).trans
      (others.weaken later)

theorem feed_plain (content : Xml.Content) (plain : content.names = []) (document : Document) :
    ∃ gathered, document.feed content.events = ({ document with gathered := gathered }, []) ∧
      gathered.reverse.flatten = document.text ++ content.characters := by
  induction content generalizing document with
  | done => exact ⟨document.gathered, rfl, (List.append_nil _).symm⟩
  | text content rest ih =>
    obtain ⟨gathered, fed, same⟩ :=
      ih plain { document with gathered := content :: document.gathered }
    refine ⟨gathered, ?_, ?_⟩
    · simp only [Xml.Content.events, feed, handle, fed, List.nil_append]
    · rw [same]
      simp [text, Xml.Content.characters]
  | aside rest ih => exact ih plain document
  | single name rest => cases plain
  | element name inner rest => cases plain

/-- A location within an entry. A blank one leaves the reference as it was. -/
theorem feed_loc (document : Document) {draft : Draft} (drafted : document.draft = some draft)
    (unawaited : document.awaiting = none) (outer : document.inIndex = false) {name : Xml.Name}
    (loc : Tag.ofName name = .field .loc) {inner : Xml.Content} (plain : inner.names = []) :
    document.feed (Xml.Content.element name inner .done).events =
      ({ document with
          gathered := []
          draft := some { draft with
            reference := (present? inner.characters).or draft.reference } }, []) := by
  obtain ⟨gathered, fed, same⟩ :=
    feed_plain inner plain { document with gathered := [], awaiting := some .loc }
  have text : gathered.reverse.flatten = inner.characters := same
  have opened : document.flush.1.start (.field .loc) =
      { document with gathered := [], awaiting := some .loc } := by
    rw [flush_unawaited document unawaited]
    rfl
  have quiet : document.flush.2 = [] := by rw [flush_unawaited document unawaited]
  rw [feed_element, loc, opened, quiet]
  simp only [within, fed, feed, Xml.Content.events]
  cases blank : Text.trimChars inner.characters with
  | nil => simp [flush, Document.text, text, blank, stop, present?, drafted, unawaited]
  | cons first others =>
    simp [flush, Document.text, text, blank, stop, dispatch, fill, present?, drafted, outer,
      unawaited]

end Document

/-- What stands in the element of an entry: a location of its own, which holds no elements, and other
elements before and after it. No entry is among those. There may be locations among them before its
own, unless that is blank, but none after. -/
structure Page where
  before : Xml.Content
  name : Xml.Name
  /-- What stands in its location; none if there are no two tags to stand between. -/
  loc : Option Xml.Content
  after : Xml.Content
  locates : Tag.ofName name = .field .loc
  plain : ∀ inner ∈ loc, inner.names = []
  single : Lacks .url before.names ∧ Lacks .url after.names
  last : Lacks (.field .loc) after.names
  first : (loc.bind fun inner => present? inner.characters) = none →
    Lacks (.field .loc) before.names

namespace Page

/-- The text of its own location, trimmed, if it is not blank. -/
def reference? (page : Page) : Option String := page.loc.bind fun inner => present? inner.characters

def element (page : Page) : Xml.Content :=
  match page.loc with
  | none => .single page.name .done
  | some inner => .element page.name inner .done

def content (page : Page) : Xml.Content := page.before.append (page.element.append page.after)

end Page

namespace Document

theorem feed_page_loc (document : Document) (page : Page) {draft : Draft}
    (drafted : document.draft = some draft) (unawaited : document.awaiting = none)
    (outer : document.inIndex = false) :
    document.feed page.element.events =
      ({ document with
          gathered := []
          draft := some { draft with reference := page.reference?.or draft.reference } }, []) := by
  cases located : page.loc with
  | some inner =>
    have plain := page.plain inner (by rw [located]; rfl)
    simp only [Page.element, Page.reference?, located]
    exact feed_loc document drafted unawaited outer page.locates plain
  | none =>
    simp only [Page.element, Page.reference?, located, Xml.Content.events, feed, handle,
      page.locates, flush_unawaited document unawaited, start, stop]
    simp [drafted, unawaited]

/-- Outside all fields and sitemaps. -/
structure Level (location : String) (scope : Scope) (document : Document) : Prop where
  location : document.location = location
  scope : document.scope = scope
  unawaited : document.awaiting = none
  outer : document.inIndex = false

section Levels

variable {location : String} {scope : Scope} {document : Document}

theorem Level.passed (level : document.Level location scope) {names : List Xml.Name}
    {result : Document × List Finding} (passed : Passed names document result) :
    result.1.Level location scope := by
  refine ⟨passed.location.trans level.location, passed.scope.trans level.scope, ?_, ?_⟩
  · rcases passed.waiting with stopped | same
    · exact stopped
    · exact same.trans level.unawaited
  · rcases passed.indexing with left | same
    · exact left
    · exact same.trans level.outer

theorem Passed.drafted {names : List Xml.Name} {result : Document × List Finding}
    (passed : Passed names document result) {draft : Draft}
    (drafted : document.draft = some draft) : ∃ draft, result.1.draft = some draft := by
  apply Option.isSome_iff_exists.mp
  rw [passed.drafting, drafted]
  rfl

theorem Passed.undrafted {names : List Xml.Name} {result : Document × List Finding}
    (passed : Passed names document result) (undrafted : document.draft = none) :
    result.1.draft = none := by
  apply Option.isNone_iff_eq_none.mp
  have same := passed.drafting
  rw [undrafted] at same
  simpa using same

theorem feed_located (level : document.Level location scope) {draft : Draft}
    (drafted : document.draft = some draft) (page : Page) :
    ∃ after : Document, document.feed page.element.events = (after, []) ∧
      after.Level location scope ∧ ∃ located, after.draft = some located ∧
        located.reference = page.reference?.or draft.reference :=
  ⟨_, feed_page_loc document page drafted level.unawaited level.outer,
    ⟨level.location, level.scope, level.unawaited, level.outer⟩, _, rfl, rfl⟩

theorem feed_page (level : document.Level location scope) (fresh : document.draft = some {})
    (page : Page) :
    (document.feed page.content.events).1.Level location scope ∧
      entriesOf (document.feed page.content.events).2 = [] ∧
      ∃ draft, (document.feed page.content.events).1.draft = some draft ∧
        draft.reference = page.reference? := by
  have ahead := feed_passed page.before page.single.1 document
  obtain ⟨draft, drafted⟩ := ahead.drafted fresh
  obtain ⟨middle, element, level', located, held, refers⟩ :=
    feed_located (level.passed ahead) drafted page
  have behind := feed_passed page.after page.single.2 middle
  obtain ⟨last, closing⟩ := behind.drafted held
  have referred : page.reference?.or draft.reference = page.reference? := by
    cases own : page.reference? with
    | some reference => rfl
    | none =>
      have same := ahead.reference (page.first own) (by rw [level.unawaited]; exact nofun)
      simp only [reference?, drafted, fresh, Option.bind] at same
      rw [same]
      rfl
  have kept : last.reference = located.reference := by
    have same := behind.reference page.last (by rw [level'.unawaited]; exact nofun)
    simpa [reference?, closing, held] using same
  have lasting : (middle.feed page.after.events).1.Level location scope := level'.passed behind
  rw [Page.content, Xml.Content.events_append, Xml.Content.events_append, feed_append, feed_append,
    element]
  refine ⟨lasting, ?_, last, closing, ?_⟩
  · rw [entriesOf_append, entriesOf_append, ahead.entries, behind.entries]
    rfl
  · rw [kept, refers, referred]

theorem closeEntry_refers (level : document.Level location scope) {draft : Draft}
    (drafted : document.draft = some draft)
    (filled : ∀ reference, draft.reference = some reference → reference.isEmpty = false) :
    document.closeEntry.1.Level location scope ∧
      (entriesOf document.closeEntry.2).map (·.reference) =
        draft.reference.toList.filter (scope.passes · location) := by
  have vouches : ∀ reference, document.scope.passes reference document.location =
      scope.passes reference location := by
    intro reference
    rw [level.scope, level.location]
  cases referring : draft.reference with
  | none =>
    simp only [closeEntry, drafted, Draft.finish, referring, Option.bind]
    exact ⟨⟨level.location, level.scope, level.unawaited, level.outer⟩, rfl⟩
  | some reference =>
    simp only [closeEntry, drafted, Draft.finish, referring, Option.bind,
      filled reference referring, Bool.false_eq_true, if_false, vouches]
    cases passes : scope.passes reference location with
    | true =>
      refine ⟨⟨level.location, level.scope, level.unawaited, level.outer⟩, ?_⟩
      simp [passes, entriesOf, Finding.entry?]
    | false =>
      refine ⟨⟨level.location, level.scope, level.unawaited, level.outer⟩, ?_⟩
      simp [passes, entriesOf, Finding.entry?]

end Levels

end Document

/-- The entries of a content, in order: they stand in other elements, or outside all, but not in one
another and not in sitemaps or fields. What else there is has no entry in it. -/
inductive Lists : Xml.Content → List Page → Prop
  | done : Lists .done []
  | text {content : List Char} {rest : Xml.Content} {pages : List Page} (later : Lists rest pages) :
    Lists (.text content rest) pages
  | aside {rest : Xml.Content} {pages : List Page} (later : Lists rest pages) :
    Lists (.aside rest) pages
  | single {name : Xml.Name} {rest : Xml.Content} {pages : List Page}
    (foreign : Tag.ofName name ≠ .url) (later : Lists rest pages) : Lists (.single name rest) pages
  | foreign {name : Xml.Name} {inner rest : Xml.Content} {pages : List Page}
    (foreign : Lacks .url (name :: inner.names)) (later : Lists rest pages) :
    Lists (.element name inner rest) pages
  | outer {name : Xml.Name} {inner rest : Xml.Content} {first second : List Page}
    (other : Tag.ofName name = .other) (within : Lists inner first) (later : Lists rest second) :
    Lists (.element name inner rest) (first ++ second)
  | page {name : Xml.Name} {page : Page} {rest : Xml.Content} {pages : List Page}
    (entry : Tag.ofName name = .url) (later : Lists rest pages) :
    Lists (.element name page.content rest) (page :: pages)

/-- What a document at `location` announces of some pages. -/
def announced (location : String) (scope : Scope) (pages : List Page) : List String :=
  (pages.filterMap Page.reference?).filter (scope.passes · location)

theorem announced_append (location : String) (scope : Scope) (first second : List Page) :
    announced location scope (first ++ second) =
      announced location scope first ++ announced location scope second := by
  unfold announced
  rw [List.filterMap_append, List.filter_append]

namespace Document

structure Apart (location : String) (scope : Scope) (document : Document) : Prop
    extends Level location scope document where
  undrafted : document.draft = none

variable {location : String} {scope : Scope}

theorem Apart.passed {document : Document} (apart : document.Apart location scope)
    {names : List Xml.Name} {result : Document × List Finding}
    (passed : Passed names document result) : result.1.Apart location scope :=
  ⟨apart.toLevel.passed passed, passed.undrafted apart.undrafted⟩

theorem feed_entry {document : Document} (apart : document.Apart location scope) {name : Xml.Name}
    (entry : Tag.ofName name = .url) (page : Page) :
    let opened := document.flush.1.start (Tag.ofName name)
    let ended := opened.within page.content.events
    let closed := ended.1.stop (Tag.ofName name)
    closed.1.Apart location scope ∧
      (entriesOf (document.flush.2 ++ (ended.2 ++ closed.2))).map (·.reference) =
        announced location scope [page] := by
  intro opened ended closed
  have start : opened = { document with gathered := [], draft := some {} } := by
    simp only [opened, entry, flush_unawaited document apart.unawaited, start]
  have opening : opened.Level location scope := by
    rw [start]
    exact ⟨apart.location, apart.scope, apart.unawaited, apart.outer⟩
  have fresh : opened.draft = some {} := by rw [start]
  obtain ⟨level, quiet, draft, drafted, refers⟩ := feed_page opening fresh page
  have last := flush_unawaited (opened.feed page.content.events).1 level.unawaited
  have ends : ended = ({ (opened.feed page.content.events).1 with gathered := [] },
      (opened.feed page.content.events).2 ++ []) := by
    simp only [ended, within, last]
  have ending : ended.1.Level location scope := by
    rw [ends]
    exact ⟨level.location, level.scope, level.unawaited, level.outer⟩
  have drafted : ended.1.draft = some draft := by
    rw [ends]
    exact drafted
  have closing : closed = ended.1.closeEntry := by
    simp only [closed, entry, stop]
  have filled : ∀ reference, draft.reference = some reference → reference.isEmpty = false := by
    intro reference present
    rw [refers] at present
    obtain ⟨inner, -, present⟩ := Option.bind_eq_some_iff.mp present
    exact present?_nonempty present
  have referring := closeEntry_refers ending drafted filled
  rw [closing]
  refine ⟨⟨referring.1, closeEntry_draft ended.1⟩, ?_⟩
  have announcing : announced location scope [page] =
      page.reference?.toList.filter (scope.passes · location) := by
    unfold announced
    cases own : page.reference? with
    | none => simp [own]
    | some reference => simp [own]
  have plain : entriesOf ended.2 = [] := by
    rw [ends, List.append_nil]
    exact quiet
  rw [entriesOf_append, entriesOf_append, (flush_passed [] document).entries, plain, announcing,
    ← refers]
  exact referring.2

theorem Apart.flush {document : Document} (apart : document.Apart location scope) :
    document.flush.1.Apart location scope := apart.passed (flush_passed [] document)

def Announces (location : String) (scope : Scope) (content : Xml.Content) (pages : List Page) :
    Prop :=
  ∀ document : Document, document.Apart location scope →
    (document.feed content.events).1.Apart location scope ∧
      (entriesOf (document.feed content.events).2).map (·.reference) =
        announced location scope pages

theorem Announces.append {first second : Xml.Content} {early late : List Page}
    (one : Announces location scope first early) (two : Announces location scope second late) :
    Announces location scope (first.append second) (early ++ late) := by
  intro document apart
  obtain ⟨middle, own⟩ := one document apart
  obtain ⟨ended, others⟩ := two _ middle
  rw [Xml.Content.events_append, feed_append]
  refine ⟨ended, ?_⟩
  rw [entriesOf_append, List.map_append, own, others, announced_append]

theorem announces_foreign (content : Xml.Content) (foreign : Lacks .url content.names) :
    Announces location scope content [] := by
  intro document apart
  have passed := feed_passed content foreign document
  refine ⟨apart.passed passed, ?_⟩
  rw [passed.entries]
  rfl

theorem announces_outer {name : Xml.Name} (other : Tag.ofName name = .other) {inner : Xml.Content}
    {pages : List Page} (within : Announces location scope inner pages) :
    Announces location scope (.element name inner .done) pages := by
  intro document apart
  obtain ⟨ended, own⟩ := within document.flush.1 apart.flush
  rw [feed_element]
  simp only [other, start, stop, Document.within, feed, Xml.Content.events, List.append_nil]
  refine ⟨ended.flush, ?_⟩
  rw [entriesOf_append, entriesOf_append, (flush_passed [] document).entries,
    (flush_passed [] _).entries, List.nil_append, List.append_nil, own]

theorem announces_entry {name : Xml.Name} (entry : Tag.ofName name = .url) (page : Page) :
    Announces location scope (.element name page.content .done) [page] := by
  intro document apart
  obtain ⟨closed, own⟩ := feed_entry apart entry page
  rw [feed_element]
  simp only [feed, Xml.Content.events, List.append_nil]
  exact ⟨closed, own⟩

theorem announces_lists {content : Xml.Content} {pages : List Page} (lists : Lists content pages) :
    Announces location scope content pages := by
  induction lists with
  | done => exact announces_foreign .done (by simp [Lacks, Xml.Content.names])
  | @text content rest pages _ later =>
    exact (announces_foreign (.text content .done)
      (by simp [Lacks, Xml.Content.names])).append later
  | aside _ later => exact later
  | @single name rest pages foreign _ later =>
    exact (announces_foreign (.single name .done)
      (by simpa [Lacks, Xml.Content.names])).append later
  | @foreign name inner rest pages foreign _ later =>
    exact (announces_foreign (.element name inner .done)
      (by simpa [Xml.Content.names] using foreign)).append later
  | @outer name inner rest first second other _ _ within later =>
    exact (announces_outer other within).append later
  | @page name page rest pages entry _ later => exact (announces_entry entry page).append later

end Document

/-- A well-formed document whose entries each have a location of their own that holds no elements,
among extensions in which no element is an entry and none after that location, nor before it if it is
blank, is a location. It announces, in order, a page for each entry whose own location is not blank
and in scope, and no other page. -/
theorem parse_extended (location : String) (scope : Scope) (bytes : List UInt8)
    {content : Xml.Content} (reads : (Xml.Reader.ofBytes bytes none).Reads content.events)
    {pages : List Page} (lists : Lists content pages) :
    let parsed := parse location scope bytes none none
    (∃ summary, parsed.result = .ok summary ∧ summary.outcome = .completed) ∧
    (entriesOf parsed.findings).map (·.reference) =
      (pages.filterMap Page.reference?).filter (scope.passes · location) := by
  intro parsed
  let document := Document.ofBytes location scope bytes none
  have reads : document.reader.Reads content.events := reads
  have announces : Document.Announces location scope content pages := Document.announces_lists lists
  obtain ⟨ended, own⟩ := announces document ⟨⟨rfl, rfl, rfl, rfl⟩, rfl⟩
  have whole : parsed = _ := Document.parseFrom_reads reads []
  rw [whole]
  refine ⟨⟨_, rfl, rfl⟩, ?_⟩
  rw [entriesOf_append, (Document.flush_passed [] _).entries, List.append_nil]
  exact own

def labelled (name text : String) (rest : Xml.Content) : Xml.Content :=
  .element (Text.asciiBytes name) (.text text.toList .done) rest

def urlSet (entry : Xml.Content) : Xml.Content :=
  .element (Text.asciiBytes "urlset") (.element (Text.asciiBytes "url") entry .done) .done

def portrait : Page where
  before := .element (Text.asciiBytes "i:image") (labelled "i:loc" "http://a/i" .done) .done
  name := Text.asciiBytes "loc"
  loc := some (.text " http://a/p ".toList .done)
  after := labelled "i:note" "n" .done
  locates := by decide
  plain := by
    rintro inner ⟨⟩
    rfl
  single := by decide
  last := by decide
  first := by decide +kernel

theorem parse_extended_portrait :
    let bytes := Text.asciiBytes ("<urlset xmlns:i='u'><url><i:image><i:loc>http://a/i</i:loc>" ++
      "</i:image><loc> http://a/p </loc><i:note>n</i:note></url></urlset>")
    (Xml.Reader.ofBytes bytes none).Reads (urlSet portrait.content).events ∧
    Lists (urlSet portrait.content) [portrait] ∧
    (entriesOf (parse "http://a/s.xml" .strict bytes none none).findings).map (·.reference) =
      ["http://a/p"] := by
  intro bytes
  have reads : (Xml.Reader.ofBytes bytes none).Reads (urlSet portrait.content).events := by
    decide +kernel
  have lists : Lists (urlSet portrait.content) [portrait] :=
    .outer (by decide) (.page (by decide) .done) .done
  refine ⟨reads, lists, ?_⟩
  rw [(parse_extended "http://a/s.xml" .strict bytes reads lists).2]
  decide +kernel

/-- Behind its location the image is taken for the page, and an extension that is called as entries
are leaves nothing of the page. -/
theorem parse_image_location :
    let image := Text.asciiBytes ("<urlset xmlns:i='u'><url><loc>http://a/p</loc>" ++
      "<i:image><i:loc>http://a/i</i:loc></i:image></url></urlset>")
    let url := Text.asciiBytes ("<urlset xmlns:i='u'><url><loc>http://a/p</loc>" ++
      "<i:url>q</i:url></url></urlset>")
    (Xml.Reader.ofBytes image none).Reads (urlSet (labelled "loc" "http://a/p"
      (.element (Text.asciiBytes "i:image") (labelled "i:loc" "http://a/i" .done) .done))).events ∧
    (Xml.Reader.ofBytes url none).Reads
      (urlSet (labelled "loc" "http://a/p" (labelled "i:url" "q" .done))).events ∧
    Scope.strict.passes "http://a/p" "http://a/s.xml" = true ∧
    (entriesOf (parse "http://a/s.xml" .strict image none none).findings).map (·.reference) =
      ["http://a/i"] ∧
    entriesOf (parse "http://a/s.xml" .strict url none none).findings = [] := by
  intro image url
  have first : (Document.ofBytes "http://a/s.xml" .strict image none).reader.Reads
      (urlSet (labelled "loc" "http://a/p" (.element (Text.asciiBytes "i:image")
        (labelled "i:loc" "http://a/i" .done) .done))).events := by
    decide +kernel
  have second : (Document.ofBytes "http://a/s.xml" .strict url none).reader.Reads
      (urlSet (labelled "loc" "http://a/p" (labelled "i:url" "q" .done))).events := by
    decide +kernel
  refine ⟨first, second, by decide +kernel, ?_, ?_⟩
  · rw [parse, Document.parseFrom_reads first]
    decide +kernel
  · rw [parse, Document.parseFrom_reads second]
    decide +kernel

end Sitemaps.Sitemap
