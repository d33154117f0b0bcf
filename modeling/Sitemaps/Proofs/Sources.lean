import Sitemaps.Proofs.Interruption
import Sitemaps.Proofs.Junctions
import Sitemaps.Proofs.Likeness
import Sitemaps.Proofs.Tags
import Sitemaps.Proofs.Truncation

/-!
The text of a document as a tree: its character data, its markup, and its elements with what stands
in them. Every document that is read to its end is the text of such a tree, and what it announces
is what the tree makes of it.
-/

namespace Sitemaps

namespace Xml

open Sitemap.Document (Interchangeable interchange_silence interchange_texts)

/-- Character data, or a part of it. -/
structure Run where
  bytes : List UInt8
  text : List Char
  bare : 0x3C ∉ bytes
  decoded : characters bytes = .ok text

def Run.plain (text : List Char) (bare : '<' ∉ text) (unescaped : '&' ∉ text) : Run where
  bytes := Text.Utf8.bytesOf text
  text := text
  bare member := bare (Text.Utf8.mem_bytesOf (c := '<') (by decide) member)
  decoded := characters_bare unescaped

def Run.empty : Run := .plain [] (by simp) (by simp)

def Run.append (first second : Run) : Run where
  bytes := first.bytes ++ second.bytes
  text := first.text ++ second.text
  bare := by simp [first.bare, second.bare]
  decoded := characters_append first.decoded second.decoded

/-- The text of a document, or of what stands in an element. -/
inductive Source
  | done
  | text (run : Run) (rest : Source)
  | cdata (content markup : List UInt8) (spells : (Token.cdata content).SpelledBy markup)
      (rest : Source)
  | aside (markup : List UInt8) (spells : Token.aside.SpelledBy markup) (rest : Source)
  | single (name trailing : List UInt8) (stands : Stands name trailing) (rest : Source)
  | element (name trailing space : List UInt8) (opens : Opens name trailing)
      (closes : Closes name space) (inner rest : Source)

namespace Source

def bytes : Source → List UInt8
  | done => []
  | text run rest => run.bytes ++ rest.bytes
  | cdata _ markup _ rest => markup ++ rest.bytes
  | aside markup _ rest => markup ++ rest.bytes
  | single name trailing _ rest => singleTag name trailing ++ rest.bytes
  | element name trailing space _ _ inner rest =>
    startTag name trailing ++ (inner.bytes ++ (endTag name space ++ rest.bytes))

def content : Source → Content
  | done => .done
  | text run rest => .text run.text rest.content
  | cdata content _ _ rest => .text (Text.Utf8.decodeLossy content) rest.content
  | aside _ _ rest => .aside rest.content
  | single name _ _ rest => .single name rest.content
  | element name _ _ _ _ inner rest => .element name inner.content rest.content

def append : Source → Source → Source
  | done, second => second
  | text run rest, second => text run (rest.append second)
  | cdata content markup spells rest, second => cdata content markup spells (rest.append second)
  | aside markup spells rest, second => aside markup spells (rest.append second)
  | single name trailing stands rest, second => single name trailing stands (rest.append second)
  | element name trailing space opens closes inner rest, second =>
    element name trailing space opens closes inner (rest.append second)

theorem bytes_append (first second : Source) :
    (first.append second).bytes = first.bytes ++ second.bytes := by
  induction first with
  | done => rfl
  | element name trailing space opens closes inner rest _ ih =>
    simp only [append, bytes, ih, List.append_assoc]
  | _ => simp only [append, bytes, List.append_assoc, *]

theorem content_append (first second : Source) :
    (first.append second).content = first.content.append second.content := by
  induction first with
  | done => rfl
  | element name trailing space opens closes inner rest _ ih =>
    simp only [append, content, Content.append, ih]
  | _ => simp only [append, content, Content.append, *]

end Source

section Reading

variable {token : Token} {event : Event} {markup more : List UInt8} {opened after : List Name}
  {events tail : List Event}

theorem reads_markup (spells : token.SpelledBy markup)
    (read : Reader.read ⟨more, none, opened⟩ token = .ok (event, ⟨more, none, after⟩))
    (later : Reader.Reads ⟨more, none, after⟩ tail) :
    Reader.Reads ⟨markup ++ more, none, opened⟩ (event :: tail) := by
  refine .onward ?_ later
  have found : Token.next none (markup ++ more) = .ok (some (token, more)) := spells more
  have next := @Reader.next_token ⟨markup ++ more, none, opened⟩ token more found
  rw [next, read]
  rfl

theorem Run.shows (run : Run) (ends : ∀ b ∈ more.head?, b = 0x3C)
    (later : Reader.Reads ⟨more, none, opened⟩ tail) :
    ∃ found, Reader.Reads ⟨run.bytes ++ more, none, opened⟩ (found ++ tail) ∧
      Interchangeable found [.text run.text] := by
  by_cases present : run.bytes = []
  · have silent : run.text = [] := by
      have decoded := run.decoded
      rw [present, show characters [] = .ok [] from Run.empty.decoded] at decoded
      exact (Except.ok.inj decoded).symm
    rw [present, silent]
    exact ⟨[], later, interchange_silence.symm⟩
  · refine ⟨[.text run.text], .onward ?_ later, .refl _⟩
    have found : Token.next none (run.bytes ++ more) = .ok (some (.text run.bytes, more)) :=
      next_run present run.bare ends
    have next := @Reader.next_token ⟨run.bytes ++ more, none, opened⟩ _ more found
    rw [next, Reader.read, run.decoded]
    rfl

theorem markup_first (starts : markup.head? = some 0x3C) (rest : List UInt8) :
    ∀ b ∈ (markup ++ rest).head?, b = 0x3C := by
  intro b first
  rw [List.head?_append, starts] at first
  cases first
  rfl

/-- Wherever the bytes stand in a document, they are read as events that can stand for these. -/
def Shows (bytes : List UInt8) (events : List Event) : Prop :=
  ∀ (pending : Run) (opened : List Name) (more : List UInt8) (tail : List Event),
    (∀ b ∈ more.head?, b = 0x3C) → Reader.Reads ⟨more, none, opened⟩ tail →
    ∃ found, Reader.Reads ⟨pending.bytes ++ (bytes ++ more), none, opened⟩ (found ++ tail) ∧
      Interchangeable found (.text pending.text :: events)

theorem Shows.nil : Shows [] [] :=
  fun pending _ _ _ ends later => pending.shows ends later

theorem Shows.text {bytes : List UInt8} (shows : Shows bytes events) (run : Run) :
    Shows (run.bytes ++ bytes) (.text run.text :: events) := by
  intro pending opened more tail ends later
  obtain ⟨found, reads, same⟩ := shows (pending.append run) opened more tail ends later
  refine ⟨found, by simpa [Run.append] using reads, same.trans ?_⟩
  exact (interchange_texts pending.text run.text).append (.refl events)

theorem Shows.alone {bytes : List UInt8} (shows : Shows bytes events) (opened : List Name)
    (ends : ∀ b ∈ more.head?, b = 0x3C) (later : Reader.Reads ⟨more, none, opened⟩ tail) :
    ∃ found, Reader.Reads ⟨bytes ++ more, none, opened⟩ (found ++ tail) ∧
      Interchangeable found events := by
  obtain ⟨found, reads, same⟩ := shows .empty opened more tail ends later
  exact ⟨found, reads, same.trans (interchange_silence.append (.refl events))⟩

theorem Shows.marked {bytes : List UInt8} (shows : Shows bytes events)
    (spells : token.SpelledBy markup) (starts : markup.head? = some 0x3C)
    (read : ∀ reader : Reader, reader.read token = .ok (event, reader)) :
    Shows (markup ++ bytes) (event :: events) := by
  intro pending opened more tail ends later
  obtain ⟨found, reads, same⟩ := shows.alone opened ends later
  have onward := reads_markup spells (read _) reads
  obtain ⟨before, whole, beforeSame⟩ := pending.shows (markup_first starts _) onward
  refine ⟨before ++ event :: found, by simpa using whole, ?_⟩
  exact beforeSame.append (same.cons event)

theorem Shows.element {inner bytes name trailing space : List UInt8} {within : List Event}
    (shows : Shows bytes events) (innerShows : Shows inner within) (opens : Opens name trailing)
    (closes : Closes name space) :
    Shows (startTag name trailing ++ (inner ++ (endTag name space ++ bytes)))
      (.opening name :: within ++ .closing name :: events) := by
  intro pending opened more tail ends later
  obtain ⟨found, reads, same⟩ := shows.alone opened ends later
  have closed : Reader.Reads ⟨endTag name space ++ (bytes ++ more), none, name :: opened⟩
      (.closing name :: (found ++ tail)) := by
    refine reads_markup closes.spells ?_ reads
    simp [Reader.read, Reader.close, Except.map]
  obtain ⟨inside, readsInside, sameInside⟩ :=
    innerShows.alone (name :: opened) (markup_first rfl _) closed
  have whole := reads_markup opens.spells rfl readsInside
  obtain ⟨before, all, sameBefore⟩ := pending.shows (markup_first rfl _) whole
  refine ⟨before ++ .opening name :: inside ++ .closing name :: found, by simpa using all, ?_⟩
  have element := (sameInside.cons (.opening name)).append (same.cons (.closing name))
  simpa using sameBefore.append element

theorem Source.shows (source : Source) : Shows source.bytes source.content.events := by
  induction source with
  | done => exact .nil
  | text run rest ih => exact ih.text run
  | cdata content markup spells rest ih =>
    exact ih.marked spells (spells.starts nofun) fun _ => rfl
  | aside markup spells rest ih => exact ih.marked spells (spells.starts nofun) fun _ => rfl
  | single name trailing stands rest ih => exact ih.marked stands.spells rfl fun _ => rfl
  | element name trailing space opens closes inner rest innerShows shows =>
    exact shows.element innerShows opens closes

end Reading

section Trees

/-- What stands after an element that was opened before: its end tag, and what follows. -/
structure Part where
  name : Name
  tag : List UInt8
  paired : Paired tag
  named : closingToken tag = .closing name
  rest : Source

def Part.bytes (part : Part) : List UInt8 := 0x3C :: 0x2F :: part.tag ++ [0x3E] ++ part.rest.bytes

theorem Reader.read_kept {reader after : Reader} {token : Token} {event : Event}
    (made : reader.read token = .ok (event, after)) :
    after = { reader with opened := token.nest reader.opened } := by
  cases token with
  | text content =>
    cases decoded : characters content with
    | error fault => simp [read, decoded, Except.map] at made
    | ok text =>
      simp only [read, decoded, Except.map, Except.ok.injEq, Prod.mk.injEq] at made
      exact made.2.symm
  | closing name =>
    cases closed : reader.close name with
    | error fault => simp [read, closed, Except.map] at made
    | ok left =>
      simp only [read, closed, Except.map, Except.ok.injEq, Prod.mk.injEq] at made
      rw [← made.2]
      unfold close at closed
      split at closed
      · cases closed
      · rename_i innermost outer opened
        split at closed
        · cases closed
          simp [Token.nest, opened]
        · cases closed
  | _ =>
    simp only [read, Except.ok.injEq, Prod.mk.injEq] at made
    exact made.2.symm

theorem Reader.read_closing {reader after : Reader} {name : Name} {event : Event}
    (made : reader.read (.closing name) = .ok (event, after)) :
    reader.opened = name :: after.opened := by
  cases closed : reader.close name with
  | error fault => simp [read, closed, Except.map] at made
  | ok left =>
    simp only [read, closed, Except.map, Except.ok.injEq, Prod.mk.injEq] at made
    rw [← made.2]
    exact close_opened closed

theorem Reader.Reads.sources {reader : Reader} {events : List Event} (reads : reader.Reads events)
    (unbroken : reader.failure = none) :
    ∃ (first : Source) (outer : List Part), reader.opened = outer.map Part.name ∧
      reader.rest = first.bytes ++ outer.flatMap Part.bytes := by
  induction reads with
  | @finished reader ends =>
    obtain ⟨found, opened⟩ := next_none ends
    exact ⟨.done, [], opened, Token.next_none found⟩
  | @onward reader after event events read later ih =>
    obtain ⟨token, rest, found, made⟩ := next_some read
    rw [unbroken] at found
    obtain ⟨markup, split, spelling⟩ := next_spelling found
    have kept := read_kept made
    obtain ⟨first, outer, opened, left⟩ := ih (by rw [kept]; exact unbroken)
    rw [kept] at opened left
    rw [split]
    dsimp only at opened left
    cases spelling with
    | text bare =>
      cases decoded : characters markup with
      | error fault => simp [Reader.read, decoded, Except.map] at made
      | ok text =>
        refine ⟨.text ⟨markup, text, bare, decoded⟩ first, outer, opened, ?_⟩
        rw [left, Source.bytes, List.append_assoc]
    | single stands =>
      refine ⟨.single _ _ stands first, outer, opened, ?_⟩
      rw [left, Source.bytes, List.append_assoc]
    | @opening name trailing opens =>
      -- the first part that is left ends the element that starts here
      cases outer with
      | nil => cases opened
      | cons part outer =>
        obtain ⟨same, opened⟩ := List.cons.inj opened
        have named := part.named
        rw [← same] at named
        obtain ⟨space, tag, closes⟩ := closingToken_closes part.paired opens.unspaced named
        refine ⟨.element name trailing space opens closes first part.rest, outer, opened, ?_⟩
        rw [left, Source.bytes, List.flatMap_cons, Part.bytes, tag, endTag]
        simp only [List.append_assoc]
    | @closing name tag paired named =>
      have nest : reader.opened = name :: after.opened := by
        have closed := read_closing made
        exact closed
      refine ⟨.done, ⟨name, tag, paired, named, first⟩ :: outer, ?_, ?_⟩
      · rw [nest, List.map_cons, ← opened, kept]
      · rw [left]
        simp [Part.bytes, Source.bytes]
    | nameless nameless spells =>
      cases token with
      | cdata content =>
        refine ⟨.cdata content markup spells first, outer, opened, ?_⟩
        rw [left, Source.bytes, List.append_assoc]
      | aside =>
        refine ⟨.aside markup spells first, outer, opened, ?_⟩
        rw [left, Source.bytes, List.append_assoc]
      | _ => cases nameless

theorem Reader.Reads.source {bytes : List UInt8} {events : List Event}
    (reads : Reader.Reads ⟨bytes, none, []⟩ events) : ∃ source : Source, source.bytes = bytes := by
  obtain ⟨first, outer, opened, split⟩ := reads.sources rfl
  have closed : outer = [] := List.map_eq_nil_iff.mp opened.symm
  refine ⟨first, ?_⟩
  dsimp only at split
  rw [split, closed]
  exact (List.append_nil _).symm

end Trees

section Marks

variable {bytes : List UInt8} {events : List Event}

theorem Reader.Reads.unmarked (reads : Reader.Reads ⟨byteOrderMark ++ bytes, none, []⟩ events) :
    ∃ text other found tail, events = .text text :: tail ∧
      Reader.Reads ⟨bytes, none, []⟩ (found ++ tail) ∧ Interchangeable found [.text other] := by
  let run := bytes.takeWhile (· != 0x3C)
  let rest := bytes.dropWhile (· != 0x3C)
  have split : bytes = run ++ rest := List.takeWhile_append_dropWhile.symm
  have bare : 0x3C ∉ run := by
    intro member
    cases List.all_eq_true.mp List.all_takeWhile _ member
  have ends : ∀ b ∈ rest.head?, b = 0x3C := by
    intro b front
    have stopped := List.head?_dropWhile_not (· != 0x3C) bytes
    rw [show (bytes.dropWhile (· != 0x3C)).head? = some b from front] at stopped
    simpa using stopped
  have first : Token.next none (byteOrderMark ++ bytes) =
      .ok (some (.text (byteOrderMark ++ run), rest)) := by
    rw [split, ← List.append_assoc]
    exact next_run (by simp [byteOrderMark]) (by simp [byteOrderMark, bare]) ends
  have next := @next_token ⟨byteOrderMark ++ bytes, none, []⟩ _ rest first
  cases reads with
  | finished nothing =>
    rw [next] at nothing
    cases decoded : characters (byteOrderMark ++ run) <;>
      simp [read, decoded, Except.map] at nothing
  | @onward _ after event tail step later =>
    rw [next] at step
    cases decoded : characters (byteOrderMark ++ run) with
    | error fault => simp [read, decoded, Except.map] at step
    | ok text =>
      simp only [read, decoded, Except.map, Except.ok.injEq, Option.some.injEq,
        Prod.mk.injEq] at step
      obtain ⟨rfl, rfl⟩ := step
      obtain ⟨other, plain⟩ := characters_unmarked decoded
      obtain ⟨found, onward, same⟩ := Run.shows ⟨run, other, bare, plain⟩ ends later
      exact ⟨text, other, found, tail, rfl, split ▸ onward, same⟩

end Marks

end Xml

namespace Sitemap

namespace Document

def told (document : Document) (events : List Xml.Event) : List Finding :=
  (document.feed events).2 ++ (document.feed events).1.flush.2

section Told

variable {first second : Document} {events others : List Xml.Event}

theorem Interchangeable.told (same : Interchangeable events others) (alike : first.Alike second) :
    first.told events = second.told others := by
  obtain ⟨found, last⟩ := same first second alike
  rw [Document.told, found, last.flush.1]
  rfl

theorem told_text {document : Document} (unawaited : document.awaiting = none) (text : List Char) :
    document.told (.text text :: events) = document.told events := by
  have alike : ({ document with gathered := text :: document.gathered } : Document).Alike
      document := ⟨rfl, rfl, rfl, rfl, rfl, fun waits => absurd unawaited waits⟩
  exact (Interchangeable.refl events).told alike

end Told

theorem next_onward_reader {document after : Document} {findings : List Finding}
    (step : document.next = .onward after findings) :
    ∃ event, document.reader.next = .ok (some (event, after.reader)) := by
  obtain ⟨event, reader, read, handled⟩ := next_onward_iff.mp step
  have reads := handle_reader { document with reader := reader } event
  rw [handled] at reads
  exact ⟨event, by rw [read, reads]⟩

theorem parseFrom_whole {document : Document} {found : List Finding} {polls : Polls}
    {summary : Summary} (unstopped : polls = none)
    (ends : (document.parseFrom found polls).result = .ok summary) :
    ∃ events, document.reader.Reads events := by
  fun_induction parseFrom found document polls with
  | case1 => cases unstopped
  | case2 => cases ends
  | case3 found document polls last findings step going =>
    exact ⟨[], .finished (next_finished_iff.mp step).1⟩
  | case4 found document polls after findings step shorter going ih =>
    obtain ⟨event, read⟩ := next_onward_reader step
    obtain ⟨events, later⟩ := ih (by rw [unstopped]; rfl) ends
    exact ⟨event :: events, .onward read later⟩

end Document

theorem parse_reads (location : String) (scope : Scope) {bytes : List UInt8}
    {events : List Xml.Event} (reads : (Xml.Reader.ofBytes bytes none).Reads events) :
    let told := (Document.ofBytes location scope [] none).told events
    parse location scope bytes none none = ⟨told, .ok (.of .completed told)⟩ := by
  intro told
  let document := Document.ofBytes location scope bytes none
  have alike : document.Alike (Document.ofBytes location scope [] none) :=
    ⟨rfl, rfl, rfl, rfl, rfl, fun _ => rfl⟩
  have same : document.told events = told := (Document.Interchangeable.refl events).told alike
  have whole := @Document.parseFrom_reads document events reads []
  have findings : (document.parseFrom [] none).findings = told := by
    rw [whole, ← same]
    rfl
  have result := congrArg Parsed.result whole
  have counted := document.parseFrom_summary (fun _ => rfl) result
  rw [counted, findings] at result
  change document.parseFrom [] none = _
  rw [← findings]
  exact congrArg (Parsed.mk _) (findings ▸ result)

theorem parse_source (location : String) (scope : Scope) (source : Xml.Source) :
    let told := (Document.ofBytes location scope [] none).told source.content.events
    parse location scope source.bytes none none = ⟨told, .ok (.of .completed told)⟩ := by
  let document := Document.ofBytes location scope [] none
  have nothing : Xml.Reader.Reads ⟨[], none, []⟩ [] := .finished rfl
  have ends : ∀ b ∈ ([] : List UInt8).head?, b = 0x3C := nofun
  obtain ⟨events, reads, same⟩ := source.shows.alone [] ends nothing
  rw [List.append_nil, List.append_nil] at reads
  have told := same.told (.refl document)
  rw [← told]
  by_cases marked : source.bytes.take 3 = Xml.byteOrderMark
  · have split : source.bytes = Xml.byteOrderMark ++ source.bytes.drop 3 := by
      rw [← marked, List.take_append_drop]
    rw [split] at reads
    obtain ⟨text, other, found, tail, rfl, unmarked, first⟩ := reads.unmarked
    have begins : Xml.Reader.ofBytes source.bytes none = ⟨source.bytes.drop 3, none, []⟩ := by
      simp [Xml.Reader.ofBytes, marked]
    have ignored : document.told (found ++ tail) = document.told (.text text :: tail) := by
      calc
        document.told (found ++ tail) = document.told (.text other :: tail) :=
          (first.append (.refl tail)).told (.refl document)
        _ = document.told tail := Document.told_text rfl other
        _ = document.told (.text text :: tail) := (Document.told_text rfl text).symm
    rw [← ignored]
    exact parse_reads location scope (begins ▸ unmarked)
  · have begins : Xml.Reader.ofBytes source.bytes none = ⟨source.bytes, none, []⟩ := by
      simp [Xml.Reader.ofBytes, marked]
    exact parse_reads location scope (begins ▸ reads)

/-- Every document that is read without a fault is the text of a tree. -/
theorem parse_ok_source {location : String} {scope : Scope} {bytes : List UInt8} {summary : Summary}
    (ends : (parse location scope bytes none none).result = .ok summary) :
    ∃ source : Xml.Source, source.bytes = bytes := by
  obtain ⟨events, reads⟩ := Document.parseFrom_whole rfl ends
  by_cases marked : bytes.take 3 = Xml.byteOrderMark
  · have begins : Xml.Reader.ofBytes bytes none = ⟨bytes.drop 3, none, []⟩ := by
      simp [Xml.Reader.ofBytes, marked]
    have rest : Xml.Reader.Reads ⟨bytes.drop 3, none, []⟩ events := begins ▸ reads
    obtain ⟨source, same⟩ := rest.source
    refine ⟨.text (.plain [Char.ofNat 0xFEFF] (by decide) (by decide)) source, ?_⟩
    have split : bytes = Xml.byteOrderMark ++ bytes.drop 3 := by
      rw [← marked, List.take_append_drop]
    rw [Xml.Source.bytes, same]
    exact split.symm
  · have begins : Xml.Reader.ofBytes bytes none = ⟨bytes, none, []⟩ := by
      simp [Xml.Reader.ofBytes, marked]
    have whole : Xml.Reader.Reads ⟨bytes, none, []⟩ events := begins ▸ reads
    exact whole.source

end Sitemap

end Sitemaps
