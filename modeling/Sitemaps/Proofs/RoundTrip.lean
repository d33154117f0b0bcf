import Sitemaps.Proofs.Findings
import Sitemaps.Proofs.Markup

/-!
Reading undoes writing: a sitemap document that was written reads to its end and announces what its
records say, in whatever pieces and spellings their fields were written.
-/

namespace Sitemaps.Sitemap

open Text.Utf8 Written

namespace Document

/-- Reading on from one document comes to the same as reading on from the other once `findings` are
announced. -/
def Leads (document : Document) (findings : List Finding) (after : Document) : Prop :=
  ∀ found, document.parseFrom found none = after.parseFrom (findings.reverse ++ found) none

section Moves

variable {document middle after : Document} {first second findings : List Finding}

theorem Leads.refl (document : Document) : document.Leads [] document := fun _ => rfl

theorem Leads.trans (one : document.Leads first middle) (two : middle.Leads second after) :
    document.Leads (first ++ second) after := by
  intro found
  rw [one, two, List.reverse_append, List.append_assoc]

theorem Leads.quiet (one : document.Leads [] middle) (two : middle.Leads findings after) :
    document.Leads findings after := one.trans two

theorem leads_onward (step : document.next = .onward after findings) :
    document.Leads findings after := fun found => parseFrom_onward found step

theorem flush_alike (document : Document) (gathered : List (List Char))
    (alike : document.awaiting = none ∨ gathered.reverse.flatten = document.text) :
    flush { document with gathered := gathered } = document.flush := by
  rcases alike with unawaited | same
  · rw [flush_unawaited document unawaited,
      flush_unawaited { document with gathered := gathered } unawaited]
  · unfold flush
    rw [show text { document with gathered := gathered } = document.text from same]

theorem leads_alike (document : Document) (gathered : List (List Char))
    (alike : document.awaiting = none ∨ gathered.reverse.flatten = document.text) :
    document.Leads [] { document with gathered := gathered } := by
  intro found
  induction size : document.remaining using Nat.strongRecOn
    generalizing document gathered found with
  | ind n ih =>
    cases read : document.reader.next with
    | error fault =>
      have other : next { document with gathered := gathered } = _ := next_failed read
      rw [parseFrom_failed _ (next_failed read), parseFrom_failed _ other]
      rfl
    | ok next =>
      cases next with
      | none =>
        have other : next { document with gathered := gathered } = _ := next_finished read
        rw [flush_alike document gathered alike] at other
        rw [parseFrom_finished _ (next_finished read), parseFrom_finished _ other]
        rfl
      | some pair =>
        obtain ⟨event, reader⟩ := pair
        have one := next_onward read
        have other : next { document with gathered := gathered } = _ := next_onward read
        have same := flush_alike { document with reader := reader } gathered alike
        rw [parseFrom_onward _ one, List.reverse_nil, List.nil_append, parseFrom_onward _ other]
        have shorter := next_shorter one
        cases event with
        | text content =>
          refine ih _ (size ▸ shorter) _ (content :: gathered) ?_ found rfl
          refine alike.imp id fun same => ?_
          simpa [handle, text] using same
        | aside =>
          exact ih _ (size ▸ shorter) { document with reader := reader } gathered alike found rfl
        | opening name => simp only [handle, same]
        | closing name => simp only [handle, same]
        | single name => simp only [handle, same]

end Moves

def before (document : Document) (opened : List Xml.Name) (text : List Char) : Document :=
  { document with reader := ⟨bytesOf text, none, opened⟩ }

def gather (document : Document) (content : List Char) : Document :=
  { document with gathered := content :: document.gathered }

section Tokens

variable (document : Document) (opened : List Xml.Name) (rest : List Char) {after : List Xml.Name}
  {text name : List Char}

theorem leads_event {token : Xml.Token} (event : Xml.Event)
    (found : Xml.Token.next none (bytesOf text) = .ok (some (token, bytesOf rest)))
    (read : Xml.Reader.read ⟨bytesOf rest, none, opened⟩ token =
      .ok (event, ⟨bytesOf rest, none, after⟩)) :
    (document.before opened text).Leads (document.handle event).2
      ((document.handle event).1.before after rest) := by
  have next : (document.before opened text).reader.next =
      .ok (some (event, ⟨bytesOf rest, none, after⟩)) := by
    unfold Xml.Reader.next
    simp only [before, found, bind, Except.bind]
    rw [read]
    rfl
  have made := handle_with document ⟨bytesOf rest, none, after⟩ event
  have step : (document.before opened text).next =
      .onward ((document.handle event).1.before after rest) (document.handle event).2 :=
    (next_onward next).trans (congrArg (fun made => Step.onward made.1 made.2) made)
  exact leads_onward step

theorem leads_aside (skipped : Aside) :
    (document.before opened (skipped.written ++ rest)).Leads [] (document.before opened rest) :=
  document.leads_event opened rest _ (Xml.next_aside skipped) rfl

theorem leads_cdata {content : List Char} (closed : ¬[']', ']', '>'] <:+: content) :
    (document.before opened ("<![CDATA[".toList ++ content ++ "]]>".toList ++ rest)).Leads []
      ((document.gather content).before opened rest) := by
  have read : Xml.Reader.read ⟨bytesOf rest, none, opened⟩ (.cdata (bytesOf content)) =
      .ok (.text content, ⟨bytesOf rest, none, opened⟩) := by
    rw [Xml.Reader.read, decodeLossy_bytesOf]
  exact document.leads_event opened rest _ (Xml.next_cdata closed) read

theorem leads_text {spelled : List Spelled} (present : spelled ≠ [])
    (ends : ∀ c ∈ rest.head?, c = '<') :
    (document.before opened (spelled.flatMap Spelled.written ++ rest)).Leads []
      ((document.gather (spelled.map Spelled.char)).before opened rest) := by
  have read : Xml.Reader.read ⟨bytesOf rest, none, opened⟩
      (.text (bytesOf (spelled.flatMap Spelled.written))) =
        .ok (.text (spelled.map Spelled.char), ⟨bytesOf rest, none, opened⟩) := by
    rw [Xml.Reader.read, Xml.characters_text]
    rfl
  exact document.leads_event opened rest _
    (Xml.next_text (Xml.spelled_some present) (Xml.spelled_bare spelled) ends) read

theorem leads_opening (plain : Xml.Plain name) :
    (document.before opened ("<".toList ++ name ++ ">".toList ++ rest)).Leads
      document.flush.2
      ((document.flush.1.start (Tag.ofName (bytesOf name))).before (bytesOf name :: opened)
        rest) :=
  document.leads_event opened rest (.opening (bytesOf name)) (Xml.next_opening plain) rfl

theorem leads_declared {space : List Char} (plain : Xml.Plain name) (unquoted : '"' ∉ space) :
    (document.before opened ("<".toList ++ name ++
        (" xmlns=\"".toList ++ space ++ "\"".toList) ++ ">".toList ++ rest)).Leads
      document.flush.2
      ((document.flush.1.start (Tag.ofName (bytesOf name))).before (bytesOf name :: opened)
        rest) :=
  document.leads_event opened rest (.opening (bytesOf name)) (Xml.next_declared plain unquoted) rfl

theorem leads_closing (plain : Xml.Plain name) :
    (document.before (bytesOf name :: opened) ("</".toList ++ name ++ ">".toList ++ rest)).Leads
      (document.flush.2 ++ (document.flush.1.stop (Tag.ofName (bytesOf name))).2)
      ((document.flush.1.stop (Tag.ofName (bytesOf name))).1.before opened rest) := by
  have read : Xml.Reader.read ⟨bytesOf rest, none, bytesOf name :: opened⟩
      (.closing (bytesOf name)) =
        .ok (.closing (bytesOf name), ⟨bytesOf rest, none, opened⟩) := by
    simp [Xml.Reader.read, Xml.Reader.close, Except.map]
  exact document.leads_event _ rest _ (Xml.next_closing plain) read

end Tokens

section Contents

variable (document : Document) (opened : List Xml.Name) (rest : List Char)

theorem leads_run (run : List Spelled) (ends : ∀ c ∈ rest.head?, c = '<') :
    (document.before opened (run.flatMap Spelled.written ++ rest)).Leads []
      ((document.gather (run.map Spelled.char)).before opened rest) := by
  cases run with
  | nil =>
    refine leads_alike (document.before opened rest) ([] :: document.gathered) (.inr ?_)
    simp [before, text]
  | cons first run => exact document.leads_text opened rest (List.cons_ne_nil _ _) ends

theorem leads_gather (pieces : List (List Char)) :
    (before { document with gathered := pieces ++ document.gathered } opened rest).Leads []
      ((document.gather pieces.reverse.flatten).before opened rest) := by
  refine leads_alike _ (pieces.reverse.flatten :: document.gathered) (.inr ?_)
  simp [before, text]

theorem leads_content (run : List Spelled) (content : Content)
    (ends : ∀ c ∈ rest.head?, c = '<') :
    (document.before opened
      (run.flatMap Spelled.written ++ (Content.written content ++ rest))).Leads []
      ((document.gather (run.map Spelled.char ++ Content.meant content)).before opened rest) := by
  induction content generalizing document run with
  | nil =>
    rw [Content.written, Content.meant, List.flatMap_nil, List.flatMap_nil, List.append_nil]
    exact document.leads_run opened rest run ends
  | cons fragment content ih =>
    have written : Content.written (fragment :: content) =
        fragment.written ++ Content.written content := List.flatMap_cons
    have meant : Content.meant (fragment :: content) = fragment.meant ++ Content.meant content :=
      List.flatMap_cons
    rw [written, meant, List.append_assoc]
    cases fragment with
    | text spelled =>
      have merged := ih document (run ++ spelled)
      rw [List.flatMap_append, List.map_append, List.append_assoc, List.append_assoc] at merged
      exact merged
    | cdata inside closed =>
      have texts := document.leads_run opened ("<![CDATA[".toList ++ inside ++ "]]>".toList ++
        (Content.written content ++ rest)) run (by simp)
      have cdata := (document.gather (run.map Spelled.char)).leads_cdata opened
        (Content.written content ++ rest) closed
      have onward := ih ((document.gather (run.map Spelled.char)).gather inside) []
      have whole := document.leads_gather opened rest
        [Content.meant content, inside, run.map Spelled.char]
      simp only [List.reverse_cons, List.reverse_nil, List.nil_append, List.cons_append,
        List.flatten_cons, List.flatten_nil, List.append_nil] at whole
      exact texts.quiet (cdata.quiet (onward.quiet whole))
    | aside skipped =>
      have texts := document.leads_run opened
        (skipped.written ++ (Content.written content ++ rest)) run
        (by cases skipped <;> simp [Aside.written])
      have aside := (document.gather (run.map Spelled.char)).leads_aside opened
        (Content.written content ++ rest) skipped
      have onward := ih (document.gather (run.map Spelled.char)) []
      have whole := document.leads_gather opened rest
        [Content.meant content, run.map Spelled.char]
      simp only [List.reverse_cons, List.reverse_nil, List.nil_append, List.cons_append,
        List.flatten_cons, List.flatten_nil, List.append_nil] at whole
      exact texts.quiet (aside.quiet (onward.quiet whole))

end Contents

section Elements

variable {document : Document} {opened : List Xml.Name} {rest : List Char}

theorem flush_clear (clear : document.gathered = []) : document.flush = (document, []) := by
  unfold flush text
  rw [clear]
  cases document
  cases clear
  rfl

def filled (draft : Draft) (field : Field) : Option String → Draft × List Finding
  | some value => fill draft field value
  | none => (draft, [])

theorem fieldName_plain (field : Field) : Xml.Plain (fieldName field).toList := by
  cases field <;> decide

theorem fieldName_tag (field : Field) :
    Tag.ofName (bytesOf (fieldName field).toList) = .field field := by
  cases field <;> decide

theorem element_eq (name : String) (inside : List Char) : element name inside ++ rest =
    "<".toList ++ name.toList ++ ">".toList ++
      (inside ++ ("</".toList ++ name.toList ++ ">".toList ++ rest)) := by
  simp [element, Written.opened, closed]

theorem ends_element (name : String) (inside : List Char) :
    ∀ c ∈ (element name inside ++ rest).head?, c = '<' := by
  simp [element, Written.opened]

theorem ends_items (items : List Item) (ends : ∀ c ∈ rest.head?, c = '<') :
    ∀ c ∈ (items.flatMap Item.written ++ rest).head?, c = '<' := by
  cases items with
  | nil => exact ends
  | cons item items =>
    rw [List.flatMap_cons, Item.written, List.append_assoc, List.append_assoc]
    exact ends_element _ _

theorem ends_parts {Part : Type} (parts : List (Part × Gap)) (part : String)
    (inside : Part → List Char) (ends : ∀ c ∈ rest.head?, c = '<') :
    ∀ c ∈ (parts.flatMap (fun each => element part (inside each.1) ++ Gap.written each.2) ++
      rest).head?, c = '<' := by
  cases parts with
  | nil => exact ends
  | cons each parts =>
    rw [List.flatMap_cons, List.append_assoc, List.append_assoc]
    exact ends_element _ _

theorem dispatch_entry {draft : Draft} {field : Field} (value : String)
    (awaited : document.awaiting = some field) (outer : document.inIndex = false)
    (drafted : document.draft = some draft) : document.dispatch value =
      ({ document with awaiting := none, draft := some (fill draft field value).1 },
        (fill draft field value).2) := by
  unfold dispatch
  rw [awaited, outer, drafted]
  cases field <;> simp only

theorem flush_entry {draft : Draft} {field : Field} (content : Content)
    (clear : document.gathered = []) (outer : document.inIndex = false)
    (drafted : document.draft = some draft) :
    (gather { document with awaiting := some field } (Content.meant content)).flush =
      ({ document with
        awaiting := (Content.value? content).elim (some field) (fun _ => none)
        draft := some (filled draft field (Content.value? content)).1 },
        (filled draft field (Content.value? content)).2) := by
  obtain ⟨reader, location, scope, inIndex, awaiting, found, gathered, emitted, out, children⟩ :=
    document
  cases clear
  cases outer
  cases drafted
  have said : text (gather ⟨reader, location, scope, false, some field, some draft, [], emitted,
      out, children⟩ (Content.meant content)) = Content.meant content := by
    simp [text, gather]
  unfold flush Content.value?
  simp only [said]
  cases (Text.trimChars (Content.meant content)).isEmpty with
  | true => rfl
  | false =>
    simp only [Bool.false_eq_true, if_false, filled, Option.elim]
    rw [dispatch_entry _ rfl rfl rfl]
    rfl

theorem flush_index (content : Content) (clear : document.gathered = [])
    (inner : document.inIndex = true) :
    (gather { document with awaiting := some .loc } (Content.meant content)).flush =
      ({ document with
        awaiting := (Content.value? content).elim (some .loc) (fun _ => none)
        children := document.children + (Content.value? content).toList.length },
        (Content.value? content).toList.map .child) := by
  obtain ⟨reader, location, scope, inIndex, awaiting, found, gathered, emitted, out, children⟩ :=
    document
  cases clear
  cases inner
  have said : text (gather ⟨reader, location, scope, true, some .loc, found, [], emitted, out,
      children⟩ (Content.meant content)) = Content.meant content := by
    simp [text, gather]
  unfold flush Content.value?
  simp only [said]
  cases (Text.trimChars (Content.meant content)).isEmpty with
  | true => rfl
  | false => cases found <;> rfl

variable (document opened rest)

theorem leads_gap (gap : Gap) (unawaited : document.awaiting = none)
    (ends : ∀ c ∈ rest.head?, c = '<') :
    (document.before opened (Gap.written gap ++ rest)).Leads [] (document.before opened rest) := by
  have written : Gap.written gap = Content.written (gap.map Filler.fragment) := by
    unfold Gap.written Content.written
    rw [List.flatMap_map]
    congr
    funext filler
    cases filler <;> rfl
  have content := document.leads_content opened rest [] (gap.map Filler.fragment) ends
  rw [← written, List.flatMap_nil, List.nil_append] at content
  have dropped := leads_alike ((document.gather (Content.meant (gap.map Filler.fragment))).before
    opened rest) document.gathered (.inl unawaited)
  exact content.quiet dropped

theorem leads_start (name : String) (tag : Tag) (inside : List Char)
    (plain : Xml.Plain name.toList) (named : Tag.ofName (bytesOf name.toList) = tag)
    (clear : document.gathered = []) :
    (document.before opened (element name inside ++ rest)).Leads []
      ((document.start tag).before (bytesOf name.toList :: opened)
        (inside ++ ("</".toList ++ name.toList ++ ">".toList ++ rest))) := by
  have start := document.leads_opening opened
    (inside ++ ("</".toList ++ name.toList ++ ">".toList ++ rest)) plain
  rw [flush_clear clear, named] at start
  rw [element_eq]
  exact start

theorem leads_stop (name : String) (tag : Tag) (plain : Xml.Plain name.toList)
    (named : Tag.ofName (bytesOf name.toList) = tag) (clear : document.gathered = []) :
    (document.before (bytesOf name.toList :: opened)
      ("</".toList ++ name.toList ++ ">".toList ++ rest)).Leads (document.stop tag).2
      ((document.stop tag).1.before opened rest) := by
  have stop := document.leads_closing opened rest plain
  rw [flush_clear clear, named, List.nil_append] at stop
  exact stop

theorem leads_field (field : Field) (content : Content) (clear : document.gathered = []) :
    (document.before opened (element (fieldName field) (Content.written content) ++ rest)).Leads
      (gather { document with awaiting := some field } (Content.meant content)).flush.2
      (before { (gather { document with awaiting := some field }
        (Content.meant content)).flush.1 with awaiting := none } opened rest) := by
  have start := document.leads_start opened rest (fieldName field) (.field field)
    (Content.written content) (fieldName_plain field) (fieldName_tag field) clear
  have inner := (document.start (.field field)).leads_content
    (bytesOf (fieldName field).toList :: opened)
    ("</".toList ++ (fieldName field).toList ++ ">".toList ++ rest) [] content (by simp)
  rw [List.flatMap_nil, List.map_nil, List.nil_append, List.nil_append] at inner
  have stop := ((document.start (.field field)).gather (Content.meant content)).leads_closing
    opened rest (fieldName_plain field)
  rw [fieldName_tag, Document.stop, List.append_nil] at stop
  exact start.quiet (inner.quiet stop)

end Elements

/-- A document between elements, where no one awaits text and no entry is open. -/
structure Idle (document : Document) : Prop where
  unawaited : document.awaiting = none
  clear : document.gathered = []
  undrafted : document.draft = none

section Drafts

def fillItem (draft : Draft) (item : Item) : Draft :=
  (filled draft item.field (Content.value? item.content)).1

variable {α : Type} (part : Draft → Option α) (take : String → Option α) (field : Field)

theorem part_items
    (own : ∀ draft value, part (fill draft field value).1 = (take value).or (part draft))
    (others : ∀ draft other value, other ≠ field → part (fill draft other value).1 = part draft)
    (items : List Item) (distinct : (items.map Item.field).Nodup) (draft : Draft) :
    part (items.foldl fillItem draft) =
      (((items.find? (·.field == field)).bind (·.content.value?)).bind take).or (part draft) := by
  induction items generalizing draft with
  | nil => rfl
  | cons item items ih =>
    rw [List.map_cons, List.nodup_cons] at distinct
    rw [List.foldl_cons, ih distinct.2]
    by_cases same : item.field = field
    · have absent : items.find? (·.field == field) = none := by
        rw [List.find?_eq_none]
        intro other member
        rw [beq_iff_eq]
        intro also
        exact distinct.1 (List.mem_map.mpr ⟨other, member, also.trans same.symm⟩)
      rw [absent, List.find?_cons_of_pos (by simp [same])]
      simp only [fillItem, same, Option.bind_none, Option.bind_some]
      cases Content.value? item.content with
      | none => rfl
      | some value => exact own draft value
    · rw [List.find?_cons_of_neg (by simp [same])]
      have kept : part (fillItem draft item) = part draft := by
        unfold fillItem
        cases Content.value? item.content with
        | none => rfl
        | some value => exact others draft item.field value same
      rw [kept]

theorem fill_draft (draft : Draft) (field : Field) (value : String) : (fill draft field value).1 =
    { reference := if field = .loc then some value else draft.reference
      lastModified :=
        if field = .lastMod then (parseLastMod value).or draft.lastModified else draft.lastModified
      changeFrequency := if field = .changeFreq then some value else draft.changeFrequency
      priority :=
        if field = .priority then (Number.single? value).or draft.priority
        else draft.priority } := by
  cases field with
  | lastMod =>
    simp only [fill]
    cases parseLastMod value <;> rfl
  | priority =>
    simp only [fill]
    cases Number.single? value <;> rfl
  | _ => rfl

theorem value?_present {content : Content} {value : String}
    (meant : Content.value? content = some value) : value ≠ "" := by
  unfold Content.value? at meant
  split at meant
  · cases meant
  · rename_i present
    cases meant
    cases shown : Text.trimChars (Content.meant content) with
    | nil => exact absurd (shown ▸ rfl) present
    | cons c text => simp

theorem finish_items (record : Record) :
    (record.items.foldl fillItem {}).finish = record.entry? := by
  have parts := fun {α} (part : Draft → Option α) take field own others =>
    part_items part take field own others record.items record.distinct {}
  have reference := parts Draft.reference some .loc (by simp [fill_draft])
    (by simp +contextual [fill_draft])
  have lastModified := parts Draft.lastModified parseLastMod .lastMod (by simp [fill_draft])
    (by simp +contextual [fill_draft])
  have changeFrequency := parts Draft.changeFrequency some .changeFreq (by simp [fill_draft])
    (by simp +contextual [fill_draft])
  have priority := parts Draft.priority Number.single? .priority (by simp [fill_draft])
    (by simp +contextual [fill_draft])
  unfold Draft.finish Record.entry?
  rw [reference, lastModified, changeFrequency, priority]
  change (((record.value? .loc).bind some).or none).bind _ = _
  cases meant : record.value? .loc with
  | none => rfl
  | some value =>
    obtain ⟨item, -, content⟩ := Option.bind_eq_some_iff.mp meant
    simp [value?_present content, Record.value?]

end Drafts

section Pages

variable (document : Document) (opened : List Xml.Name) (rest : List Char)

theorem handedOn_filled (draft : Draft) (field : Field) (value : Option String) :
    handedOn (filled draft field value).2 = [] := by
  cases value with
  | none => rfl
  | some value =>
    cases field with
    | lastMod =>
      simp only [filled, fill]
      cases parseLastMod value <;> rfl
    | priority =>
      simp only [filled, fill]
      cases Number.single? value <;> rfl
    | _ => rfl

theorem leads_item {draft : Draft} (item : Item) (unawaited : document.awaiting = none)
    (clear : document.gathered = []) (outer : document.inIndex = false)
    (drafted : document.draft = some draft) (ends : ∀ c ∈ rest.head?, c = '<') :
    (document.before opened (item.written ++ rest)).Leads
      (filled draft item.field (Content.value? item.content)).2
      (before { document with draft := some (fillItem draft item) } opened rest) := by
  have field := document.leads_field opened (Gap.written item.gap ++ rest) item.field item.content
    clear
  rw [flush_entry item.content clear outer drafted] at field
  have gap := leads_gap { document with draft := some (fillItem draft item) } opened rest item.gap
    unawaited ends
  have same : { document with
      awaiting := none
      draft := some (filled draft item.field (Content.value? item.content)).1 } =
        { document with draft := some (fillItem draft item) } := by
    rw [← unawaited]
    rfl
  simp only at field
  rw [same] at field
  have both := field.trans gap
  rw [List.append_nil, ← List.append_assoc] at both
  exact both

theorem leads_items {draft : Draft} (items : List Item) (unawaited : document.awaiting = none)
    (clear : document.gathered = []) (outer : document.inIndex = false)
    (drafted : document.draft = some draft) (ends : ∀ c ∈ rest.head?, c = '<') :
    ∃ findings, handedOn findings = [] ∧
      (document.before opened (items.flatMap Item.written ++ rest)).Leads findings
        (before { document with draft := some (items.foldl fillItem draft) } opened rest) := by
  induction items generalizing document draft with
  | nil =>
    refine ⟨[], rfl, ?_⟩
    rw [List.foldl_nil, ← drafted]
    exact Leads.refl _
  | cons item items ih =>
    have first := document.leads_item opened _ item unawaited clear outer drafted
      (ends_items items ends)
    obtain ⟨findings, none, others⟩ :=
      ih { document with draft := some (fillItem draft item) } unawaited clear outer rfl
    refine ⟨(filled draft item.field (Content.value? item.content)).2 ++ findings, ?_, ?_⟩
    · rw [handedOn_append, handedOn_filled, none, List.nil_append]
    · rw [List.flatMap_cons, List.append_assoc]
      exact first.trans others

def page (document : Document) : Option Entry → Document × List Finding
  | none => (document, [])
  | some entry =>
    if document.scope.passes entry.reference document.location then
      ({ document with emitted := document.emitted + 1 }, [.entry entry])
    else ({ document with outOfScope := document.outOfScope + 1 }, [.outOfScope entry.reference])

theorem closeEntry_drafted (undrafted : document.draft = none) (draft : Draft) :
    closeEntry { document with draft := some draft } = document.page draft.finish := by
  obtain ⟨reader, location, scope, inIndex, awaiting, found, gathered, emitted, out, children⟩ :=
    document
  cases undrafted
  unfold closeEntry
  simp only [Option.bind]
  cases draft.finish with
  | none => rfl
  | some entry => rfl

theorem leads_record (record : Record) (idle : document.Idle) (outer : document.inIndex = false) :
    ∃ findings, handedOn findings = [] ∧
      (document.before opened (element "url" record.written ++ rest)).Leads
        (findings ++ (document.page record.entry?).2)
        (before (document.page record.entry?).1 opened rest) := by
  have start := document.leads_start opened rest "url" .url record.written (by decide) (by decide)
    idle.clear
  have written : record.written ++ ("</".toList ++ "url".toList ++ ">".toList ++ rest) =
      Gap.written record.gap ++ (record.items.flatMap Item.written ++
        ("</".toList ++ "url".toList ++ ">".toList ++ rest)) := by
    rw [Record.written, List.append_assoc]
  rw [written] at start
  have gap := (document.start .url).leads_gap (bytesOf "url".toList :: opened)
    (record.items.flatMap Item.written ++ ("</".toList ++ "url".toList ++ ">".toList ++ rest))
    record.gap idle.unawaited (ends_items record.items (by simp))
  obtain ⟨findings, none, items⟩ := (document.start .url).leads_items
    (bytesOf "url".toList :: opened) ("</".toList ++ "url".toList ++ ">".toList ++ rest)
    record.items idle.unawaited idle.clear outer rfl (by simp)
  have stop := leads_stop { document with draft := some (record.items.foldl fillItem {}) } opened
    rest "url" .url (by decide) (by decide) idle.clear
  rw [Document.stop, closeEntry_drafted document idle.undrafted, finish_items] at stop
  exact ⟨findings, none, start.quiet (gap.quiet (items.trans stop))⟩

/-- The entries that a document at `location` may vouch for. -/
def vouched (location : String) (scope : Scope) (entries : List Entry) : List Entry :=
  entries.filter (scope.passes ·.reference location)

/-- The entries that it may not. -/
def strayed (location : String) (scope : Scope) (entries : List Entry) : List Entry :=
  entries.filter (!scope.passes ·.reference location)

def tally (document : Document) (entries : List Entry) : Document :=
  { document with
    emitted := document.emitted + (vouched document.location document.scope entries).length
    outOfScope := document.outOfScope + (strayed document.location document.scope entries).length }

theorem tally_append (document : Document) (first second : List Entry) :
    (document.tally first).tally second = document.tally (first ++ second) := by
  simp [tally, vouched, strayed, Nat.add_assoc]

theorem Idle.tally {document : Document} (idle : document.Idle) (entries : List Entry) :
    (document.tally entries).Idle :=
  ⟨idle.unawaited, idle.clear, idle.undrafted⟩

theorem page_tally (document : Document) (entry : Option Entry) :
    (document.page entry).1 = document.tally entry.toList ∧
      handedOn (document.page entry).2 =
        (vouched document.location document.scope entry.toList).map .entry := by
  cases entry with
  | none => exact ⟨rfl, rfl⟩
  | some entry =>
    cases passes : document.scope.passes entry.reference document.location <;>
      simp [page, Document.tally, vouched, strayed, passes, handedOn, Finding.handsOn]

theorem leads_pages (parts : List (Record × Gap)) (idle : document.Idle)
    (outer : document.inIndex = false) (ends : ∀ c ∈ rest.head?, c = '<') :
    ∃ findings, handedOn findings = (vouched document.location document.scope
        (parts.filterMap fun each => Record.entry? each.1)).map .entry ∧
      (document.before opened (parts.flatMap (fun each =>
          element "url" each.1.written ++ Gap.written each.2) ++ rest)).Leads findings
        ((document.tally (parts.filterMap fun each => Record.entry? each.1)).before opened
          rest) := by
  induction parts generalizing document with
  | nil => exact ⟨[], rfl, Leads.refl _⟩
  | cons each parts ih =>
    obtain ⟨record, gap⟩ := each
    have further := ends_parts parts "url" Record.written ends
    obtain ⟨told, none, first⟩ := document.leads_record opened (Gap.written gap ++
      (parts.flatMap (fun each => element "url" each.1.written ++ Gap.written each.2) ++ rest))
      record idle outer
    obtain ⟨counted, handed⟩ := document.page_tally record.entry?
    rw [counted] at first
    have between := (document.tally record.entry?.toList).leads_gap opened _ gap idle.unawaited
      further
    obtain ⟨findings, rest_handed, others⟩ := ih _ (idle.tally record.entry?.toList) outer
    have entries : ((record, gap) :: parts).filterMap (fun each => Record.entry? each.1) =
        record.entry?.toList ++ parts.filterMap (fun each => Record.entry? each.1) := by
      cases entry : record.entry? <;> simp [entry]
    rw [tally_append, ← entries] at others
    refine ⟨told ++ (document.page record.entry?).2 ++ findings, ?_, ?_⟩
    · rw [handedOn_append, handedOn_append, none, handed, rest_handed, entries]
      simp [vouched, Document.tally]
    · rw [List.flatMap_cons, List.append_assoc, List.append_assoc]
      exact first.trans (between.quiet others)

end Pages

section Children

variable (document : Document) (opened : List Xml.Name) (rest : List Char)

theorem leads_loc (content : Content) (idle : document.Idle) (inner : document.inIndex = true) :
    (document.before opened (element "loc" (Content.written content) ++ rest)).Leads
      ((Content.value? content).toList.map .child)
      (before { document with
        children := document.children + (Content.value? content).toList.length } opened rest) := by
  have field := document.leads_field opened rest .loc content idle.clear
  rw [flush_index content idle.clear inner] at field
  have same : { document with
      awaiting := none
      children := document.children + (Content.value? content).toList.length } =
        { document with
          children := document.children + (Content.value? content).toList.length } := by
    rw [← idle.unawaited]
  simp only at field
  rw [same] at field
  exact field

theorem leads_child (child : Child) (idle : document.Idle) (outer : document.inIndex = false) :
    (document.before opened (element "sitemap" child.written ++ rest)).Leads
      ((Content.value? child.content).toList.map .child)
      (before { document with
        children := document.children + (Content.value? child.content).toList.length }
        opened rest) := by
  let inner : Document := { document with inIndex := true }
  let counted : Document := { document with
    inIndex := true, children := document.children + (Content.value? child.content).toList.length }
  let within := bytesOf "sitemap".toList :: opened
  let finish := "</".toList ++ "sitemap".toList ++ ">".toList ++ rest
  have start := document.leads_start opened rest "sitemap" .sitemap child.written (by decide)
    (by decide) idle.clear
  have written : child.written ++ finish = Gap.written child.gap ++
      (element "loc" (Content.written child.content) ++ (Gap.written child.after ++ finish)) := by
    rw [Child.written, List.append_assoc, List.append_assoc]
  rw [written] at start
  have lead := inner.leads_gap within
    (element "loc" (Content.written child.content) ++ (Gap.written child.after ++ finish))
    child.gap idle.unawaited (ends_element _ _)
  have loc := inner.leads_loc within (Gap.written child.after ++ finish) child.content
    ⟨idle.unawaited, idle.clear, idle.undrafted⟩ rfl
  have trail := counted.leads_gap within finish child.after idle.unawaited (by simp [finish])
  have stop := counted.leads_stop opened rest "sitemap" .sitemap (by decide) (by decide) idle.clear
  have same : { counted with inIndex := false } = { document with
      children := document.children + (Content.value? child.content).toList.length } := by
    rw [← outer]
  rw [Document.stop, same] at stop
  have whole := loc.trans (trail.quiet stop)
  rw [List.append_nil] at whole
  exact start.quiet (lead.quiet whole)

theorem leads_children (parts : List (Child × Gap)) (idle : document.Idle)
    (outer : document.inIndex = false) (ends : ∀ c ∈ rest.head?, c = '<') :
    (document.before opened (parts.flatMap (fun each =>
        element "sitemap" each.1.written ++ Gap.written each.2) ++ rest)).Leads
      ((parts.filterMap (·.1.content.value?)).map .child)
      (before { document with
        children := document.children + (parts.filterMap (·.1.content.value?)).length }
        opened rest) := by
  induction parts generalizing document with
  | nil => exact Leads.refl _
  | cons each parts ih =>
    obtain ⟨child, gap⟩ := each
    let counted : Document := { document with
      children := document.children + (Content.value? child.content).toList.length }
    have further := ends_parts parts "sitemap" Child.written ends
    have first := document.leads_child opened (Gap.written gap ++ (parts.flatMap
      (fun each => element "sitemap" each.1.written ++ Gap.written each.2) ++ rest)) child idle
      outer
    have between := counted.leads_gap opened _ gap idle.unawaited further
    have others := ih counted ⟨idle.unawaited, idle.clear, idle.undrafted⟩ outer
    have children : ((child, gap) :: parts).filterMap (·.1.content.value?) =
        (Content.value? child.content).toList ++ parts.filterMap (·.1.content.value?) := by
      cases value : Content.value? child.content <;> simp [value]
    have whole := first.trans (between.quiet others)
    rw [children, List.length_append, ← Nat.add_assoc, List.map_append, List.flatMap_cons,
      List.append_assoc, List.append_assoc]
    exact whole

end Children

section Sheets

variable {Part : Type} {location : String} {scope : Scope}

def fresh (location : String) (scope : Scope) : Document :=
  { reader := ⟨[], none, []⟩, location := location, scope := scope }

theorem ofBytes_written (gap : Gap) (rest : List Char) :
    ofBytes location scope (bytesOf (Gap.written gap ++ ("<".toList ++ rest))) none =
      (fresh location scope).before [] (Gap.written gap ++ ("<".toList ++ rest)) := by
  have first : ∃ c text, Gap.written gap ++ ("<".toList ++ rest) = c :: text ∧ c.toNat < 0x80 := by
    cases gap with
    | nil => exact ⟨'<', rest, rfl, by decide⟩
    | cons filler gap =>
      cases filler with
      | blank c space =>
        refine ⟨c, Gap.written gap ++ ("<".toList ++ rest), rfl, ?_⟩
        have ascii : ∀ c ∈ [' ', '\t', '\r', '\n'], c.toNat < 0x80 := by simp
        exact ascii c space
      | aside skipped =>
        cases skipped <;> exact ⟨'<', _, rfl, by decide⟩
  obtain ⟨c, text, same, ascii⟩ := first
  have unmarked : (bytesOf (c :: text)).take 3 ≠ Xml.byteOrderMark := by
    rw [bytesOf_cons, encodeChar_ascii ascii]
    intro marked
    have byte := congrArg UInt8.toNat (List.cons.inj marked).1
    rw [toNat_ascii ascii] at byte
    exact absurd (byte ▸ ascii) (by decide)
  rw [same]
  simp [ofBytes, Xml.Reader.ofBytes, unmarked, fresh, before]

theorem parseFrom_end {document : Document} (idle : document.Idle) (found : List Finding) :
    (document.before [] []).parseFrom found none =
      ⟨found.reverse, .ok (document.summary .completed)⟩ := by
  have ended : (document.before [] []).next = .finished (document.before [] []) [] := by
    have finished : (document.before [] []).reader.next = .ok none := rfl
    have clear : (document.before [] []).gathered = [] := idle.clear
    rw [next_finished finished, flush_clear clear]
  rw [parseFrom_finished found ended]
  rfl

theorem parse_sheet (sheet : Sheet Part) (root part : String) (inside : Part → List Char)
    {findings : List Finding} {after : Document} (plain : Xml.Plain root.toList)
    (named : Tag.ofName (bytesOf root.toList) = .other) (idle : after.Idle)
    (body : ((fresh location scope).before [bytesOf root.toList] (sheet.body part inside ++
        ("</".toList ++ root.toList ++ ">".toList ++ Gap.written sheet.epilogue))).Leads findings
      (after.before [bytesOf root.toList]
        ("</".toList ++ root.toList ++ ">".toList ++ Gap.written sheet.epilogue))) :
    parse location scope (encode (String.ofList (sheet.written root part inside))) none none =
      ⟨findings, .ok (after.summary .completed)⟩ := by
  let closing := "</".toList ++ root.toList ++ ">".toList ++ Gap.written sheet.epilogue
  let inner := Gap.written sheet.lead ++ (sheet.body part inside ++ closing)
  have written : sheet.written root part inside = Gap.written sheet.prologue ++
      ("<".toList ++ (root.toList ++ sheet.declared ++ ">".toList ++ inner)) := by
    simp [Sheet.written, inner, closing, closed]
  have prologue := (fresh location scope).leads_gap []
    ("<".toList ++ (root.toList ++ sheet.declared ++ ">".toList ++ inner)) sheet.prologue rfl
    (by simp)
  have start : ((fresh location scope).before []
      ("<".toList ++ (root.toList ++ sheet.declared ++ ">".toList ++ inner))).Leads []
      ((fresh location scope).before [bytesOf root.toList] inner) := by
    cases declared : sheet.space with
    | none =>
      have opening := (fresh location scope).leads_opening [] inner plain
      rw [flush_clear rfl, named] at opening
      simpa [Sheet.declared, declared, Document.start] using opening
    | some space =>
      have opening := (fresh location scope).leads_declared [] inner plain
        (sheet.unquoted space declared)
      rw [flush_clear rfl, named] at opening
      simpa [Sheet.declared, declared, Document.start] using opening
  have lead := (fresh location scope).leads_gap [bytesOf root.toList]
    (sheet.body part inside ++ closing) sheet.lead rfl
    (ends_parts sheet.parts part inside (by simp [closing]))
  have stop := after.leads_stop [] (Gap.written sheet.epilogue) root .other plain named idle.clear
  have epilogue := after.leads_gap [] [] sheet.epilogue idle.unawaited (by simp)
  rw [List.append_nil] at epilogue
  have whole := prologue.quiet (start.quiet (lead.quiet (body.trans (stop.quiet epilogue))))
  unfold parse
  rw [encode_ofList, written, ofBytes_written, whole [], parseFrom_end idle]
  simp

end Sheets

end Document

/-- A sitemap that was written is read back: a page for each record that names one in scope, a child
for each location of an index, in order, and nothing else. -/
theorem parse_written (location : String) (scope : Scope) :
    (∀ pages : UrlSet,
      handedOn (parse location scope pages.bytes none none).findings =
          (Document.vouched location scope pages.entries).map .entry ∧
        (parse location scope pages.bytes none none).result = .ok
          ⟨.completed, (Document.vouched location scope pages.entries).length,
            (Document.strayed location scope pages.entries).length, 0⟩) ∧
    (∀ index : Index,
      handedOn (parse location scope index.bytes none none).findings =
          index.children.map .child ∧
        (parse location scope index.bytes none none).result =
          .ok ⟨.completed, 0, 0, index.children.length⟩) := by
  constructor
  · intro pages
    obtain ⟨findings, handed, body⟩ := (Document.fresh location scope).leads_pages
      [bytesOf "urlset".toList]
      ("</".toList ++ "urlset".toList ++ ">".toList ++ Gap.written pages.epilogue) pages.parts
      ⟨rfl, rfl, rfl⟩ rfl (by simp)
    have parsed := Document.parse_sheet pages "urlset" "url" Record.written (by decide) (by decide)
      (Document.Idle.tally ⟨rfl, rfl, rfl⟩ _) body
    rw [UrlSet.bytes, parsed]
    refine ⟨handed, ?_⟩
    simp [Document.summary, Document.tally, Document.fresh, UrlSet.entries]
  · intro index
    have body := (Document.fresh location scope).leads_children [bytesOf "sitemapindex".toList]
      ("</".toList ++ "sitemapindex".toList ++ ">".toList ++ Gap.written index.epilogue)
      index.parts ⟨rfl, rfl, rfl⟩ rfl (by simp)
    have parsed := Document.parse_sheet index "sitemapindex" "sitemap" Child.written (by decide)
      (by decide) ⟨rfl, rfl, rfl⟩ body
    rw [Index.bytes, parsed]
    refine ⟨?_, ?_⟩
    · refine List.filter_eq_self.mpr fun finding member => ?_
      obtain ⟨child, -, rfl⟩ := List.mem_map.mp member
      rfl
    · simp [Document.summary, Document.fresh, Index.children]

end Sitemaps.Sitemap
