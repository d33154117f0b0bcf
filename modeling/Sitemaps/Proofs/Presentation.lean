import Sitemaps.Proofs.Sources

/-!
Two ways to write the same document. Elements without content may have an end tag or none, names may
change in case and prefix, and attributes, comments, instructions and white space around tags may
come and go; what the document announces stays the same.
-/

namespace Sitemaps

namespace Xml

open Sitemap (Tag)
open Sitemap.Document
open Text.Utf8 (bytesOf)

section Names

/-- A change of a name in the case of its letters or in its prefix. -/
inductive Renames : Name → Name → Prop
  | letters {name other : Name} (same : name.map Text.lowerByte = other.map Text.lowerByte) :
      Renames name other
  | prefixed {before after : List UInt8} (name : Name) (plain : 0x3A ∉ before)
      (plainAfter : 0x3A ∉ after) : Renames (before ++ 0x3A :: name) (after ++ 0x3A :: name)
  | unprefixed {before name : List UInt8} (plain : 0x3A ∉ before) (bare : 0x3A ∉ name) :
      Renames (before ++ 0x3A :: name) name

variable {before : List UInt8} {name other : Name}

theorem localName_prefixed (plain : 0x3A ∉ before) (name : Name) :
    localName (before ++ 0x3A :: name) = name := by
  have passed : ∀ b ∈ before, (b != 0x3A) = true := fun b member =>
    bne_iff_ne.mpr fun same => plain (same ▸ member)
  unfold localName
  rw [List.dropWhile_append_of_pos passed, List.dropWhile_cons_of_neg (by simp)]

theorem localName_bare (bare : 0x3A ∉ name) : localName name = name := by
  have passed : ∀ b ∈ name, (b != 0x3A) = true := fun b member =>
    bne_iff_ne.mpr fun same => bare (same ▸ member)
  have left : (name ++ []).dropWhile (· != 0x3A) = [] := List.dropWhile_append_of_pos passed
  rw [List.append_nil] at left
  unfold localName
  rw [left]

theorem lowerByte_colon (b : UInt8) : (Text.lowerByte b != 0x3A) = (b != 0x3A) := by
  have letter : (Text.lowerByte b = 0x3A) ↔ b = 0x3A := by
    unfold Text.lowerByte
    split
    · rename_i upper
      grind
    · rfl
  rw [Bool.eq_iff_iff, bne_iff_ne, bne_iff_ne, ne_eq, ne_eq, letter]

theorem localName_lower (name : Name) :
    localName (name.map Text.lowerByte) = (localName name).map Text.lowerByte := by
  have same : (name.map Text.lowerByte).dropWhile (· != 0x3A) =
      (name.dropWhile (· != 0x3A)).map Text.lowerByte := by
    rw [List.dropWhile_map]
    congr 2
    funext b
    exact lowerByte_colon b
  unfold localName
  rw [same]
  cases name.dropWhile (· != 0x3A) <;> rfl

theorem Renames.tag (renames : Renames name other) : Tag.ofName name = Tag.ofName other := by
  have same : (localName name).map Text.lowerByte = (localName other).map Text.lowerByte := by
    cases renames with
    | letters same => rw [← localName_lower, same, localName_lower]
    | prefixed name plain plainAfter =>
      rw [localName_prefixed plain, localName_prefixed plainAfter]
    | unprefixed plain bare => rw [localName_prefixed plain, localName_bare bare]
  unfold Tag.ofName
  rw [same]

end Names

section Attributes

/-- An attribute with the white space before it; its value is quoted. -/
structure Attribute where
  space : UInt8
  label : List UInt8
  mark : UInt8
  value : List UInt8
  white : isSpace space = true
  bare : ∀ b ∈ label, b ≠ 0x22 ∧ b ≠ 0x27 ∧ b ≠ 0x3E
  quotes : mark = 0x22 ∨ mark = 0x27
  unmarked : mark ∉ value

def Attribute.bytes (added : Attribute) : List UInt8 :=
  added.space :: added.label ++ 0x3D :: (added.mark :: added.value ++
    [added.mark])

theorem Attribute.paired (added : Attribute) : Paired added.bytes := by
  have space : Paired [added.space] := by
    apply paired_bare
    intro b member
    rw [List.mem_singleton.mp member]
    have white := added.white
    exact ⟨white_other white rfl, white_other white rfl, white_other white rfl⟩
  have label : Paired added.label := paired_bare added.bare
  have equals : Paired [0x3D] := by decide
  have value := paired_quoted added.quotes added.unmarked
  have whole := ((space.append label).append equals).append value
  simpa [bytes] using whole

theorem Attribute.last (added : Attribute) (before : List UInt8) :
    (before ++ added.bytes).getLast? ≠ some 0x2F := by
  have ends : before ++ added.bytes = before ++ added.space :: added.label ++
      0x3D :: added.mark :: added.value ++ [added.mark] := by simp [bytes]
  rw [ends, List.getLast?_concat]
  rcases added.quotes with quote | quote <;> rw [quote] <;> decide

variable {name before after : List UInt8}

theorem Labels.attributed (labels : Labels name (before ++ after))
    (outside : Paired (name ++ before)) (added : Attribute) :
    Labels name (before ++ added.bytes ++ after) where
  unspaced := labels.unspaced
  spaced := by
    intro b front
    cases before with
    | nil =>
      cases front
      exact added.white
    | cons c before => exact labels.spaced b front
  paired := by
    have whole := labels.paired
    rw [← List.append_assoc] at whole
    have kept := (outside.append added.paired).append (whole.right outside)
    simpa using kept
  plain := labels.plain

theorem Stands.attributed (stands : Stands name (before ++ after))
    (outside : Paired (name ++ before)) (added : Attribute) :
    Stands name (before ++ added.bytes ++ after) where
  toLabels := stands.toLabels.attributed outside added
  filled := by simp [Attribute.bytes]

theorem Opens.attributed (opens : Opens name (before ++ after))
    (outside : Paired (name ++ before)) (added : Attribute) :
    Opens name (before ++ added.bytes ++ after) where
  toLabels := opens.toLabels.attributed outside added
  unslashed := by
    cases after with
    | nil =>
      rw [List.append_nil, ← List.append_assoc]
      exact added.last _
    | cons c after =>
      have unslashed := opens.unslashed
      rw [← List.append_assoc, List.getLast?_append] at unslashed ⊢
      simpa [List.getLast?_cons] using unslashed

end Attributes

theorem aside_spells (skipped : Sitemap.Written.Aside) :
    Token.aside.SpelledBy (bytesOf skipped.written) := by
  intro rest
  have alone : Token.next none (bytesOf skipped.written) = .ok (some (.aside, [])) := by
    have read : Token.next none (bytesOf (skipped.written ++ [])) =
      .ok (some (.aside, bytesOf [])) := next_aside skipped
    rwa [List.append_nil] at read
  rcases Token.next_append none rest alone with ⟨content, text, -⟩ | longer
  · cases text
  · exact longer

namespace Source

def startsWithTag : Source → Bool
  | single .. | element .. => true
  | _ => false

/-- One change of how a document is written. Each side is the text of a tree, so that the tags of
both are tags. -/
inductive Edit : Source → Source → Prop
  | expand {name trailing space : List UInt8} (stands : Stands name trailing)
      (opens : Opens name trailing) (closes : Closes name space) (rest : Source) :
      Edit (.single name trailing stands rest)
        (.element name trailing space opens closes .done rest)
  | renameSingle {name other trailing : List UInt8} (renames : Renames name other)
      (stands : Stands name trailing) (standsOther : Stands other trailing) (rest : Source) :
      Edit (.single name trailing stands rest) (.single other trailing standsOther rest)
  | rename {name other trailing space : List UInt8} (renames : Renames name other)
      (opens : Opens name trailing) (opensOther : Opens other trailing)
      (closes : Closes name space) (closesOther : Closes other space) (inner rest : Source) :
      Edit (.element name trailing space opens closes inner rest)
        (.element other trailing space opensOther closesOther inner rest)
  | attributedSingle {name before after : List UInt8} (stands : Stands name (before ++ after))
      (outside : Paired (name ++ before)) (added : Attribute) (rest : Source) :
      Edit (.single name (before ++ after) stands rest)
        (.single name (before ++ added.bytes ++ after) (stands.attributed outside added) rest)
  | attributed {name before after space : List UInt8} (opens : Opens name (before ++ after))
      (outside : Paired (name ++ before)) (added : Attribute) (closes : Closes name space)
      (inner rest : Source) :
      Edit (.element name (before ++ after) space opens closes inner rest)
        (.element name (before ++ added.bytes ++ after) space (opens.attributed outside added)
          closes inner rest)
  | aside (skipped : Sitemap.Written.Aside) (rest : Source) :
      Edit rest (.aside (bytesOf skipped.written) (aside_spells skipped) rest)
  | blankBefore (blank : Run) (white : ∀ c ∈ blank.text, Text.isBlank c = true)
      {tagged : Source} (starts : tagged.startsWithTag = true) :
      Edit tagged (.text blank tagged)
  | blankAfterSingle (blank : Run) (white : ∀ c ∈ blank.text, Text.isBlank c = true)
      {name trailing : List UInt8} (stands : Stands name trailing) (rest : Source) :
      Edit (.single name trailing stands rest) (.single name trailing stands (.text blank rest))
  | blankAfterStart (blank : Run) (white : ∀ c ∈ blank.text, Text.isBlank c = true)
      {name trailing space : List UInt8} (opens : Opens name trailing)
      (closes : Closes name space) (inner rest : Source) :
      Edit (.element name trailing space opens closes inner rest)
        (.element name trailing space opens closes (.text blank inner) rest)
  | blankBeforeEnd (blank : Run) (white : ∀ c ∈ blank.text, Text.isBlank c = true)
      {name trailing space : List UInt8} (opens : Opens name trailing)
      (closes : Closes name space) (inner rest : Source) :
      Edit (.element name trailing space opens closes inner rest)
        (.element name trailing space opens closes (inner.append (.text blank .done)) rest)
  | blankAfterEnd (blank : Run) (white : ∀ c ∈ blank.text, Text.isBlank c = true)
      {name trailing space : List UInt8} (opens : Opens name trailing)
      (closes : Closes name space) (inner rest : Source) :
      Edit (.element name trailing space opens closes inner rest)
        (.element name trailing space opens closes inner (.text blank rest))

/-- Any number of changes, anywhere in a document, made or undone. -/
inductive Restyled : Source → Source → Prop
  | edit {first second : Source} (edit : Edit first second) : Restyled first second
  | refl (source : Source) : Restyled source source
  | symm {first second : Source} (same : Restyled first second) : Restyled second first
  | trans {first second third : Source} (one : Restyled first second)
      (two : Restyled second third) : Restyled first third
  | text (run : Run) {first second : Source} (rest : Restyled first second) :
      Restyled (.text run first) (.text run second)
  | cdata {content markup : List UInt8} (spells : (Token.cdata content).SpelledBy markup)
      {first second : Source} (rest : Restyled first second) :
      Restyled (.cdata content markup spells first) (.cdata content markup spells second)
  | aside {markup : List UInt8} (spells : Token.aside.SpelledBy markup)
      {first second : Source} (rest : Restyled first second) :
      Restyled (.aside markup spells first) (.aside markup spells second)
  | single {name trailing : List UInt8} (stands : Stands name trailing)
      {first second : Source} (rest : Restyled first second) :
      Restyled (.single name trailing stands first) (.single name trailing stands second)
  | element {name trailing space : List UInt8} (opens : Opens name trailing)
      (closes : Closes name space) {inner innerOther first second : Source}
      (within : Restyled inner innerOther) (rest : Restyled first second) :
      Restyled (.element name trailing space opens closes inner first)
        (.element name trailing space opens closes innerOther second)

section Events

variable {first second : Source}

theorem Edit.interchange (edit : Edit first second) :
    Interchangeable first.content.events second.content.events := by
  cases edit with
  | expand stands opens closes rest => exact (interchange_single _).append (.refl _)
  | renameSingle renames stands standsOther rest =>
    obtain ⟨single, -, -⟩ := interchange_named renames.tag
    exact single.append (.refl _)
  | rename renames opens opensOther closes closesOther inner rest =>
    obtain ⟨-, opening, closing⟩ := interchange_named renames.tag
    exact opening.append ((Interchangeable.refl _).append (closing.append (.refl _)))
  | attributedSingle stands outside added rest => exact .refl _
  | attributed opens outside added closes inner rest => exact .refl _
  | aside skipped rest => exact interchange_aside.symm.append (.refl _)
  | blankBefore blank white starts =>
    cases first with
    | single name trailing stands rest =>
      exact (interchange_blank_before rfl white).symm.append (.refl _)
    | element name trailing space opens closes inner rest =>
      exact (interchange_blank_before rfl white).symm.append (.refl _)
    | _ => cases starts
  | blankAfterSingle blank white stands rest =>
    exact (interchange_blank_after rfl white).symm.append (.refl _)
  | blankAfterStart blank white opens closes inner rest =>
    exact (interchange_blank_after rfl white).symm.append (.refl _)
  | @blankBeforeEnd blank white name trailing space opens closes inner rest =>
    have ended : Interchangeable (.closing name :: rest.content.events)
        (.text blank.text :: .closing name :: rest.content.events) :=
      (interchange_blank_before rfl white).symm.append (.refl _)
    have whole := ((Interchangeable.refl inner.content.events).append ended).cons (.opening name)
    simpa [content, content_append, Content.events, Content.events_append] using whole
  | @blankAfterEnd blank white name trailing space opens closes inner rest =>
    have ended : Interchangeable (.closing name :: rest.content.events)
        (.closing name :: .text blank.text :: rest.content.events) :=
      (interchange_blank_after rfl white).symm.append (.refl _)
    exact ((Interchangeable.refl inner.content.events).append ended).cons (.opening name)

theorem Restyled.interchange (restyled : Restyled first second) :
    Interchangeable first.content.events second.content.events := by
  induction restyled with
  | edit edit => exact edit.interchange
  | refl source => exact .refl _
  | symm _ ih => exact ih.symm
  | trans _ _ one two => exact one.trans two
  | text run _ ih => exact ih.cons _
  | cdata spells _ ih => exact ih.cons _
  | aside spells _ ih => exact ih.cons _
  | single stands _ ih => exact ih.cons _
  | element opens closes _ _ within rest => exact (within.append (rest.cons _)).cons _

end Events

end Source

end Xml

namespace Sitemap

/-- A document that is read without a fault is the text of a tree, and however that is written, the
same is announced and counted. -/
theorem parse_restyled {location : String} {scope : Scope} {bytes : List UInt8} {summary : Summary}
    (ends : (parse location scope bytes none none).result = .ok summary) :
    (∃ source : Xml.Source, source.bytes = bytes) ∧
    ∀ source other : Xml.Source, source.bytes = bytes → source.Restyled other →
      parse location scope other.bytes none none = parse location scope bytes none none := by
  refine ⟨parse_ok_source ends, ?_⟩
  rintro source other rfl restyled
  let document := Document.ofBytes location scope [] none
  have told := restyled.interchange.told (.refl document)
  rw [parse_source, parse_source, told]

def located : Xml.Source :=
  .element (Text.asciiBytes "loc") [] [] (by decide) (by decide)
    (.text (.plain "http://a/p".toList (by decide) (by decide)) .done) .done

def plainEntries : Xml.Source :=
  .single (Text.asciiBytes "url") [] (by decide)
    (.element (Text.asciiBytes "url") [] [] (by decide) (by decide) located .done)

def styledEntries : Xml.Source :=
  .element (Text.asciiBytes "url") [] [] (by decide) (by decide) .done
    (.aside (Text.Utf8.bytesOf (Written.Aside.comment ['c'] (by decide)).written)
      (Xml.aside_spells _)
      (.element (Text.asciiBytes "s:URL") (Text.asciiBytes " k='v'") [] (by decide) (by decide)
        (.text (.plain ['\n'] (by decide) (by decide)) located) .done))

theorem plainEntries_restyled : plainEntries.Restyled styledEntries := by
  have capital : Xml.Opens (Text.asciiBytes "URL") [] := by decide
  have prefixed : Xml.Opens (Text.asciiBytes "s:URL") [] := by decide
  let added : Xml.Attribute := ⟨0x20, [0x6B], 0x27, [0x76], rfl, by simp, .inr rfl, by simp⟩
  have white : ∀ c ∈ ['\n'], Text.isBlank c = true := by simp [Text.isBlank]
  have letters : Xml.Renames (Text.asciiBytes "url") (Text.asciiBytes "URL") := .letters (by decide)
  have unprefixed : Xml.Renames (Text.asciiBytes "s:URL") (Text.asciiBytes "URL") :=
    @Xml.Renames.unprefixed [0x73] (Text.asciiBytes "URL") (by decide) (by decide)
  refine .trans (.edit (.expand _ (by decide) (by decide) _)) (.element _ _ (.refl _) ?_)
  refine .trans ?_ (.edit (.aside (.comment ['c'] (by decide)) _))
  refine .trans (.edit (.rename letters _ capital _ (by decide) _ _)) ?_
  refine .trans (.symm (.edit (.rename unprefixed prefixed capital (by decide) (by decide) _ _))) ?_
  refine .trans (.edit (@Xml.Source.Edit.attributed (Text.asciiBytes "s:URL") [] [] []
    prefixed (by decide) added (by decide) _ _)) ?_
  exact .edit (.blankAfterStart (.plain ['\n'] (by decide) (by decide)) white _ _ _ _)

theorem parse_restyled_entries :
    styledEntries.bytes = Text.asciiBytes ("<url></url><!--c--><s:URL k='v'>\n" ++
      "<loc>http://a/p</loc></s:URL>") ∧
    parse "http://a/s.xml" .strict styledEntries.bytes none none =
      parse "http://a/s.xml" .strict plainEntries.bytes none none := by
  constructor
  · decide +kernel
  · have ends := congrArg Parsed.result (parse_source "http://a/s.xml" .strict plainEntries)
    exact (parse_restyled ends).2 plainEntries styledEntries rfl plainEntries_restyled

end Sitemap

end Sitemaps
