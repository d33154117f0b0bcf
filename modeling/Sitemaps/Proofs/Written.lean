import Sitemaps.Sitemap.Document

/-!
Sitemap documents as they are written, apart from how they are read. What a piece of text says is
defined beside how it is spelled, and what could not be written is left out by its type.
-/

namespace Sitemaps.Sitemap.Written

open Text

inductive Entity
  | lt | gt | amp | apos | quot

def Entity.name : Entity → List Char
  | .lt => ['l', 't']
  | .gt => ['g', 't']
  | .amp => ['a', 'm', 'p']
  | .apos => ['a', 'p', 'o', 's']
  | .quot => ['q', 'u', 'o', 't']

def Entity.char : Entity → Char
  | .lt => '<'
  | .gt => '>'
  | .amp => '&'
  | .apos => '\''
  | .quot => '"'

structure HexDigit where
  value : Fin 16
  upper : Bool

def HexDigit.char (digit : HexDigit) : Char :=
  if digit.upper then (Nat.digitChar digit.value.val).toUpper
  else Nat.digitChar digit.value.val

inductive Spelled
  | plain (c : Char) (bare : c ≠ '<' ∧ c ≠ '&')
  | named (entity : Entity)
  | decimal (digits : List (Fin 10)) (c : Char)
      (spells : ofDigits 10 (digits.map Fin.val) = c.toNat) (present : c.toNat ≠ 0)
  | hexadecimal (digits : List HexDigit) (c : Char)
      (spells : ofDigits 16 (digits.map (·.value.val)) = c.toNat) (present : c.toNat ≠ 0)

def Spelled.char : Spelled → Char
  | .plain c _ => c
  | .named entity => entity.char
  | .decimal _ c _ _ => c
  | .hexadecimal _ c _ _ => c

def reference (name : List Char) : List Char := '&' :: name ++ [';']

def Spelled.written : Spelled → List Char
  | .plain c _ => [c]
  | .named entity => reference entity.name
  | .decimal digits _ _ _ => reference ('#' :: digits.map fun digit => Nat.digitChar digit.val)
  | .hexadecimal digits _ _ _ => reference ('#' :: 'x' :: digits.map HexDigit.char)

inductive Aside
  | comment (content : List Char) (closed : ¬['-', '-', '>'] <:+: content)
  | instruction (content : List Char) (closed : ¬['?', '>'] <:+: '?' :: content)

def Aside.written : Aside → List Char
  | .comment content _ => "<!--".toList ++ content ++ "-->".toList
  | .instruction content _ => "<?".toList ++ content ++ "?>".toList

inductive Fragment
  | text (spelled : List Spelled)
  | cdata (content : List Char) (closed : ¬[']', ']', '>'] <:+: content)
  | aside (skipped : Aside)

def Fragment.written : Fragment → List Char
  | .text spelled => spelled.flatMap Spelled.written
  | .cdata content _ => "<![CDATA[".toList ++ content ++ "]]>".toList
  | .aside skipped => skipped.written

def Fragment.meant : Fragment → List Char
  | .text spelled => spelled.map Spelled.char
  | .cdata content _ => content
  | .aside _ => []

abbrev Content := List Fragment

namespace Content

def written (content : Content) : List Char := content.flatMap Fragment.written

def meant (content : Content) : List Char := content.flatMap Fragment.meant

def value? (content : Content) : Option String :=
  if (trimChars content.meant).isEmpty then none else some (String.ofList (trimChars content.meant))

example : value? [.text [.plain ' ' (by decide), .named .lt], .cdata ['&'] (by decide)] =
    some "<&" := by decide

end Content

inductive Filler
  | blank (c : Char) (space : c ∈ [' ', '\t', '\r', '\n'])
  | aside (skipped : Aside)

abbrev Gap := List Filler

def Filler.written : Filler → List Char
  | .blank c _ => [c]
  | .aside skipped => skipped.written

/-- White space between elements is text like any other. -/
def Filler.fragment : Filler → Fragment
  | .blank c space => .text [.plain c ⟨fun same => absurd (same ▸ space) (by decide),
      fun same => absurd (same ▸ space) (by decide)⟩]
  | .aside skipped => .aside skipped

def Gap.written (gap : Gap) : List Char := gap.flatMap Filler.written

def opened (name : String) : List Char := "<".toList ++ name.toList ++ ">".toList

def closed (name : String) : List Char := "</".toList ++ name.toList ++ ">".toList

def element (name : String) (inside : List Char) : List Char :=
  opened name ++ inside ++ closed name

def fieldName : Field → String
  | .loc => "loc"
  | .lastMod => "lastmod"
  | .changeFreq => "changefreq"
  | .priority => "priority"

structure Item where
  field : Field
  content : Content
  gap : Gap

def Item.written (item : Item) : List Char :=
  element (fieldName item.field) item.content.written ++ Gap.written item.gap

/-- The fields of a page in any order, each at most once. -/
structure Record where
  gap : Gap
  items : List Item
  distinct : (items.map Item.field).Nodup

namespace Record

def written (record : Record) : List Char :=
  Gap.written record.gap ++ record.items.flatMap Item.written

def value? (record : Record) (field : Field) : Option String :=
  (record.items.find? (·.field == field)).bind (·.content.value?)

def entry? (record : Record) : Option Entry :=
  (record.value? .loc).map fun reference =>
    ⟨reference, (record.value? .lastMod).bind parseLastMod, record.value? .changeFreq,
      (record.value? .priority).bind Number.single?⟩

end Record

structure Child where
  gap : Gap
  content : Content
  after : Gap

def Child.written (child : Child) : List Char :=
  Gap.written child.gap ++ element "loc" child.content.written ++ Gap.written child.after

/-- A document whose root declares at most a name space. -/
structure Sheet (Part : Type) where
  prologue : Gap
  space : Option (List Char)
  unquoted : ∀ text ∈ space, '"' ∉ text
  lead : Gap
  parts : List (Part × Gap)
  epilogue : Gap

namespace Sheet

variable {Part : Type} (sheet : Sheet Part) (root part : String) (inside : Part → List Char)

def declared : List Char :=
  match sheet.space with
  | some text => " xmlns=\"".toList ++ text ++ "\"".toList
  | none => []

def body : List Char :=
  sheet.parts.flatMap fun each => element part (inside each.1) ++ Gap.written each.2

def written : List Char :=
  Gap.written sheet.prologue ++ "<".toList ++ root.toList ++ sheet.declared ++ ">".toList ++
    Gap.written sheet.lead ++ sheet.body part inside ++ closed root ++ Gap.written sheet.epilogue

end Sheet

abbrev UrlSet := Sheet Record

namespace UrlSet

def bytes (pages : UrlSet) : List UInt8 :=
  Utf8.encode (String.ofList (pages.written "urlset" "url" Record.written))

def entries (pages : UrlSet) : List Entry := pages.parts.filterMap fun each => Record.entry? each.1

end UrlSet

abbrev Index := Sheet Child

namespace Index

def bytes (index : Index) : List UInt8 :=
  Utf8.encode (String.ofList (index.written "sitemapindex" "sitemap" Child.written))

def children (index : Index) : List String := index.parts.filterMap (·.1.content.value?)

end Index

end Sitemaps.Sitemap.Written
