import Sitemaps.Toml.Number

/-! Reading a whole configuration text. -/

namespace Sitemaps.Toml

/-- How deep arrays and braces may be nested, and how many parts a key may have. -/
def depthLimit : Nat := 79

def path? (keys : List String) : Option Path := keys.getLast?.map (⟨keys.dropLast, ·⟩)

def assignment? (text : List Char) : Option (Path × List Char) :=
  match keysFrom depthLimit text with
  | some (keys, '=' :: rest) => (path? keys).map (·, skipSpaces rest)
  | _ => none

def itemsFrom (item? : Scan Value) (read : List Value) : Nat → Scan Value
  | 0, _ => none
  | room + 1, text =>
    match skipGap text with
    | none => none
    | some (']' :: rest) => some (.list read.reverse, rest)
    | some text =>
      match item? text with
      | none => none
      | some (item, rest) =>
        match skipGap rest with
        | some (',' :: rest) => itemsFrom item? (item :: read) room rest
        | some (']' :: rest) => some (.list (item :: read).reverse, rest)
        | _ => none

def fieldsFrom (item? : Scan Value) (table : Table) : Nat → Scan Value
  | 0, _ => none
  | room + 1, text =>
    match assignment? text with
    | none => none
    | some (path, text) =>
      match item? text with
      | none => none
      | some (item, rest) =>
        match table.insert path item, skipSpaces rest with
        | some table, ',' :: rest => fieldsFrom item? table room rest
        | some table, '}' :: rest => some (table.value, rest)
        | _, _ => none

def braces? (item? : Scan Value) (text : List Char) : Option (Value × List Char) :=
  match skipSpaces text with
  | '}' :: rest => some (.table .inline [], rest)
  | text => fieldsFrom item? ⟨.inline, []⟩ text.length text

def word? : Scan Value
  | 't' :: 'r' :: 'u' :: 'e' :: rest => some (.boolean true, rest)
  | 'f' :: 'a' :: 'l' :: 's' :: 'e' :: rest => some (.boolean false, rest)
  | _ => none

def simple? (text : List Char) : Option (Value × List Char) :=
  (string? text).map (fun (content, rest) => (.text content, rest)) <|> word? text <|> number? text

def value? : Nat → Scan Value
  | 0, text => simple? text
  | depth + 1, text =>
    match text with
    | '[' :: rest => itemsFrom (value? depth) [] text.length rest
    | '{' :: rest => braces? (value? depth) rest
    | _ => simple? text

/-- The whole table so far, and the way to the table that assignments go to. -/
structure Draft where
  whole : Table
  current : List String

def Draft.start : Draft := ⟨⟨.header, []⟩, []⟩

def Draft.assign (draft : Draft) (path : Path) (value : Value) : Option Draft :=
  (draft.whole.change false (·.insert path value) draft.current).map ({ draft with whole := · })

def Draft.goTo (draft : Draft) (path : Path) (f : String → Table → Option Table) : Option Draft :=
  (draft.whole.change false (f path.key) path.way).map (⟨·, path.way ++ [path.key]⟩)

def headerPath? (text : List Char) : Option (Path × List Char) :=
  match keysFrom depthLimit text with
  | some (keys, rest) => (path? keys).map (·, rest)
  | none => none

def line? (draft : Draft) (text : List Char) : Option (Draft × List Char) :=
  match text with
  | '[' :: '[' :: rest =>
    match headerPath? rest with
    | some (path, ']' :: ']' :: rest) => do
      some (← draft.goTo path Table.appendTable, ← restOfLine? rest)
    | _ => none
  | '[' :: rest =>
    match headerPath? rest with
    | some (path, ']' :: rest) => do
      some (← draft.goTo path Table.openTable, ← restOfLine? rest)
    | _ => none
  | '#' :: _ | '\n' :: _ => (restOfLine? text).map (draft, ·)
  | _ => do
    let (path, rest) ← assignment? text
    let (value, rest) ← value? depthLimit rest
    some (← draft.assign path value, ← restOfLine? rest)

def linesFrom (draft : Draft) : Nat → List Char → Option Draft
  | 0, _ => none
  | room + 1, text =>
    match skipSpaces text with
    | [] => some draft
    | text =>
      match line? draft text with
      | none => none
      | some (draft, rest) => linesFrom draft room rest

def byteOrderMark : Char := Char.ofNat 0xFEFF

def withoutMark : List Char → List Char
  | c :: rest => if c = byteOrderMark then rest else c :: rest
  | [] => []

def parse (content : String) : Option Entries :=
  let text := joinLineEnds (withoutMark content.toList)
  (linesFrom .start (text.length + 1) text).map (·.whole.entries)

end Sitemaps.Toml
