import Sitemaps.Sitemap.Entry
import Sitemaps.Sitemap.Scope
import Sitemaps.Text.Ascii
import Sitemaps.Text.Blank
import Sitemaps.Xml.Reader

/-!
A sitemap document while it is read, one XML event at a time. Text is gathered between tags and
handed to the field that awaits it at the next tag; what the document announces comes out as
findings.
-/

namespace Sitemaps.Sitemap

inductive Field
  | loc | lastMod | changeFreq | priority
  deriving DecidableEq, Repr

inductive Tag
  | sitemap
  | url
  | field (field : Field)
  | other
  deriving DecidableEq, Repr

def tagNames : List (String × Tag) :=
  [("sitemap", .sitemap), ("url", .url), ("loc", .field .loc), ("lastmod", .field .lastMod),
    ("changefreq", .field .changeFreq), ("priority", .field .priority)]

/-- Tags are known by their local name in any letter case. -/
def Tag.ofName (name : Xml.Name) : Tag :=
  let local_ := (Xml.localName name).map Text.lowerByte
  ((tagNames.find? fun known => Text.asciiBytes known.1 == local_).map (·.2)).getD .other

inductive Finding
  | child (location : String)
  | entry (entry : Entry)
  | badDate (value : String)
  | badPriority (value : String)
  | outOfScope (reference : String)
  deriving DecidableEq, Repr

structure Document where
  reader : Xml.Reader
  location : String
  scope : Scope
  inIndex : Bool := false
  awaiting : Option Field := none
  draft : Option Draft := none
  /-- Character data since the last tag, the latest fragment first. -/
  gathered : List (List Char) := []
  emitted : Nat := 0
  outOfScope : Nat := 0
  children : Nat := 0

namespace Document

def ofBytes (location : String) (scope : Scope) (bytes : List UInt8) (failure : Option String) :
    Document :=
  { reader := Xml.Reader.ofBytes bytes failure, location := location, scope := scope }

def text (document : Document) : List Char := document.gathered.reverse.flatten

def start (document : Document) : Tag → Document
  | .sitemap => { document with inIndex := true }
  | .url => { document with draft := some {} }
  | .field field => { document with awaiting := some field }
  | .other => document

/-- A value that does not parse leaves its field as it was. -/
def fill (draft : Draft) (field : Field) (value : String) : Draft × List Finding :=
  match field with
  | .loc => ({ draft with reference := some value }, [])
  | .changeFreq => ({ draft with changeFrequency := some value }, [])
  | .lastMod =>
    match parseLastMod value with
    | some instant => ({ draft with lastModified := some instant }, [])
    | none => (draft, [.badDate value])
  | .priority =>
    match Number.single? value with
    | some priority => ({ draft with priority := some priority }, [])
    | none => (draft, [.badPriority value])

/-- Hands a value to the field that awaits it: in an index a location is a child, in an open entry
the field is filled, and elsewhere the field keeps waiting. -/
def dispatch (document : Document) (value : String) : Document × List Finding :=
  match document.awaiting, document.inIndex, document.draft with
  | some .loc, true, _ =>
    ({ document with awaiting := none, children := document.children + 1 }, [.child value])
  | some field, _, some draft =>
    let (draft, findings) := fill draft field value
    ({ document with awaiting := none, draft := some draft }, findings)
  | _, _, _ => (document, [])

def flush (document : Document) : Document × List Finding :=
  let value := Text.trimChars document.text
  let document := { document with gathered := [] }
  if value.isEmpty then (document, []) else document.dispatch (String.ofList value)

def closeEntry (document : Document) : Document × List Finding :=
  let closed := { document with draft := none }
  match document.draft.bind Draft.finish with
  | none => (closed, [])
  | some entry =>
    if document.scope.passes entry.reference document.location then
      ({ closed with emitted := document.emitted + 1 }, [.entry entry])
    else ({ closed with outOfScope := document.outOfScope + 1 }, [.outOfScope entry.reference])

def stop (document : Document) : Tag → Document × List Finding
  | .sitemap => ({ document with inIndex := false }, [])
  | .url => document.closeEntry
  | .field _ => ({ document with awaiting := none }, [])
  | .other => (document, [])

def handle (document : Document) : Xml.Event → Document × List Finding
  | .text content => ({ document with gathered := content :: document.gathered }, [])
  | .opening name =>
    let (document, findings) := document.flush
    (document.start (Tag.ofName name), findings)
  | .closing name =>
    let (document, flushed) := document.flush
    let (document, closed) := document.stop (Tag.ofName name)
    (document, flushed ++ closed)
  | .single name =>
    let tag := Tag.ofName name
    let (document, flushed) := document.flush
    let (document, closed) := (document.start tag).stop tag
    (document, flushed ++ closed)
  | .aside => (document, [])

inductive Step
  | failed (fault : Xml.Fault)
  /-- The document is read to its end; the text after the last tag has been handed out too. -/
  | finished (document : Document) (findings : List Finding)
  | onward (document : Document) (findings : List Finding)

def next (document : Document) : Step :=
  match document.reader.next with
  | .error fault => .failed fault
  | .ok none =>
    let (document, findings) := document.flush
    .finished document findings
  | .ok (some (event, reader)) =>
    let (document, findings) := handle { document with reader := reader } event
    .onward document findings

def remaining (document : Document) : Nat := document.reader.rest.length

end Document

end Sitemaps.Sitemap
