import Sitemaps.Record.Store
import Sitemaps.Sitemap.Entry

/-!
The database of a crawl: resolved roots and the pages that sitemaps announced, each kept once by its
URL.
-/

namespace Sitemaps

structure Page where
  url : String
  /-- The text of the URL's root, blank if it has none; it stays as it was when the page came in. -/
  root : String
  lastModified : Option String
  changeFrequency : Option String
  priority : Option Number.Double
  deriving DecidableEq, Repr

def rootText (url : String) : String :=
  match Root.parse url with
  | .ok root => root.text
  | .error _ => ""

/-- Columns of numbers hold no negative zero, and nothing in place of what is no number. -/
def storedPriority (priority : Number.Single) : Option Number.Double :=
  if priority.magnitude = 0 then some ⟨0⟩ else priority.widen?

def Page.ofEntry (entry : Sitemap.Entry) : Page where
  url := entry.reference
  root := rootText entry.reference
  lastModified := entry.lastModified.map (·.text)
  changeFrequency := entry.changeFrequency
  priority := entry.priority.bind storedPriority

structure Tables where
  /-- Texts of the resolved roots, in ascending order. -/
  roots : List String
  /-- Pages in the order in which they came in. -/
  pages : List Page
  deriving DecidableEq, Repr

namespace Tables

def empty : Tables := ⟨[], []⟩

def insertRoot (text : String) : List String → List String
  | [] => [text]
  | first :: rest =>
    if text < first then text :: first :: rest
    else if text = first then first :: rest
    else first :: insertRoot text rest

/-- A known page takes over everything but its root. -/
def insertPage (page : Page) : List Page → List Page
  | [] => [page]
  | first :: rest =>
    if first.url = page.url then { page with root := first.root } :: rest
    else first :: insertPage page rest

def mark (tables : Tables) (root : Root) : Tables :=
  { tables with roots := insertRoot root.text tables.roots }

def upsert (tables : Tables) (entry : Sitemap.Entry) : Tables :=
  { tables with pages := insertPage (Page.ofEntry entry) tables.pages }

def page? (tables : Tables) (url : String) : Option Page := tables.pages.find? (·.url == url)

def withLastModified (tables : Tables) : Nat := tables.pages.countP (·.lastModified.isSome)

def countRoot (root : String) : List (String × Nat) → List (String × Nat)
  | [] => [(root, 1)]
  | (first, count) :: rest =>
    if first = root then (first, count + 1) :: rest else (first, count) :: countRoot root rest

/-- Most pages first; roots with equally many pages in ascending order. -/
def precedes (a b : String × Nat) : Bool := b.2 < a.2 || (a.2 == b.2 && a.1 ≤ b.1)

def pagesByRoot (tables : Tables) : List (String × Nat) :=
  (tables.pages.foldl (fun counts page => countRoot page.root counts) []).mergeSort precedes

end Tables

/-- Where the tables live while nobody has them open. -/
inductive Medium
  | memory | file
  deriving DecidableEq, Repr

structure Database where
  medium : Medium
  tables : Tables
  isOpen : Bool
  deriving DecidableEq, Repr

namespace Database

def create (medium : Medium) : Database := ⟨medium, .empty, true⟩

/-- Only a file keeps what was written. -/
def reopen (database : Database) : Database :=
  match database.medium with
  | .memory => create .memory
  | .file => { database with isOpen := true }

def close (database : Database) : Database := { database with isOpen := false }

def query {α : Type} (database : Database) (f : Tables → α) : Except StoreFault α :=
  if database.isOpen then .ok (f database.tables) else .error .closed

def update (database : Database) (f : Tables → Tables) : Except StoreFault Database :=
  if database.isOpen then .ok { database with tables := f database.tables } else .error .closed

def isResolved (database : Database) (root : Root) : Except StoreFault Bool :=
  database.query (·.roots.contains root.text)

def markResolved (database : Database) (root : Root) : Except StoreFault Database :=
  database.update (·.mark root)

def resolvedRoots (database : Database) : Except StoreFault (List String) := database.query (·.roots)

def clearResolved (database : Database) : Except StoreFault (Nat × Database) :=
  (database.update ({ · with roots := [] })).map (database.tables.roots.length, ·)

def upsert (database : Database) (entry : Sitemap.Entry) : Except StoreFault Database :=
  database.update (·.upsert entry)

def page? (database : Database) (url : String) : Except StoreFault (Option Page) :=
  database.query (·.page? url)

instance : RootStore Database where
  isResolved := isResolved
  markResolved := markResolved
  close database := .ok database.close
  isClosed database := !database.isOpen

end Database

end Sitemaps
