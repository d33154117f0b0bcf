import Sitemaps.Record.Database

/-! Figures about a database, and how they are printed. -/

namespace Sitemaps

structure Statistics where
  resolvedRoots : Nat
  pages : Nat
  withLastModified : Nat
  byRoot : List (String × Nat)
  deriving DecidableEq, Repr

def Tables.statistics (tables : Tables) : Statistics where
  resolvedRoots := tables.roots.length
  pages := tables.pages.length
  withLastModified := tables.withLastModified
  byRoot := tables.pagesByRoot

def Database.statistics (database : Database) : Except StoreFault Statistics :=
  database.query Tables.statistics

namespace Statistics

def share (statistics : Statistics) (label : String) (count : Nat) : String :=
  s!"  {label}: {count} ({Number.percent count statistics.pages})"

def rootLines (statistics : Statistics) : List String :=
  if statistics.byRoot.isEmpty then []
  else ["URLs by Root:"] ++
    statistics.byRoot.map (fun (root, count) => statistics.share root count) ++ [""]

def lines (statistics : Statistics) : List String :=
  ["=== Sitemap Statistics ===", "", "Overview:",
    s!"  Resolved roots: {statistics.resolvedRoots}",
    s!"  Sitemap URLs: {statistics.pages}",
    statistics.share "With last-modified date" statistics.withLastModified, ""] ++
    statistics.rootLines

end Statistics

end Sitemaps
