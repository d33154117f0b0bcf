import Sitemaps.Site.Root
import Sitemaps.Sitemap.Entry

/-!
What happened during a crawl, in order: requests, entries handed over, claims, and log notices.
-/

namespace Sitemaps

inductive Level
  | error | warning | info | debug
  deriving DecidableEq, Repr

def Level.name : Level → String
  | .error => "ERROR"
  | .warning => "WARN"
  | .info => "INFO"
  | .debug => "DEBUG"

structure Notice where
  level : Level
  text : String
  deriving DecidableEq, Repr

def Notice.line (notice : Notice) : String := notice.level.name ++ " " ++ notice.text

inductive Event
  | notice (notice : Notice)
  | fetched (location : String)
  | accepted (entry : Sitemap.Entry)
  | claimed (root : Root)
  | finished (root : Root)
  | dropped (root : Root)
  deriving DecidableEq, Repr

/-- Events, the latest first. -/
abbrev Journal := List Event

namespace Journal

def note (journal : Journal) (notices : List Notice) : Journal :=
  (notices.map Event.notice).reverse ++ journal

def requests (journal : Journal) (location : String) : Nat := journal.count (.fetched location)

def fetched (journal : Journal) : List String :=
  journal.reverse.filterMap fun event =>
    match event with
    | .fetched location => some location
    | _ => none

def accepted (journal : Journal) : List Sitemap.Entry :=
  journal.reverse.filterMap fun event =>
    match event with
    | .accepted entry => some entry
    | _ => none

def notices (journal : Journal) : List Notice :=
  journal.reverse.filterMap fun event =>
    match event with
    | .notice notice => some notice
    | _ => none

def since (journal earlier : Journal) : Journal := journal.take (journal.length - earlier.length)

end Journal

end Sitemaps
