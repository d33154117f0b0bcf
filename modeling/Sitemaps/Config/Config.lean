import Sitemaps.Crawl.Plan
import Sitemaps.Toml.Value

/-! The configuration of a crawl, and how it is read from a configuration text. -/

namespace Sitemaps

structure SitemapOptions where
  paths : List String
  lenient : Bool
  tempDir : Option String
  deriving DecidableEq, Repr

namespace SitemapOptions

def default : SitemapOptions := ⟨["/sitemap.xml", "/sitemap_index.xml"], false, none⟩

def scope (options : SitemapOptions) : Scope := if options.lenient then .lenient else .strict

end SitemapOptions

structure UserAgent where
  name : String
  version : String
  url : String
  email : String
  deriving DecidableEq, Repr

def UserAgent.text (agent : UserAgent) : String :=
  s!"{agent.name}/{agent.version} (+{agent.url}; {agent.email})"

structure CrawlerOptions where
  workers : Nat
  robots : Bool
  deriving DecidableEq, Repr

def CrawlerOptions.default : CrawlerOptions := ⟨4, true⟩

structure Config where
  sitemap : SitemapOptions
  userAgent : UserAgent
  crawler : CrawlerOptions
  databasePath : String
  seeds : List Seed
  deriving DecidableEq, Repr

namespace Config

open Toml (Value Entries)

def fields? (names : List String) : Value → Option (List (Option Value))
  | .table _ entries => some (names.map fun name => entries.lookup name)
  | .list items => some ((List.range names.length).map (items[·]?))
  | .tables all =>
    some ((List.range names.length).map fun place => (all[place]?).map (.table .header ·))
  | _ => none

def text? : Value → Option String
  | .text content => some content
  | _ => none

def truth? : Value → Option Bool
  | .boolean truth => some truth
  | _ => none

def count? : Value → Option Nat
  | .integer number => if 0 ≤ number then some number.toNat else none
  | _ => none

def items? : Value → Option (List Value)
  | .list items => some items
  | .tables all => some (all.map (.table .header ·))
  | _ => none

def texts? (value : Value) : Option (List String) := (items? value).bind (·.mapM text?)

def optional {α : Type} (read? : Value → Option α) (missing : α) : Option Value → Option α
  | none => some missing
  | some value => read? value

def required {α : Type} (read? : Value → Option α) (field : Option Value) : Option α :=
  field.bind read?

def sitemap? (value : Value) : Option SitemapOptions := do
  match ← fields? ["paths", "lenient", "temp-dir"] value with
  | [paths, lenient, tempDir] =>
    let defaults := SitemapOptions.default
    some ⟨← optional texts? defaults.paths paths, ← optional truth? defaults.lenient lenient,
      ← optional (fun value => (text? value).map some) none tempDir⟩
  | _ => none

def userAgent? (value : Value) : Option UserAgent := do
  match ← fields? ["crawler-name", "crawler-version", "contact-url", "contact-email"] value with
  | [name, version, url, email] =>
    some ⟨← required text? name, ← required text? version, ← required text? url,
      ← required text? email⟩
  | _ => none

def crawler? (value : Value) : Option CrawlerOptions := do
  match ← fields? ["workers", "robots"] value with
  | [workers, robots] =>
    let defaults := CrawlerOptions.default
    some ⟨← optional count? defaults.workers workers, ← optional truth? defaults.robots robots⟩
  | _ => none

def databasePath? (value : Value) : Option String := do
  match ← fields? ["database-path"] value with
  | [path] => required text? path
  | _ => none

def seed? (value : Value) : Option Seed := do
  match ← fields? ["url", "sitemaps"] value with
  | [url, sitemaps] => some ⟨← required text? url, ← optional texts? [] sitemaps⟩
  | _ => none

def seeds? (value : Value) : Option (List Seed) := (items? value).bind (·.mapM seed?)

/-- Keys that are not known are passed over. -/
def ofEntries? (entries : Entries) : Option Config := do
  let sitemap ← optional sitemap? .default (entries.lookup "sitemap")
  let userAgent ← required userAgent? (entries.lookup "user-agent")
  let crawler ← optional crawler? .default (entries.lookup "crawler")
  let databasePath ← required databasePath? (entries.lookup "output")
  let seeds ← optional seeds? [] (entries.lookup "seed")
  some ⟨sitemap, userAgent, crawler, databasePath, seeds⟩

end Config

end Sitemaps
