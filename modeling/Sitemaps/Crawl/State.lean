import Sitemaps.Crawl.Guard
import Sitemaps.Crawl.Stage

/-! What the calls of a crawl share: guard and record, the disk, and the journal. -/

namespace Sitemaps

inductive Acceptance (σ : Type) where
  | kept (store : σ) (notices : List Notice) (stops : Bool)
  | panicked

/-- Where the announced entries go. -/
class Sink (σ : Type) where
  accept : σ → Sitemap.Entry → Acceptance σ

structure Crawl (σ : Type) where
  desk : Desk σ
  /-- The guard that stops arriving with answers reach, if it is another than the one at the desk.
  -/
  elder : Option Guard
  disk : Disk
  journal : Journal

namespace Crawl

variable {σ : Type}

def start (store : σ) (disk : Disk) : Crawl σ := ⟨⟨.fresh, store⟩, none, disk, []⟩

def note (crawl : Crawl σ) (notices : List Notice) : Crawl σ :=
  { crawl with journal := crawl.journal.note notices }

def debug (crawl : Crawl σ) (text : String) : Crawl σ := crawl.note [⟨.debug, text⟩]
def info (crawl : Crawl σ) (text : String) : Crawl σ := crawl.note [⟨.info, text⟩]
def error (crawl : Crawl σ) (text : String) : Crawl σ := crawl.note [⟨.error, text⟩]

def log (crawl : Crawl σ) (event : Event) : Crawl σ :=
  { crawl with journal := event :: crawl.journal }

def stopped (crawl : Crawl σ) : Bool := crawl.desk.guard.stopped

variable [RootStore σ]

def shutdown (crawl : Crawl σ) : Crawl σ :=
  let (desk, notices) := crawl.desk.shutdown
  { crawl with desk := desk }.note notices

/-- A stop that arrives with an answer. -/
def stopFromOutside (crawl : Crawl σ) : Crawl σ :=
  match crawl.elder with
  | none => crawl.shutdown
  | some guard =>
    let (desk, notices) := Desk.shutdown { crawl.desk with guard := guard }
    { crawl with desk := { crawl.desk with store := desk.store }, elder := some desk.guard }.note
      notices

/-- The answer to a request, or none if the request panicked. -/
def request (crawl : Crawl σ) (web : Web) (location : String) :
    Option (Except FetchFault Response) × Crawl σ :=
  let answer := web.answer location (crawl.journal.requests location)
  let asked := crawl.log (.fetched location)
  let after := if answer.stops then asked.stopFromOutside else asked
  (if answer.panics then none else some answer.result, after)

def accept [Sink σ] (crawl : Crawl σ) (entry : Sitemap.Entry) : Option (Crawl σ) :=
  match Sink.accept crawl.desk.store entry with
  | .panicked => none
  | .kept store notices stops =>
    let kept := ({ crawl with desk := { crawl.desk with store := store } }.log
      (.accepted entry)).note notices
    some (if stops then kept.shutdown else kept)

end Crawl

end Sitemaps
