import Sitemaps.Config.Config
import Sitemaps.Crawl.Team

/-! A whole run: the plans of a configuration, carried out by its workers. -/

namespace Sitemaps

inductive RunFault
  | url (fault : Root.Fault)
  | tempDir (shown : String) (fault : DiskFault)
  | store (fault : StoreFault)
  | userAgent
  | workers (lost : Nat)
  deriving DecidableEq, Repr

def RunFault.message : RunFault → String
  | .url fault => s!"URL error: {fault.message}"
  | .tempDir shown fault => s!"Cannot use temporary directory {shown}: {fault.message}"
  | .store fault => s!"Storage error: {fault.message}"
  | .userAgent => "HTTP client error: builder error"
  | .workers lost => s!"Worker task failed: {lost} worker thread(s) panicked"

def Staging.prepare (staging : Staging) (disk : Disk) : Except RunFault Disk :=
  (disk.makeDirectories staging.place).mapError (.tempDir staging.shown)

structure Summary where
  seeds : Nat
  roots : Nat
  emitted : Nat
  interrupted : Bool
  deriving DecidableEq, Repr

structure Coordinator where
  setting : Setting
  plans : List RootPlan
  jobs : List Job
  workers : Nat

namespace Coordinator

def plan (config : Config) (setting : Setting) : Except RunFault Coordinator :=
  match planRoots config.seeds with
  | .error fault => .error (.url fault)
  | .ok plans =>
    .ok ⟨setting, plans, jobsOf plans config.seeds config.crawler.robots, config.crawler.workers⟩

/-- The temporary directory is made before the seeds are looked at, and stays even if one is faulty.
-/
def assemble (config : Config) (web : Web) (staging : Staging) (disk : Disk) :
    Except RunFault Coordinator × Disk :=
  match staging.prepare disk with
  | .error fault => (.error fault, disk)
  | .ok disk => (plan config ⟨web, staging, config.sitemap.scope, config.sitemap.paths⟩, disk)

def team (coordinator : Coordinator) : Nat :=
  min (max coordinator.workers 1) (max coordinator.jobs.length 1)

def announcement (coordinator : Coordinator) : String :=
  s!"Resolving sitemaps for {coordinator.jobs.length} seeds " ++
    s!"({coordinator.plans.length} roots) with {coordinator.team} workers"

def summary (coordinator : Coordinator) (crawl : Crawl Tally) : Summary :=
  ⟨coordinator.jobs.length, coordinator.plans.length, crawl.desk.store.emitted, crawl.stopped⟩

/-- The workers at the start of a run, which counts its entries from zero. -/
def muster (coordinator : Coordinator) (crawl : Crawl Tally) : Team Tally :=
  let store := { crawl.desk.store with emitted := 0 }
  let crawl := { crawl with desk := { crawl.desk with store := store } }
  Team.gather coordinator.team coordinator.jobs (crawl.info coordinator.announcement)

def outcome (coordinator : Coordinator) (team : Team Tally) : Except RunFault Summary :=
  if team.lost = 0 then .ok (coordinator.summary team.crawl) else .error (.workers team.lost)

def run (coordinator : Coordinator) (crawl : Crawl Tally) :
    Except RunFault Summary × Crawl Tally :=
  let team := (coordinator.muster crawl).runInTurn coordinator.setting
  (coordinator.outcome team, team.crawl)

end Coordinator

/-- The crawl under a new guard over the same record; stops that arrive with answers still reach the
first one. -/
def Crawl.renew {σ : Type} (crawl : Crawl σ) : Crawl σ :=
  { crawl with
    desk := ⟨.fresh, crawl.desk.store⟩
    elder := some (crawl.elder.getD crawl.desk.guard) }

def headerText (text : String) : Bool :=
  text.toList.all fun c => c == '\t' || (0x20 ≤ c.toNat && c.toNat != 0x7F)

/-- A crawl of a database; a fresh one forgets the resolved roots first. -/
def Crawl.ofDatabase (database : Database) (disk : Disk) (fresh : Bool) :
    Except StoreFault (Crawl Tally) :=
  if fresh then
    match database.clearResolved with
    | .error fault => .error fault
    | .ok (count, database) =>
      .ok ((Crawl.start ⟨database, 0⟩ disk).info s!"Fresh run: forgot {count} resolved roots")
  else .ok (Crawl.start ⟨database, 0⟩ disk)

def resolveAll (config : Config) (web : Web) (staging : Staging) (disk : Disk)
    (database : Database) (fresh : Bool) : Except RunFault Summary × Database :=
  match Crawl.ofDatabase database disk fresh with
  | .error fault => (.error (.store fault), database)
  | .ok crawl =>
    let opened := crawl.desk.store.database
    if !headerText config.userAgent.text then (.error .userAgent, opened)
    else
      match Coordinator.assemble config web staging disk with
      | (.error fault, _) => (.error fault, opened)
      | (.ok coordinator, disk) =>
        let (result, crawl) := coordinator.run { crawl with disk := disk }
        (result, crawl.desk.store.database)

end Sitemaps
