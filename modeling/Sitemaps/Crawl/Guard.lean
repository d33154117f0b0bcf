import Sitemaps.Crawl.Journal
import Sitemaps.Record.Store

/-!
The guard lets at most one resolution per root run at a time, and none for a root that is done. What
it knows by itself is kept apart from the record of earlier runs, which it consults and which a stop
closes.
-/

namespace Sitemaps

inductive RootState
  | unresolved | active | resolved
  deriving DecidableEq, Repr

structure Guard where
  active : List Root
  /-- Roots finished under this guard; known even once the record is closed. -/
  finished : List Root
  stopped : Bool
  deriving DecidableEq, Repr

def Guard.fresh : Guard := ⟨[], [], false⟩

structure Desk (σ : Type) where
  guard : Guard
  store : σ

namespace Desk

variable {σ : Type} [RootStore σ]

/-- A record that cannot be read counts as one without the root. -/
def recorded (desk : Desk σ) (root : Root) : Bool × List Notice :=
  match RootStore.isResolved desk.store root with
  | .ok resolved => (resolved, [])
  | .error fault =>
    (false, [⟨.warning, s!"Cannot read resolution state of {root.text}: {fault.message}"⟩])

def state (desk : Desk σ) (root : Root) : RootState × List Notice :=
  if desk.guard.active.contains root then (.active, [])
  else if desk.guard.finished.contains root then (.resolved, [])
  else if desk.guard.stopped then (.unresolved, [])
  else
    let (resolved, notices) := desk.recorded root
    (if resolved then .resolved else .unresolved, notices)

def refusal (root : Root) : Notice :=
  ⟨.debug, s!"Not resolving sitemaps for {root.text} (stop requested)"⟩

def isTaken (desk : Desk σ) (root : Root) : Bool × List Notice :=
  if desk.guard.active.contains root || desk.guard.finished.contains root then (true, [])
  else desk.recorded root

def activate (desk : Desk σ) (root : Root) : Desk σ :=
  { desk with guard := { desk.guard with active := root :: desk.guard.active } }

/-- The locked part of entering; it does not look at the stop flag. -/
def claim (desk : Desk σ) (root : Root) : Bool × Desk σ × List Notice :=
  let (taken, notices) := desk.isTaken root
  if taken then (false, desk, notices) else (true, desk.activate root, notices)

def tryEnter (desk : Desk σ) (root : Root) : Bool × Desk σ × List Notice :=
  if desk.guard.stopped then (false, desk, [refusal root]) else desk.claim root

def deactivate (guard : Guard) (root : Root) : Guard :=
  { guard with active := guard.active.filter (· != root) }

/-- Gives a claim back with the root resolved. The guard remembers that even if the record cannot.
-/
def finish (desk : Desk σ) (root : Root) : Desk σ × List Notice :=
  let guard := deactivate { desk.guard with finished := root :: desk.guard.finished } root
  match RootStore.markResolved desk.store root with
  | .ok store => (⟨guard, store⟩, [])
  | .error fault =>
    (⟨guard, desk.store⟩,
      [⟨.error, s!"Could not record {root.text} as resolved: {fault.message}"⟩])

def drop (desk : Desk σ) (root : Root) : Desk σ × List Notice :=
  ({ desk with guard := deactivate desk.guard root },
    [⟨.debug, s!"Releasing {root.text} without marking it resolved"⟩])

def raise (desk : Desk σ) : Desk σ :=
  { desk with guard := { desk.guard with stopped := true } }

def closeStore (desk : Desk σ) : Desk σ × List Notice :=
  match RootStore.close desk.store with
  | .ok store => ({ desk with store := store }, [])
  | .error fault =>
    (desk, [⟨.error, s!"Could not close resolved-root store: {fault.message}"⟩])

/-- Raises the stop flag, then closes the record; only the first request does anything. -/
def shutdown (desk : Desk σ) : Desk σ × List Notice :=
  if desk.guard.stopped then (desk, [])
  else
    let (desk, notices) := desk.raise.closeStore
    (desk, ⟨.info, "Sitemap resolution stop requested"⟩ :: notices)

end Desk

end Sitemaps
