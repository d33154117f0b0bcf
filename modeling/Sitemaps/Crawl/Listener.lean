import Sitemaps.Crawl.State
import Sitemaps.Record.Database

/-!
Where announced entries go: to a listener that merely hears them, or to the database of the crawl.
-/

namespace Sitemaps

/-- Hears entries beside a store; it may ask for a stop once it heard so many, or panic instead of
hearing one. -/
structure Listener (σ : Type) where
  store : σ
  heard : Nat
  stopAt : Option Nat
  panicAt : Option Nat

namespace Listener

variable {σ : Type} [RootStore σ]

instance : RootStore (Listener σ) where
  isResolved listener := RootStore.isResolved listener.store
  markResolved listener root :=
    (RootStore.markResolved listener.store root).map ({ listener with store := · })
  close listener := (RootStore.close listener.store).map ({ listener with store := · })
  isClosed listener := RootStore.isClosed listener.store

instance : Sink (Listener σ) where
  accept listener _ :=
    let heard := listener.heard + 1
    if listener.panicAt = some heard then .panicked
    else .kept { listener with heard := heard } [] (listener.stopAt = some heard)

end Listener

def Database.accept (database : Database) (entry : Sitemap.Entry) : Database × List Notice :=
  match database.upsert entry with
  | .ok database => (database, [])
  | .error fault =>
    (database, [⟨.error, s!"Failed to store sitemap URL {entry.reference}: {fault.message}"⟩])

structure Tally where
  database : Database
  emitted : Nat
  deriving DecidableEq, Repr

namespace Tally

instance : RootStore Tally where
  isResolved tally := tally.database.isResolved
  markResolved tally root := (tally.database.markResolved root).map ({ tally with database := · })
  close tally := .ok { tally with database := tally.database.close }
  isClosed tally := !tally.database.isOpen

instance : Sink Tally where
  accept tally entry :=
    let (database, notices) := tally.database.accept entry
    .kept ⟨database, tally.emitted + 1⟩ notices false

end Tally

end Sitemaps
