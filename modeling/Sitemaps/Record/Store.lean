import Sitemaps.Site.Root

/-!
The record of the roots whose sitemaps were resolved. It may outlive a run, and it can be closed.
-/

namespace Sitemaps

inductive StoreFault
  | closed
  deriving DecidableEq, Repr

def StoreFault.message : StoreFault → String
  | .closed => "Storage has been closed"

class RootStore (σ : Type) where
  isResolved : σ → Root → Except StoreFault Bool
  markResolved : σ → Root → Except StoreFault σ
  /-- Closing twice is no fault. -/
  close : σ → Except StoreFault σ
  isClosed : σ → Bool

/-- A record that ends with the run. -/
structure MemoryStore where
  resolved : List Root
  closed : Bool
  deriving DecidableEq, Repr

namespace MemoryStore

def isResolved (store : MemoryStore) (root : Root) : Except StoreFault Bool :=
  if store.closed then .error .closed else .ok (store.resolved.contains root)

def markResolved (store : MemoryStore) (root : Root) : Except StoreFault MemoryStore :=
  if store.closed then .error .closed
  else .ok { store with resolved := store.resolved.insert root }

instance : RootStore MemoryStore where
  isResolved := isResolved
  markResolved := markResolved
  close store := .ok { store with closed := true }
  isClosed store := store.closed

end MemoryStore

end Sitemaps
