import Sitemaps.Crawl.Listener
import Sitemaps.Site.Candidates

/-!
The roots that a record holds, whether it is open or closed. An open record tells them, marking adds
one, and neither closing nor an entry that comes in changes them.
-/

namespace Sitemaps

class LawfulStore (σ : Type) [RootStore σ] where
  holds : σ → Root → Bool
  read : ∀ (store : σ) (root : Root), RootStore.isResolved store root =
    if RootStore.isClosed store then .error .closed else .ok (holds store root)
  marked : ∀ {store after : σ} {root : Root}, RootStore.markResolved store root = .ok after →
    RootStore.isClosed store = false ∧ RootStore.isClosed after = false ∧
      ∀ other, holds after other = (decide (other = root) || holds store other)
  unmarked : ∀ {store : σ} {root : Root} {fault : StoreFault},
    RootStore.markResolved store root = .error fault → RootStore.isClosed store = true
  closed : ∀ {store after : σ}, RootStore.close store = .ok after →
    RootStore.isClosed after = true ∧ ∀ root, holds after root = holds store root

class LawfulSink (σ : Type) [RootStore σ] [Sink σ] extends LawfulStore σ where
  kept : ∀ {store after : σ} {entry : Sitemap.Entry} {notices : List Notice} {stops : Bool},
    Sink.accept store entry = .kept after notices stops →
      RootStore.isClosed after = RootStore.isClosed store ∧
        ∀ root, holds after root = holds store root

namespace MemoryStore

instance : LawfulStore MemoryStore where
  holds store root := store.resolved.contains root
  read store root := rfl
  marked {store after root} marked := by
    simp only [RootStore.markResolved, markResolved] at marked
    split at marked
    · cases marked
    · rename_i opened
      have opened := Bool.eq_false_iff.mpr opened
      cases marked
      refine ⟨opened, opened, ?_⟩
      intro other
      simp [List.contains_eq_mem, List.mem_insert_iff]
  unmarked {store root fault} failed := by
    simp only [RootStore.markResolved, markResolved] at failed
    split at failed
    · assumption
    · cases failed
  closed {store after} closed := by
    simp only [RootStore.close, Except.ok.injEq] at closed
    subst closed
    exact ⟨rfl, fun _ => rfl⟩

end MemoryStore

theorem Tables.insertRoot_location (text : String) (roots : List String) :
    insertRoot text roots = insertLocation text roots := by
  induction roots with
  | nil => rfl
  | cons first rest ih => rw [insertRoot, insertLocation, ih]

namespace Database

theorem mem_insertRoot {text other : String} {roots : List String} :
    other ∈ Tables.insertRoot text roots ↔ other = text ∨ other ∈ roots := by
  rw [Tables.insertRoot_location, mem_insertLocation]

instance : LawfulStore Database where
  holds database root := database.tables.roots.contains root.text
  read database root := by
    simp only [RootStore.isResolved, isResolved, query, RootStore.isClosed]
    by_cases opened : database.isOpen = true <;> simp [opened]
  marked {database after root} marked := by
    simp only [RootStore.markResolved, markResolved, update] at marked
    split at marked
    · rename_i opened
      have opened : (!database.isOpen) = false := by rw [opened]; rfl
      cases marked
      refine ⟨opened, opened, ?_⟩
      intro other
      have texts : other.text = root.text ↔ other = root :=
        ⟨fun same => by cases other; cases root; exact congrArg Root.mk same, congrArg Root.text⟩
      simp [Tables.mark, List.contains_eq_mem, mem_insertRoot, texts]
    · cases marked
  unmarked {database root fault} failed := by
    simp only [RootStore.markResolved, markResolved, update] at failed
    split at failed
    · cases failed
    · rename_i shut
      simpa [RootStore.isClosed] using shut
  closed {database after} closed := by
    simp only [RootStore.close, Except.ok.injEq] at closed
    subst closed
    exact ⟨rfl, fun _ => rfl⟩

end Database

theorem map_ok {α β : Type} {f : α → β} {result : Except StoreFault α} {after : β}
    (made : result.map f = .ok after) : ∃ inner, result = .ok inner ∧ f inner = after := by
  cases result with
  | error fault => cases made
  | ok inner => exact ⟨inner, rfl, Except.ok.inj made⟩

theorem map_error {α β : Type} {f : α → β} {result : Except StoreFault α} {fault : StoreFault}
    (made : result.map f = .error fault) : result = .error fault := by
  cases result with
  | error other => rw [Except.error.inj made]
  | ok inner => cases made

namespace Listener

variable {σ : Type} [RootStore σ]

instance [LawfulStore σ] : LawfulSink (Listener σ) where
  holds listener := LawfulStore.holds listener.store
  read listener := LawfulStore.read listener.store
  marked marked := by
    obtain ⟨store, made, rfl⟩ := map_ok marked
    exact LawfulStore.marked made
  unmarked {listener root fault} failed := by
    have inner : RootStore.markResolved listener.store root = .error fault := map_error failed
    exact LawfulStore.unmarked (σ := σ) inner
  closed closed := by
    obtain ⟨store, made, rfl⟩ := map_ok closed
    exact LawfulStore.closed made
  kept {listener after entry notices stops} kept := by
    simp only [Sink.accept] at kept
    split at kept
    · cases kept
    · cases kept
      exact ⟨rfl, fun _ => rfl⟩

end Listener

namespace Tally

theorem accept_tables (database : Database) (entry : Sitemap.Entry) :
    (database.accept entry).1.isOpen = database.isOpen ∧
      (database.accept entry).1.tables.roots = database.tables.roots := by
  unfold Database.accept Database.upsert Database.update
  split
  · rename_i after made
    split at made
    · cases made
      exact ⟨rfl, rfl⟩
    · cases made
  · exact ⟨rfl, rfl⟩

instance : LawfulSink Tally where
  holds tally := LawfulStore.holds tally.database
  read tally := LawfulStore.read tally.database
  marked marked := by
    obtain ⟨database, made, rfl⟩ := map_ok marked
    exact LawfulStore.marked (σ := Database) made
  unmarked {tally root fault} failed := by
    have inner : tally.database.markResolved root = .error fault := map_error failed
    exact LawfulStore.unmarked (σ := Database) inner
  closed closed := by
    simp only [RootStore.close, Except.ok.injEq] at closed
    subst closed
    exact ⟨rfl, fun _ => rfl⟩
  kept {tally after entry notices stops} kept := by
    have tables := accept_tables tally.database entry
    simp only [Sink.accept, Acceptance.kept.injEq] at kept
    obtain ⟨rfl, -, -⟩ := kept
    constructor
    · simp [RootStore.isClosed, tables.1]
    · intro root
      simp [LawfulStore.holds, tables.2]

end Tally

end Sitemaps
