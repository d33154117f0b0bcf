import Sitemaps.Proofs.Moments

/-!
What grows in the course of a run: the journal, the pages of the database and the stop. A database
that is open was never closed.
-/

namespace Sitemaps

theorem Tables.mem_insertPage {page : Page} {pages : List Page} {url : String} :
    url ∈ (insertPage page pages).map Page.url ↔ url = page.url ∨ url ∈ pages.map Page.url := by
  induction pages with
  | nil => simp [insertPage]
  | cons first rest ih =>
    unfold insertPage
    split
    · rename_i same
      simp [same]
    · rw [List.map_cons, List.mem_cons, ih, List.map_cons, List.mem_cons]
      exact or_left_comm

namespace Tally

def roots (tally : Tally) : List String := tally.database.tables.roots

def urls (tally : Tally) : List String := tally.database.tables.pages.map Page.url

theorem holds_iff (tally : Tally) (text : String) :
    LawfulStore.holds tally ⟨text⟩ = true ↔ text ∈ tally.roots :=
  List.contains_iff_mem

theorem accept_urls (tally : Tally) (entry : Sitemap.Entry) {after : Tally}
    {notices : List Notice} {stops : Bool}
    (kept : Sink.accept tally entry = .kept after notices stops) :
    after.database.isOpen = tally.database.isOpen ∧ (∀ url ∈ tally.urls, url ∈ after.urls) ∧
      (tally.database.isOpen = true → entry.reference ∈ after.urls) := by
  simp only [Sink.accept, Acceptance.kept.injEq] at kept
  obtain ⟨rfl, -, -⟩ := kept
  refine ⟨(accept_tables tally.database entry).1, ?_⟩
  unfold urls Database.accept Database.upsert Database.update
  by_cases opened : tally.database.isOpen = true
  · simp only [opened, if_true, Tables.upsert]
    constructor
    · intro url member
      exact Tables.mem_insertPage.mpr (Or.inr member)
    · intro _
      exact Tables.mem_insertPage.mpr (Or.inl rfl)
  · simp [opened]

end Tally

theorem Touched.grows {closes : Prop} {first second : Tally}
    (touched : Touched closes first second) :
    (second.database.isOpen = true → first.database.isOpen = true) ∧
      ∀ url ∈ first.urls, url ∈ second.urls := by
  induction touched with
  | same => exact ⟨id, fun _ => id⟩
  | closed _ _ closed ih =>
    cases closed
    exact ⟨nofun, ih.2⟩
  | kept _ kept ih =>
    obtain ⟨same, grown, -⟩ := Tally.accept_urls _ _ kept
    exact ⟨fun opened => ih.1 (same ▸ opened), fun url member => grown url (ih.2 url member)⟩

namespace Crawl

structure Grows (before after : Crawl Tally) : Prop where
  stopped : before.stopped = true → after.stopped = true
  isOpen : after.desk.store.database.isOpen = true → before.desk.store.database.isOpen = true
  urls : ∀ url ∈ before.desk.store.urls, url ∈ after.desk.store.urls
  journal : before.journal <:+ after.journal

variable {before between after : Crawl Tally}

theorem Grows.trans (first : before.Grows between) (second : between.Grows after) :
    before.Grows after where
  stopped := second.stopped ∘ first.stopped
  isOpen := first.isOpen ∘ second.isOpen
  urls url member := second.urls url (first.urls url member)
  journal := first.journal.trans second.journal

theorem Drift.grows (drift : before.Drift after) : before.Grows after :=
  ⟨drift.stopped, drift.store.grows.1, drift.store.grows.2, drift.journal⟩

theorem finish_grows (crawl : Crawl Tally) (root : Root) : crawl.Grows (crawl.finish root) := by
  have store : (crawl.finish root).desk.store.database.isOpen =
      crawl.desk.store.database.isOpen ∧
      (crawl.finish root).desk.store.urls = crawl.desk.store.urls := by
    rcases finish_store crawl root with marked | ⟨-, same⟩
    · obtain ⟨database, made, after⟩ := map_ok marked
      unfold Database.markResolved Database.update at made
      split at made
      · cases made
        rw [← after]
        exact ⟨rfl, rfl⟩
      · cases made
    · rw [same]
      exact ⟨rfl, rfl⟩
  refine ⟨(finish_stopped crawl root).trans, ?_, ?_, ?_⟩
  · exact store.1.symm.trans
  · rw [store.2]
    exact fun _ => id
  · exact (List.suffix_cons _ _).trans (List.suffix_append _ _)

theorem enter_grows (crawl : Crawl Tally) (root : Root) : crawl.Grows (crawl.enter root).2 := by
  refine ⟨(enter_stopped crawl root).trans, ?_, ?_, ?_⟩
  · rw [enter_store]
    exact id
  · rw [enter_store]
    exact fun _ => id
  · unfold enter
    dsimp only
    split
    · exact (List.suffix_append _ _).trans (List.suffix_cons _ _)
    · exact List.suffix_append _ _

theorem accept_stored {crawl later : Crawl Tally} {entry : Sitemap.Entry}
    (accepted : crawl.accept entry = some later)
    (opened : crawl.desk.store.database.isOpen = true) :
    entry.reference ∈ later.desk.store.urls := by
  obtain ⟨store, notices, stops, kept, rfl⟩ := accept_kept accepted
  have stored := (Tally.accept_urls _ _ kept).2.2 opened
  split
  · exact (shutdown_drift _).grows.urls _ stored
  · exact stored

end Crawl

theorem Job.step_grows (job : Job) (setting : Setting) (crawl : Crawl Tally) (phase : Phase) :
    crawl.Grows (job.step setting phase crawl).2 := by
  cases phase with
  | entering => exact Crawl.enter_grows crawl job.root
  | finishing visited =>
    exact (Crawl.finish_grows crawl job.root).trans (Crawl.Drift.note _ _).grows
  | dropping panics =>
    exact ⟨id, id, fun _ => id, (List.suffix_cons _ _).trans (List.suffix_append _ _)⟩
  | _ => exact (step_drift job setting crawl rfl).1.grows

end Sitemaps
