import Sitemaps.Crawl.Job
import Sitemaps.Proofs.Records

/-!
What the operations of a crawl do to what is shared. A walk drifts: it may raise the flag, close the
record and hand entries over, but claims and finished roots stay as they are.
-/

namespace Sitemaps

/-- A store reached by handing entries over and, where that may happen, by closing. -/
inductive Touched {σ : Type} [RootStore σ] [Sink σ] (closes : Prop) (first : σ) : σ → Prop
  | same : Touched closes first first
  | closed {store after : σ} : Touched closes first store → closes →
      RootStore.close store = .ok after → Touched closes first after
  | kept {store after : σ} {entry : Sitemap.Entry} {notices : List Notice} {stops : Bool} :
      Touched closes first store → Sink.accept store entry = .kept after notices stops →
      Touched closes first after

namespace Touched

variable {σ : Type} [RootStore σ] [Sink σ] {closes : Prop} {first second third : σ}

theorem weaken {weaker : Prop} (touched : Touched closes first second) (may : closes → weaker) :
    Touched weaker first second := by
  induction touched with
  | same => exact .same
  | closed _ closes made ih => exact .closed ih (may closes) made
  | kept _ made ih => exact .kept ih made

theorem trans (before : Touched closes first second) (after : Touched closes second third) :
    Touched closes first third := by
  induction after with
  | same => exact before
  | closed _ closes made ih => exact .closed ih closes made
  | kept _ made ih => exact .kept ih made

theorem holds [lawful : LawfulSink σ] (touched : Touched closes first second) (root : Root) :
    lawful.holds second root = lawful.holds first root := by
  induction touched with
  | same => rfl
  | closed _ _ made ih => rw [(lawful.closed made).2, ih]
  | kept _ made ih => rw [(lawful.kept made).2, ih]

theorem isClosed [lawful : LawfulSink σ] (touched : Touched closes first second)
    (never : ¬ closes) : RootStore.isClosed second = RootStore.isClosed first := by
  induction touched with
  | same => rfl
  | closed _ closes _ _ => exact absurd closes never
  | kept _ made ih => rw [(lawful.kept made).1, ih]

end Touched

namespace Journal

theorem fetched_cons (event : Event) (journal : Journal) :
    Journal.fetched (event :: journal) = journal.fetched ++
      match event with
      | .fetched location => [location]
      | _ => [] := by
  unfold fetched
  rw [List.reverse_cons, List.filterMap_append]
  cases event <;> rfl

theorem accepted_cons (event : Event) (journal : Journal) :
    Journal.accepted (event :: journal) = journal.accepted ++
      match event with
      | .accepted entry => [entry]
      | _ => [] := by
  unfold accepted
  rw [List.reverse_cons, List.filterMap_append]
  cases event <;> rfl

@[simp] theorem fetched_note (journal : Journal) (notices : List Notice) :
    (journal.note notices).fetched = journal.fetched := by
  unfold note
  induction notices generalizing journal with
  | nil => rfl
  | cons notice rest ih =>
    rw [List.map_cons, List.reverse_cons, List.append_assoc, List.singleton_append, ih,
      fetched_cons, List.append_nil]

@[simp] theorem accepted_note (journal : Journal) (notices : List Notice) :
    (journal.note notices).accepted = journal.accepted := by
  unfold note
  induction notices generalizing journal with
  | nil => rfl
  | cons notice rest ih =>
    rw [List.map_cons, List.reverse_cons, List.append_assoc, List.singleton_append, ih,
      accepted_cons, List.append_nil]

theorem requests_eq (journal : Journal) (location : String) :
    journal.requests location = journal.fetched.count location := by
  unfold requests
  induction journal with
  | nil => rfl
  | cons event journal ih =>
    rw [fetched_cons, List.count_append, List.count_cons, ih]
    cases event with
    | fetched other =>
      by_cases same : other = location
      · simp [same]
      · simp [same]
    | _ => simp

end Journal

namespace Desk

variable {σ : Type} [RootStore σ] (desk : Desk σ)

theorem shutdown_guard : desk.shutdown.1.guard = { desk.guard with stopped := true } := by
  unfold shutdown
  split
  · rename_i stopped
    rw [← stopped]
  · unfold closeStore raise
    cases RootStore.close desk.store <;> rfl

theorem shutdown_store : desk.shutdown.1.store = desk.store ∨
    RootStore.close desk.store = .ok desk.shutdown.1.store := by
  unfold shutdown
  split
  · exact Or.inl rfl
  · unfold closeStore raise
    cases RootStore.close desk.store with
    | ok store => exact Or.inr rfl
    | error fault => exact Or.inl rfl

end Desk

namespace Crawl

variable {σ : Type}

theorem note_note (crawl : Crawl σ) (first second : List Notice) :
    (crawl.note first).note second = crawl.note (first ++ second) := by
  simp [note, Journal.note]

@[simp] theorem note_desk (crawl : Crawl σ) (notices : List Notice) :
    (crawl.note notices).desk = crawl.desk := rfl

@[simp] theorem note_disk (crawl : Crawl σ) (notices : List Notice) :
    (crawl.note notices).disk = crawl.disk := rfl

@[simp] theorem note_stopped (crawl : Crawl σ) (notices : List Notice) :
    (crawl.note notices).stopped = crawl.stopped := rfl

@[simp] theorem note_journal (crawl : Crawl σ) (notices : List Notice) :
    (crawl.note notices).journal = crawl.journal.note notices := rfl

variable [RootStore σ]

@[simp] theorem shutdown_disk (crawl : Crawl σ) : crawl.shutdown.disk = crawl.disk := rfl

@[simp] theorem shutdown_fetched (crawl : Crawl σ) :
    crawl.shutdown.journal.fetched = crawl.journal.fetched :=
  Journal.fetched_note crawl.journal _

@[simp] theorem shutdown_accepted (crawl : Crawl σ) :
    crawl.shutdown.journal.accepted = crawl.journal.accepted :=
  Journal.accepted_note crawl.journal _

theorem stopFromOutside_note (crawl : Crawl σ) :
    ∃ notices, crawl.stopFromOutside.disk = crawl.disk ∧
      crawl.stopFromOutside.journal = crawl.journal.note notices := by
  unfold stopFromOutside
  split
  · exact ⟨_, rfl, rfl⟩
  · exact ⟨_, rfl, rfl⟩

section Request

variable (crawl : Crawl σ) (web : Web) (location : String)

theorem request_disk : (crawl.request web location).2.disk = crawl.disk := by
  unfold request
  simp only
  split
  · obtain ⟨notices, disk, -⟩ := stopFromOutside_note (crawl.log (.fetched location))
    exact disk
  · rfl

theorem request_journal : ∃ notices, (crawl.request web location).2.journal =
    Journal.note (.fetched location :: crawl.journal) notices := by
  unfold request
  simp only
  split
  · obtain ⟨notices, -, journal⟩ := stopFromOutside_note (crawl.log (.fetched location))
    exact ⟨notices, journal⟩
  · exact ⟨[], rfl⟩

theorem request_fetched :
    (crawl.request web location).2.journal.fetched = crawl.journal.fetched ++ [location] := by
  obtain ⟨notices, journal⟩ := request_journal crawl web location
  rw [journal, Journal.fetched_note, Journal.fetched_cons]

theorem request_accepted :
    (crawl.request web location).2.journal.accepted = crawl.journal.accepted := by
  obtain ⟨notices, journal⟩ := request_journal crawl web location
  rw [journal, Journal.accepted_note, Journal.accepted_cons, List.append_nil]

end Request

variable [Sink σ]

/-- What a walk may do to the rest: no claim comes or goes. -/
structure Drift (before after : Crawl σ) : Prop where
  active : after.desk.guard.active = before.desk.guard.active
  finished : after.desk.guard.finished = before.desk.guard.finished
  stopped : before.stopped = true → after.stopped = true
  elder : before.elder = none → after.elder = none
  journal : before.journal <:+ after.journal
  store : Touched (after.stopped = true ∨ before.elder ≠ none) before.desk.store
    after.desk.store

namespace Drift

theorem refl (crawl : Crawl σ) : Drift crawl crawl :=
  ⟨rfl, rfl, id, id, List.suffix_refl _, .same⟩

theorem trans {before between after : Crawl σ} (first : Drift before between)
    (second : Drift between after) : Drift before after where
  active := second.active.trans first.active
  finished := second.finished.trans first.finished
  stopped := second.stopped ∘ first.stopped
  elder := second.elder ∘ first.elder
  journal := first.journal.trans second.journal
  store := by
    refine (first.store.weaken ?_).trans (second.store.weaken ?_)
    · rintro (stopped | elder)
      · exact Or.inl (second.stopped stopped)
      · exact Or.inr elder
    · rintro (stopped | elder)
      · exact Or.inl stopped
      · exact Or.inr fun none => elder (first.elder none)

theorem of_desk {before after : Crawl σ} (desk : after.desk = before.desk)
    (elder : after.elder = before.elder) (journal : before.journal <:+ after.journal) :
    Drift before after := by
  refine ⟨by rw [desk], by rw [desk], ?_, by rw [elder]; exact id, journal,
    by rw [desk]; exact .same⟩
  unfold Crawl.stopped
  rw [desk]
  exact id

theorem note (crawl : Crawl σ) (notices : List Notice) : Drift crawl (crawl.note notices) :=
  of_desk rfl rfl (List.suffix_append _ _)

end Drift

theorem shutdown_desk (desk : Desk σ) :
    desk.shutdown.1.guard = { desk.guard with stopped := true } ∧
      Touched True desk.store desk.shutdown.1.store := by
  refine ⟨desk.shutdown_guard, ?_⟩
  rcases desk.shutdown_store with same | closed
  · rw [same]
    exact .same
  · exact .closed .same trivial closed

theorem shutdown_stopped (crawl : Crawl σ) : crawl.shutdown.stopped = true := by
  unfold Crawl.shutdown
  simp only [note_stopped]
  unfold Crawl.stopped
  rw [(shutdown_desk (σ := σ) crawl.desk).1]

theorem shutdown_drift (crawl : Crawl σ) : Drift crawl crawl.shutdown where
  active := (congrArg Guard.active (shutdown_desk crawl.desk).1 :)
  finished := (congrArg Guard.finished (shutdown_desk crawl.desk).1 :)
  stopped _ := shutdown_stopped crawl
  elder := id
  journal := List.suffix_append _ _
  store := (shutdown_desk crawl.desk).2.weaken fun _ => Or.inl (shutdown_stopped crawl)

theorem stopFromOutside_drift (crawl : Crawl σ) : Drift crawl crawl.stopFromOutside := by
  unfold stopFromOutside
  split
  · exact shutdown_drift crawl
  · rename_i guard elder
    have other : crawl.elder ≠ none := by simp [elder]
    refine ⟨rfl, rfl, id, fun none => absurd none other, List.suffix_append _ _, ?_⟩
    exact (shutdown_desk { crawl.desk with guard := guard }).2.weaken fun _ => Or.inr other

theorem request_drift (crawl : Crawl σ) (web : Web) (location : String) :
    Drift crawl (crawl.request web location).2 := by
  have asked : Drift crawl (crawl.log (.fetched location)) :=
    .of_desk rfl rfl (List.suffix_cons _ _)
  unfold request
  simp only
  split
  · exact asked.trans (stopFromOutside_drift _)
  · exact asked

section Accept

variable {crawl later : Crawl σ} {entry : Sitemap.Entry}

theorem accept_kept (accepted : crawl.accept entry = some later) :
    ∃ store notices stops, Sink.accept crawl.desk.store entry = .kept store notices stops ∧
      later = if stops then (({ crawl with desk := { crawl.desk with store := store } }.log
        (.accepted entry)).note notices).shutdown
      else ({ crawl with desk := { crawl.desk with store := store } }.log
        (.accepted entry)).note notices := by
  unfold accept at accepted
  split at accepted
  · cases accepted
  · rename_i store notices stops kept
    exact ⟨store, notices, stops, kept, (Option.some.inj accepted).symm⟩

theorem accept_drift (accepted : crawl.accept entry = some later) : Drift crawl later := by
  obtain ⟨store, notices, stops, kept, rfl⟩ := accept_kept accepted
  have stored : Drift crawl (({ crawl with desk := { crawl.desk with store := store } }.log
      (.accepted entry)).note notices) :=
    ⟨rfl, rfl, id, id, (List.suffix_cons _ _).trans (List.suffix_append _ _), .kept .same kept⟩
  split
  · exact stored.trans (shutdown_drift _)
  · exact stored

theorem accept_disk (accepted : crawl.accept entry = some later) : later.disk = crawl.disk := by
  obtain ⟨store, notices, stops, -, rfl⟩ := accept_kept accepted
  split <;> rfl

theorem accept_fetched (accepted : crawl.accept entry = some later) :
    later.journal.fetched = crawl.journal.fetched := by
  obtain ⟨store, notices, stops, -, rfl⟩ := accept_kept accepted
  split <;> simp [log, Journal.fetched_cons]

theorem accept_accepted (accepted : crawl.accept entry = some later) :
    later.journal.accepted = crawl.journal.accepted ++ [entry] := by
  obtain ⟨store, notices, stops, -, rfl⟩ := accept_kept accepted
  split <;> simp [log, Journal.accepted_cons]

end Accept

end Crawl

end Sitemaps
