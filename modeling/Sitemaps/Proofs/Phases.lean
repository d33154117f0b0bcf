import Sitemaps.Proofs.Tour

/-!
The phases of a job and the claim on its root. Three phases take the claim or give it back; in all
others a step drifts.
-/

namespace Sitemaps

namespace Phase

def holds : Phase → Bool
  | .gathering | .walking _ | .closing _ | .finishing _ | .dropping _ => true
  | .asking | .entering | .done | .panicked => false

def isDone : Phase → Bool
  | .done => true
  | _ => false

def gathers : Phase → Bool
  | .gathering => true
  | _ => false

/-- Whether the job asked for its explicit locations and has not given its claim back since. -/
def isOut : Phase → Bool
  | .walking _ | .closing _ | .finishing _ | .dropping _ => true
  | .asking | .entering | .gathering | .done | .panicked => false

/-- Whether the next step takes the claim or gives it back. -/
def turnsClaim : Phase → Bool
  | .entering | .finishing _ | .dropping _ => true
  | _ => false

theorem isDone_iff {phase : Phase} : phase.isDone = true ↔ phase = .done := by
  cases phase <;> simp [isDone]

end Phase

namespace Job

variable {σ : Type}

/-- The locations known when the job sets out; none if asking for them panics. -/
def explicit? [RootStore σ] (job : Job) (setting : Setting) (crawl : Crawl σ) :
    Option (List String) :=
  if job.readsRobots then
    (Robots.fetch setting.web job.root crawl).1.map (job.given ++ ·)
  else some job.given

def locations (job : Job) (setting : Setting) (explicit : List String) : List String :=
  candidates explicit job.root setting.paths job.startOnly

variable (job : Job) (setting : Setting) (crawl : Crawl σ)

theorem setOut_note (explicit : List String) :
    ∃ notices, job.setOut setting explicit crawl =
      (.walking (.start (job.locations setting explicit)), crawl.note notices) := by
  unfold setOut
  dsimp only
  split
  · exact ⟨_, rfl⟩
  · exact ⟨[], rfl⟩

variable [RootStore σ]

theorem gather_phase : (job.gather setting crawl).1 =
    match job.explicit? setting crawl with
    | none => .dropping true
    | some explicit => .walking (.start (job.locations setting explicit)) := by
  unfold gather explicit?
  split
  · split
    · rename_i later asked
      simp [asked]
    · rename_i declared later asked
      simp [asked, setOut, locations]
  · rfl

theorem gather_holds : (job.gather setting crawl).1.holds = true := by
  rw [gather_phase]
  split <;> rfl

theorem robots_note (web : Web) (root : Root) : ∃ notices,
    (Robots.fetch web root crawl).2 =
      (crawl.request web (Robots.location root)).2.note notices := by
  unfold Robots.fetch
  split
  · rename_i later request
    exact ⟨[], by rw [request]; rfl⟩
  · rename_i result later request
    exact ⟨_, by rw [request]⟩

theorem gather_note : ∃ notices, (job.gather setting crawl).2 =
    (if job.readsRobots then (crawl.request setting.web (Robots.location job.root)).2
      else crawl).note notices := by
  unfold gather
  split
  · obtain ⟨first, asked⟩ := robots_note crawl setting.web job.root
    split
    · rename_i later robots
      rw [robots] at asked
      exact ⟨first, asked⟩
    · rename_i declared later robots
      rw [robots] at asked
      obtain ⟨second, out⟩ := setOut_note job setting later (job.given ++ declared)
      rw [out]
      simp only at asked
      rw [asked, Crawl.note_note]
      exact ⟨first ++ second, rfl⟩
  · obtain ⟨notices, out⟩ := setOut_note job setting crawl job.given
    rw [out]
    exact ⟨notices, rfl⟩

theorem gather_disk : (job.gather setting crawl).2.disk = crawl.disk := by
  obtain ⟨notices, gathered⟩ := gather_note job setting crawl
  rw [gathered]
  split
  · exact Crawl.request_disk crawl setting.web _
  · rfl

variable [Sink σ]

theorem gather_drift : crawl.Drift (job.gather setting crawl).2 := by
  obtain ⟨notices, gathered⟩ := gather_note job setting crawl
  rw [gathered]
  refine .trans ?_ (.note _ notices)
  split
  · exact Crawl.request_drift crawl setting.web (Robots.location job.root)
  · exact .refl crawl

/-- Outside the phases that turn the claim, a job drifts and keeps the claim or stays without. -/
theorem step_drift {phase : Phase} (quiet : phase.turnsClaim = false) :
    crawl.Drift (job.step setting phase crawl).2 ∧
      (job.step setting phase crawl).1.holds = phase.holds := by
  cases phase with
  | asking =>
    simp only [step]
    split
    · exact ⟨.note crawl _, rfl⟩
    · exact ⟨.refl crawl, rfl⟩
  | gathering => exact ⟨gather_drift job setting crawl, gather_holds job setting crawl⟩
  | walking walk =>
    have drift := Walk.step_drift walk setting crawl
    simp only [step]
    split
    · rename_i after later turn
      rw [turn] at drift
      exact ⟨drift, rfl⟩
    · rename_i visited later turn
      rw [turn] at drift
      exact ⟨drift, rfl⟩
    · rename_i later turn
      rw [turn] at drift
      exact ⟨drift, rfl⟩
  | closing visited =>
    simp only [step]
    split
    · exact ⟨.note crawl _, rfl⟩
    · exact ⟨.refl crawl, rfl⟩
  | entering => cases quiet
  | finishing visited => cases quiet
  | dropping panics => cases quiet
  | done => exact ⟨.refl crawl, rfl⟩
  | panicked => exact ⟨.refl crawl, rfl⟩

theorem step_fetched {phase : Phase} (free : phase.holds = false) :
    (job.step setting phase crawl).2.journal.fetched = crawl.journal.fetched := by
  cases phase with
  | asking =>
    simp only [step]
    split
    · simp
    · rfl
  | entering =>
    simp only [step, Crawl.enter]
    split <;> simp [Crawl.log, Journal.fetched_cons]
  | done => rfl
  | panicked => rfl
  | _ => cases free

theorem step_isOut {phase : Phase} (quiet : phase.turnsClaim = false)
    (going : crawl.stopped = false) (unbroken : (job.step setting phase crawl).1 ≠ .dropping true) :
    (∀ panics, (job.step setting phase crawl).1 ≠ .dropping panics) ∧
      (job.step setting phase crawl).1.isOut = (phase.gathers || phase.isOut) ∧
      ((job.step setting phase crawl).1 = .done → phase = .done) := by
  cases phase with
  | asking => simp [step, going, Phase.isOut, Phase.gathers]
  | gathering =>
    have gathered := gather_phase job setting crawl
    simp only [step] at unbroken ⊢
    rw [gathered] at unbroken ⊢
    split at unbroken
    · exact absurd rfl unbroken
    · simp [Phase.isOut, Phase.gathers]
  | walking walk =>
    simp only [step] at unbroken ⊢
    split at unbroken
    · simp [Phase.isOut, Phase.gathers]
    · simp [Phase.isOut, Phase.gathers]
    · exact absurd rfl unbroken
  | closing visited => simp [step, going, Phase.isOut, Phase.gathers]
  | done => simp [step, Phase.isOut, Phase.gathers]
  | panicked => simp [step, Phase.isOut, Phase.gathers]
  | entering => cases quiet
  | finishing visited => cases quiet
  | dropping panics => cases quiet

end Job

namespace Desk

variable {σ : Type} [RootStore σ]

theorem isTaken_iff (desk : Desk σ) (root : Root) : (desk.isTaken root).1 = true ↔
    root ∈ desk.guard.active ∨ root ∈ desk.guard.finished ∨ (desk.recorded root).1 = true := by
  unfold isTaken
  split
  · rename_i known
    simp only [Bool.or_eq_true, List.contains_iff_mem] at known
    simp only [true_iff]
    rcases known with active | finished
    · exact Or.inl active
    · exact Or.inr (Or.inl finished)
  · rename_i unknown
    simp only [Bool.or_eq_true, List.contains_iff_mem, not_or] at unknown
    simp [unknown.1, unknown.2]

theorem recorded_iff (desk : Desk σ) (root : Root) : (desk.recorded root).1 = true ↔
    RootStore.isResolved desk.store root = .ok true := by
  unfold recorded
  split
  · rename_i resolved read
    rw [read, Except.ok.injEq]
  · rename_i fault read
    simp [read]

theorem recorded_eq [lawful : LawfulStore σ] (desk : Desk σ) (root : Root) :
    (desk.recorded root).1 = (!RootStore.isClosed desk.store && lawful.holds desk.store root) := by
  unfold recorded
  rw [lawful.read]
  cases closed : RootStore.isClosed desk.store <;> simp

theorem mem_deactivate {guard : Guard} {root other : Root} :
    other ∈ (deactivate guard root).active ↔ other ∈ guard.active ∧ other ≠ root := by
  simp [deactivate, List.mem_filter]

theorem claim_outcome (desk : Desk σ) (root : Root) :
    (desk.isTaken root).1 = true ∧ (desk.claim root).1 = false ∧ (desk.claim root).2.1 = desk ∨
      (desk.isTaken root).1 = false ∧ (desk.claim root).1 = true ∧
        (desk.claim root).2.1 = desk.activate root := by
  unfold claim
  cases taken : (desk.isTaken root).1 with
  | true => exact Or.inl ⟨rfl, by simp [taken], by simp [taken]⟩
  | false => exact Or.inr ⟨rfl, by simp [taken], by simp [taken]⟩

theorem finish_guard (desk : Desk σ) (root : Root) : (desk.finish root).1.guard =
    deactivate { desk.guard with finished := root :: desk.guard.finished } root := by
  unfold finish
  split <;> rfl

theorem finish_store (desk : Desk σ) (root : Root) :
    RootStore.markResolved desk.store root = .ok (desk.finish root).1.store ∨
      (∃ fault, RootStore.markResolved desk.store root = .error fault) ∧
        (desk.finish root).1.store = desk.store := by
  unfold finish
  split
  · rename_i store marked
    exact Or.inl marked
  · rename_i fault refused
    exact Or.inr ⟨⟨fault, refused⟩, rfl⟩

end Desk

namespace Crawl

variable {σ : Type} (crawl : Crawl σ) (root : Root)

theorem drop_desk : (crawl.drop root).desk =
    { crawl.desk with guard := Desk.deactivate crawl.desk.guard root } := rfl

variable [RootStore σ]

theorem enter_outcome :
    ((crawl.desk.isTaken root).1 = true ∧ (crawl.enter root).1 = false ∧
      (crawl.enter root).2.desk = crawl.desk) ∨
    ((crawl.desk.isTaken root).1 = false ∧ (crawl.enter root).1 = true ∧
      (crawl.enter root).2.desk = crawl.desk.activate root) := by
  have desk : (crawl.enter root).2.desk = (crawl.desk.claim root).2.1 := by
    unfold enter
    dsimp only
    split <;> rfl
  rw [desk]
  exact crawl.desk.claim_outcome root

theorem enter_store : (crawl.enter root).2.desk.store = crawl.desk.store := by
  rcases enter_outcome crawl root with ⟨-, -, same⟩ | ⟨-, -, active⟩
  · rw [same]
  · rw [active]
    rfl

theorem enter_stopped : (crawl.enter root).2.stopped = crawl.stopped := by
  unfold stopped
  rcases enter_outcome crawl root with ⟨-, -, same⟩ | ⟨-, -, active⟩
  · rw [same]
  · rw [active]
    rfl

theorem enter_rest : (crawl.enter root).2.elder = crawl.elder ∧
    (crawl.enter root).2.disk = crawl.disk := by
  unfold enter Desk.claim
  dsimp only
  split <;> exact ⟨rfl, rfl⟩

theorem finish_guard : (crawl.finish root).desk.guard =
    Desk.deactivate
      { crawl.desk.guard with finished := root :: crawl.desk.guard.finished } root :=
  crawl.desk.finish_guard root

theorem finish_store : RootStore.markResolved crawl.desk.store root =
      .ok (crawl.finish root).desk.store ∨
    (∃ fault, RootStore.markResolved crawl.desk.store root = .error fault) ∧
      (crawl.finish root).desk.store = crawl.desk.store :=
  crawl.desk.finish_store root

theorem finish_recorded [LawfulStore σ] :
    (∀ other, (crawl.desk.recorded other).1 = true →
      ((crawl.finish root).desk.recorded other).1 = true) ∧
    ∀ other, ((crawl.finish root).desk.recorded other).1 = true →
      other = root ∨ (crawl.desk.recorded other).1 = true := by
  rcases finish_store crawl root with marked | ⟨-, same⟩
  · obtain ⟨before, after, holds⟩ := LawfulStore.marked marked
    simp only [Desk.recorded_eq, before, after, holds, Bool.and_eq_true, Bool.or_eq_true,
      decide_eq_true_eq]
    constructor
    · rintro other ⟨opened, held⟩
      exact ⟨opened, Or.inr held⟩
    · rintro other ⟨opened, marked | held⟩
      · exact Or.inl marked
      · exact Or.inr ⟨opened, held⟩
  · simp only [Desk.recorded_eq, same]
    exact ⟨fun _ => id, fun _ => Or.inr⟩

theorem finish_stopped : (crawl.finish root).stopped = crawl.stopped := by
  unfold stopped
  rw [finish_guard]
  rfl

end Crawl

theorem Job.step_stopped {σ : Type} [RootStore σ] [Sink σ] (job : Job) (setting : Setting)
    (crawl : Crawl σ) (phase : Phase) (stopped : crawl.stopped = true) :
    (job.step setting phase crawl).2.stopped = true := by
  cases phase with
  | entering => exact (Crawl.enter_stopped crawl job.root).trans stopped
  | finishing visited => exact (Crawl.finish_stopped crawl job.root).trans stopped
  | dropping panics => exact stopped
  | _ => exact (step_drift job setting crawl rfl).1.stopped stopped

theorem Job.step_finished {σ : Type} [RootStore σ] [Sink σ] (job : Job) (setting : Setting)
    (crawl : Crawl σ) (phase : Phase) {root : Root} (finished : root ∈ crawl.desk.guard.finished) :
    root ∈ (job.step setting phase crawl).2.desk.guard.finished := by
  cases phase with
  | entering =>
    simp only [step]
    rcases Crawl.enter_outcome crawl job.root with ⟨-, -, same⟩ | ⟨-, -, active⟩
    · rw [same]
      exact finished
    · rw [active]
      exact finished
  | finishing visited =>
    simp only [step, Crawl.info, Crawl.note_desk, Crawl.finish_guard]
    exact List.mem_cons_of_mem _ finished
  | dropping panics => exact finished
  | _ =>
    rw [(step_drift job setting crawl rfl).1.finished]
    exact finished

theorem Job.step_recorded {σ : Type} [RootStore σ] [Sink σ] [lawful : LawfulSink σ] (job : Job)
    (setting : Setting) (crawl : Crawl σ) (phase : Phase) {root : Root}
    (fresh : lawful.holds crawl.desk.store root = false)
    (now : lawful.holds (job.step setting phase crawl).2.desk.store root = true) :
    root = job.root ∧ RootStore.isClosed crawl.desk.store = false ∧
      ∃ visited, phase = .finishing visited := by
  cases phase with
  | entering =>
    simp only [step] at now
    rw [Crawl.enter_store, fresh] at now
    cases now
  | finishing visited =>
    have now : lawful.holds (crawl.finish job.root).desk.store root = true := now
    rcases Crawl.finish_store crawl job.root with marked | ⟨-, same⟩
    · obtain ⟨opened, -, holds⟩ := lawful.marked marked
      rw [holds, fresh, Bool.or_false, decide_eq_true_eq] at now
      exact ⟨now, opened, visited, rfl⟩
    · rw [same, fresh] at now
      cases now
  | dropping panics =>
    have now : lawful.holds crawl.desk.store root = true := now
    rw [fresh] at now
    cases now
  | _ =>
    rw [(step_drift job setting crawl rfl).1.store.holds, fresh] at now
    cases now

end Sitemaps
