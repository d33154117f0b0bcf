import Sitemaps.Proofs.Traces

/-!
Workers that nobody disturbs. Whatever their schedule, every root is fresh, in the hands of one
worker or finished, and what was done for it is a first part of the script of its job; in the end
all roots that were not known are finished. So no two schedules differ in more than the order.
-/

namespace Sitemaps

namespace Duty

def holds (root : Root) : Duty → Bool
  | .resolving job phase => phase.holds && job.root == root
  | .polling | .picking | .idle | .lost => false

def deeds (setting : Setting) (crawl : Crawl Tally) : Duty → Trace
  | .resolving job phase => Trace.tag job.root (job.deeds setting phase crawl)
  | .polling | .picking | .idle | .lost => []

def asks (job : Job) : Duty → Bool
  | .resolving own .asking | .resolving own .entering => own == job
  | _ => false

def rests : Duty → Bool
  | .resolving _ phase => phase.isOver
  | .polling | .picking | .idle | .lost => true

section Rests

variable {duty : Duty} (rests : duty.rests = true)

include rests

theorem rests_holds (root : Root) : duty.holds root = false := by
  cases duty with
  | resolving job phase => cases phase <;> first | rfl | cases rests
  | _ => rfl

theorem rests_asks (job : Job) : duty.asks job = false := by
  cases duty with
  | resolving own phase => cases phase <;> first | rfl | cases rests
  | _ => rfl

theorem rests_deeds (setting : Setting) (crawl : Crawl Tally) : duty.deeds setting crawl = [] := by
  cases duty with
  | resolving job phase => cases phase <;> first | rfl | cases rests
  | _ => rfl

end Rests

end Duty

namespace Phase

def drops : Phase → Bool
  | .dropping _ => true
  | _ => false

end Phase

namespace Job

variable {job : Job} {setting : Setting} {crawl : Crawl Tally} {phase : Phase} {root : Root}

/-- Every way in which a step can deal with the claims. -/
inductive Claims (job : Job) (before after : Guard) : Phase → Prop
  | left {phase : Phase} (active : after.active = before.active)
      (finished : after.finished = before.finished)
      (unfinishing : ∀ visited, phase ≠ .finishing visited) : Claims job before after phase
  | taken (active : after.active = job.root :: before.active)
      (finished : after.finished = before.finished) : Claims job before after .entering
  | finished {visited : List String}
      (active : ∀ root, root ∈ after.active ↔ root ∈ before.active ∧ root ≠ job.root)
      (finished : after.finished = job.root :: before.finished) :
      Claims job before after (.finishing visited)
  | dropped {panics : Bool}
      (active : ∀ root, root ∈ after.active ↔ root ∈ before.active ∧ root ≠ job.root)
      (finished : after.finished = before.finished) : Claims job before after (.dropping panics)

theorem step_claims (job : Job) (setting : Setting) (phase : Phase) (crawl : Crawl Tally) :
    job.Claims crawl.desk.guard (job.step setting phase crawl).2.desk.guard phase := by
  by_cases quiet : phase.turnsClaim = false
  · have drift := (step_drift job setting crawl quiet).1
    refine .left drift.active drift.finished ?_
    rintro visited rfl
    cases quiet
  · cases phase with
    | entering =>
      rcases Crawl.enter_outcome crawl job.root with ⟨-, -, desk⟩ | ⟨-, -, desk⟩
      · have desk : (job.step setting .entering crawl).2.desk = crawl.desk := desk
        rw [desk]
        exact .left rfl rfl fun visited same => by cases same
      · have desk : (job.step setting .entering crawl).2.desk = crawl.desk.activate job.root := desk
        rw [desk]
        exact .taken rfl rfl
    | finishing visited =>
      have guard : (job.step setting (.finishing visited) crawl).2.desk.guard = Desk.deactivate
          { crawl.desk.guard with finished := job.root :: crawl.desk.guard.finished } job.root :=
        Crawl.finish_guard crawl job.root
      rw [guard]
      exact .finished (fun root => Desk.mem_deactivate) rfl
    | dropping panics => exact .dropped (fun root => Desk.mem_deactivate) rfl
    | _ => exact absurd rfl quiet

theorem step_finishes : root ∈ (job.step setting phase crawl).2.desk.guard.finished ↔
    root ∈ crawl.desk.guard.finished ∨ root = job.root ∧ ∃ visited, phase = .finishing visited := by
  have claims := job.step_claims setting phase crawl
  generalize (job.step setting phase crawl).2.desk.guard = after at claims ⊢
  cases claims with
  | left active finished unfinishing =>
    rw [finished]
    refine (or_iff_left ?_).symm
    rintro ⟨-, visited, same⟩
    exact unfinishing visited same
  | taken active finished => simp [finished]
  | finished active finished => simp [finished, or_comm]
  | dropped active finished => simp [finished]

theorem step_elsewhere (setting : Setting) (phase : Phase) (crawl : Crawl Tally)
    (apart : root ≠ job.root) :
    (root ∈ (job.step setting phase crawl).2.desk.guard.active ↔ root ∈ crawl.desk.guard.active) ∧
      (root ∈ (job.step setting phase crawl).2.desk.guard.finished ↔
        root ∈ crawl.desk.guard.finished) := by
  refine ⟨?_, step_finishes.trans (or_iff_left fun own => apart own.1)⟩
  have claims := job.step_claims setting phase crawl
  generalize (job.step setting phase crawl).2.desk.guard = after at claims ⊢
  cases claims with
  | left active finished unfinishing => rw [active]
  | taken active finished =>
    rw [active, List.mem_cons]
    exact or_iff_right apart
  | finished active finished => exact (active root).trans (and_iff_left apart)
  | dropped active finished => exact (active root).trans (and_iff_left apart)

theorem step_turned (kept : phase.drops = false)
    (turned : root ∈ crawl.desk.guard.active ∨ root ∈ crawl.desk.guard.finished) :
    root ∈ (job.step setting phase crawl).2.desk.guard.active ∨
      root ∈ (job.step setting phase crawl).2.desk.guard.finished := by
  have claims := job.step_claims setting phase crawl
  generalize (job.step setting phase crawl).2.desk.guard = after at claims ⊢
  cases claims with
  | left active finished unfinishing =>
    rw [active, finished]
    exact turned
  | taken active finished =>
    rw [active, finished]
    exact turned.imp_left (List.mem_cons_of_mem _)
  | finished active finished =>
    rw [finished, active, List.mem_cons]
    by_cases own : root = job.root
    · exact Or.inr (Or.inl own)
    · exact turned.imp (fun claimed => ⟨claimed, own⟩) Or.inr
  | dropped active finished => cases kept

theorem step_records {known : List String} {crawl : Crawl Tally} (going : crawl.stopped = false)
    (elder : crawl.elder = none) (opened : crawl.desk.store.database.isOpen = true)
    (records : ∀ text, text ∈ crawl.desk.store.roots ↔
      text ∈ known ∨ ⟨text⟩ ∈ crawl.desk.guard.finished) (text : String) :
    text ∈ (job.step setting phase crawl).2.desk.store.roots ↔
      text ∈ known ∨ ⟨text⟩ ∈ (job.step setting phase crawl).2.desk.guard.finished := by
  have marked : ∀ tables : Tables, text ∈ (job.marks phase tables).roots ↔
      text ∈ tables.roots ∨ text = job.root.text ∧ ∃ visited, phase = .finishing visited := by
    intro tables
    cases phase with
    | finishing visited => simp [Job.marks, Tables.mark, Database.mem_insertRoot, or_comm]
    | _ => simp [Job.marks]
  have same : (⟨text⟩ : Root) = job.root ↔ text = job.root.text :=
    ⟨fun eq => congrArg Root.text eq, fun eq => by cases eq; rfl⟩
  have told := records text
  rw [step_finishes, ← or_assoc, ← told, same]
  unfold Tally.roots
  rw [job.step_tally setting phase going elder opened, marked, Tables.upsertAll_roots]

end Job

/-- The journal and the tables tell what the workers did. -/
structure Ledger (before : Tables) (trace : Trace) (crawl : Crawl Tally) : Prop where
  fetched : crawl.journal.fetched = Deed.attempted trace.deeds
  pages : crawl.desk.store.database.tables.pages =
    (before.upsertAll (Deed.handed trace.deeds)).pages
  emitted : crawl.desk.store.emitted = (Deed.handed trace.deeds).length
  roots : ∀ text, text ∈ crawl.desk.store.roots ↔
    text ∈ before.roots ∨ ⟨text⟩ ∈ crawl.desk.guard.finished

namespace Ledger

variable {before : Tables} {trace : Trace} {crawl : Crawl Tally}

theorem note (ledger : Ledger before trace crawl) (notices : List Notice) :
    Ledger before trace (crawl.note notices) :=
  ⟨(Journal.fetched_note _ _).trans ledger.fetched, ledger.pages, ledger.emitted, ledger.roots⟩

theorem step {job : Job} {setting : Setting} {phase : Phase} (calm : setting.web.Calm)
    (going : crawl.stopped = false) (elder : crawl.elder = none)
    (opened : crawl.desk.store.database.isOpen = true) (ledger : Ledger before trace crawl) :
    Ledger before (trace ++ Trace.tag job.root (job.deeds setting phase crawl))
      (job.step setting phase crawl).2 := by
  have store := job.step_tally setting phase going elder opened
  have unmarked : ∀ tables, (job.marks phase tables).pages = tables.pages := by
    intro tables
    cases phase <;> rfl
  have upserted : ∀ (first second : Tables) (entries : List Sitemap.Entry),
      first.pages = second.pages → (first.upsertAll entries).pages =
        (second.upsertAll entries).pages := by
    intro first second entries same
    rw [Tables.upsertAll_eq, Tables.upsertAll_eq, same]
  refine ⟨?_, ?_, ?_, ?_⟩
  · rw [Job.step_fetches calm.sound (Tally.steady _), ledger.fetched, Trace.deeds_append,
      Trace.deeds_tag, Deed.attempted_append]
  · rw [store, Trace.deeds_append, Trace.deeds_tag, Deed.handed_append, Tables.upsertAll_append]
    simp only [unmarked]
    exact upserted _ _ _ ledger.pages
  · rw [store, Trace.deeds_append, Trace.deeds_tag, Deed.handed_append, List.length_append,
      ← ledger.emitted]
  · exact Job.step_records going elder opened ledger.roots

end Ledger

namespace Team

section Sets

variable {duties : List Duty} {id : Nat} {duty other after : Duty}

theorem all_set {kept : Duty → Prop} (all : ∀ duty ∈ duties, kept duty) (own : kept after) :
    ∀ duty ∈ duties.set id after, kept duty := by
  intro duty member
  rcases List.mem_or_eq_of_mem_set member with before | rfl
  · exact all duty before
  · exact own

theorem mem_set_or (after : Duty) (found : duties[id]? = some duty) (member : other ∈ duties) :
    other = duty ∨ other ∈ duties.set id after := by
  obtain ⟨index, at_index⟩ := List.getElem?_of_mem member
  by_cases here : index = id
  · subst here
    rw [found] at at_index
    exact Or.inl (Option.some.inj at_index).symm
  · exact Or.inr (List.mem_of_getElem? ((set_other _ here).trans at_index))

theorem mem_set_own (found : duties[id]? = some duty) : after ∈ duties.set id after :=
  List.mem_set (List.getElem?_eq_some_iff.mp found).1 after

end Sets

/-- How a root stands: nobody has turned to it, one worker is at it, or it is finished. -/
inductive Status (setting : Setting) (disk : Disk) (known : List String) (jobs : List Job)
    (root : Root) (done : List Deed) (team : Team Tally) : Prop
  | fresh (free : ∀ duty ∈ team.duties, duty.holds root = false)
      (inactive : root ∉ team.crawl.desk.guard.active)
      (unfinished : root ∉ team.crawl.desk.guard.finished) (nothing : done = [])
  | worked {index : Nat} {job : Job} {phase : Phase}
      (found : team.duties[index]? = some (.resolving job phase)) (holds : phase.holds = true)
      (same : job.root = root)
      (alone : ∀ (other : Nat) (duty : Duty), other ≠ index → team.duties[other]? = some duty →
        duty.holds root = false)
      (active : root ∈ team.crawl.desk.guard.active)
      (unfinished : root ∉ team.crawl.desk.guard.finished) (unknown : root.text ∉ known)
      (stage : job.Stage setting disk done phase)
  | finished {job : Job} (free : ∀ duty ∈ team.duties, duty.holds root = false)
      (inactive : root ∉ team.crawl.desk.guard.active)
      (finished : root ∈ team.crawl.desk.guard.finished) (unknown : root.text ∉ known)
      (member : job ∈ jobs) (same : job.root = root) (whole : done = job.script setting disk)

variable {setting : Setting} {disk : Disk} {known : List String} {jobs queue : List Job}
  {root : Root} {done : List Deed} {team : Team Tally} {crawl : Crawl Tally} {id : Nat}
  {duty after : Duty} {job : Job} {phase : Phase}

theorem Status.frame (status : team.Status setting disk known jobs root done)
    (found : team.duties[id]? = some duty) (free : duty.holds root = false)
    (still : after.holds root = false)
    (active : root ∈ crawl.desk.guard.active ↔ root ∈ team.crawl.desk.guard.active)
    (finished : root ∈ crawl.desk.guard.finished ↔ root ∈ team.crawl.desk.guard.finished) :
    (⟨team.duties.set id after, queue, crawl⟩ : Team Tally).Status setting disk known jobs root
      done := by
  cases status with
  | fresh none inactive unfinished nothing =>
    exact .fresh (all_set none still) (mt active.mp inactive) (mt finished.mp unfinished) nothing
  | @worked index job phase at_index holds same alone taken unfinished unknown stage =>
    have apart : index ≠ id := by
      rintro rfl
      rw [found] at at_index
      cases at_index
      simp [Duty.holds, holds, same] at free
    refine .worked ((set_other _ apart).trans at_index) holds same ?_
      (active.mpr taken) (mt finished.mp unfinished) unknown stage
    intro other duty elsewhere at_other
    rcases set_found at_other with ⟨-, rfl⟩ | ⟨-, before⟩
    · exact still
    · exact alone other duty elsewhere before
  | finished none inactive done unknown member same whole =>
    exact .finished (all_set none still) (mt active.mp inactive) (finished.mpr done) unknown member
      same whole

theorem Status.own (status : team.Status setting disk known jobs job.root done)
    (found : team.duties[id]? = some (.resolving job phase)) (holds : phase.holds = true) :
    (∀ (other : Nat) (duty : Duty), other ≠ id → team.duties[other]? = some duty →
      duty.holds job.root = false) ∧
    job.root ∈ team.crawl.desk.guard.active ∧ job.root ∉ team.crawl.desk.guard.finished ∧
    job.root.text ∉ known ∧ job.Stage setting disk done phase := by
  have held : (Duty.resolving job phase).holds job.root = true := by simp [Duty.holds, holds]
  have not_free : ¬ ∀ duty ∈ team.duties, duty.holds job.root = false := by
    intro free
    have none := free _ (List.mem_of_getElem? found)
    rw [held] at none
    cases none
  cases status with
  | fresh free => exact absurd free not_free
  | finished free => exact absurd free not_free
  | @worked index other phase' at_index holds' same alone active unfinished unknown stage =>
    have here : id = index := by
      apply Classical.byContradiction
      intro apart
      have none := alone id _ apart found
      rw [held] at none
      cases none
    subst here
    rw [found] at at_index
    cases at_index
    exact ⟨alone, active, unfinished, unknown, stage⟩

/-- The claim is granted on a root that is fresh and not known, and refused on any other. -/
theorem Status.enter (opened : team.crawl.desk.store.database.isOpen = true)
    (roots : ∀ text, text ∈ team.crawl.desk.store.roots ↔
      text ∈ known ∨ ⟨text⟩ ∈ team.crawl.desk.guard.finished)
    (found : team.duties[id]? = some (.resolving job .entering))
    (status : team.Status setting disk known jobs job.root done) :
    let next := job.step setting .entering team.crawl
    (⟨team.duties.set id (.resolving job next.1), team.queue, next.2⟩ : Team Tally).Status setting
      disk known jobs job.root done := by
  intro next
  have free : (Duty.resolving job .entering).holds job.root = false := rfl
  rcases Crawl.enter_outcome team.crawl job.root with ⟨-, refused, desk⟩ | ⟨untaken, granted, desk⟩
  · have phase : next.1 = .done := by simp [next, Job.step, refused]
    have desk : next.2.desk = team.crawl.desk := desk
    rw [phase]
    exact status.frame found free rfl (by rw [desk]) (by rw [desk])
  · have phase : next.1 = .gathering := by simp [next, Job.step, granted]
    have desk : next.2.desk = team.crawl.desk.activate job.root := desk
    have taken := Desk.isTaken_iff team.crawl.desk job.root
    rw [untaken, Desk.recorded_tally opened] at taken
    simp only [Bool.false_eq_true, false_iff, not_or] at taken
    obtain ⟨inactive, unfinished, unrecorded⟩ := taken
    rw [phase]
    cases status with
    | worked at_index holds same alone active => exact absurd active inactive
    | finished none inactive finished => exact absurd finished unfinished
    | fresh none inactive unfinished nothing =>
      refine .worked (set_self _ found) rfl rfl ?_ ?_ ?_ ?_ nothing
      · intro other duty apart at_other
        exact none duty (List.mem_of_getElem? ((set_other _ apart).symm.trans at_other))
      · rw [desk]
        exact List.mem_cons_self
      · rw [desk]
        exact unfinished
      · exact fun known => unrecorded ((roots _).mpr (Or.inl known))

theorem Status.work (constant : setting.web.Constant) (calm : setting.web.Calm)
    (alike : disk.Alike setting.staging.place team.crawl.disk) (going : team.crawl.stopped = false)
    (opened : team.crawl.desk.store.database.isOpen = true)
    (roots : ∀ text, text ∈ team.crawl.desk.store.roots ↔
      text ∈ known ∨ ⟨text⟩ ∈ team.crawl.desk.guard.finished)
    (found : team.duties[id]? = some (.resolving job phase)) (more : phase.isOver = false)
    (member : job ∈ jobs) (status : team.Status setting disk known jobs job.root done) :
    let next := job.step setting phase team.crawl
    (⟨team.duties.set id (.resolving job next.1), team.queue, next.2⟩ : Team Tally).Status setting
      disk known jobs job.root (done ++ job.deeds setting phase team.crawl) := by
  intro next
  -- the phases between taking the claim and finishing
  have onward : phase.turnsClaim = false → phase.holds = true →
      (⟨team.duties.set id (.resolving job next.1), team.queue, next.2⟩ : Team Tally).Status setting
        disk known jobs job.root (done ++ job.deeds setting phase team.crawl) := by
    intro quiet holds
    obtain ⟨alone, active, unfinished, unknown, stage⟩ := status.own found holds
    obtain ⟨drift, same⟩ := job.step_drift setting team.crawl quiet
    refine .worked (set_self _ found) (same.trans holds) rfl ?_ (drift.active ▸ active)
      (drift.finished ▸ unfinished) unknown
      (stage.step constant calm.sound (Tally.steady _) alike going)
    intro other duty apart at_other
    exact alone other duty apart ((set_other _ apart).symm.trans at_other)
  cases phase with
  | asking =>
    have asked : job.step setting .asking team.crawl = (.entering, team.crawl) := by
      simp [Job.step, going]
    simp only [next, asked, Job.deeds, List.append_nil]
    exact status.frame found rfl rfl Iff.rfl Iff.rfl
  | entering =>
    rw [show job.deeds setting .entering team.crawl = [] from rfl, List.append_nil]
    exact status.enter opened roots found
  | gathering => exact onward rfl rfl
  | walking walk => exact onward rfl rfl
  | closing visited => exact onward rfl rfl
  | finishing visited =>
    obtain ⟨alone, -, -, unknown, stage⟩ := status.own found rfl
    rw [show job.deeds setting (.finishing visited) team.crawl = [] from rfl, List.append_nil]
    refine .finished ?_ ?_ ?_ unknown member rfl stage
    · intro duty at_duty
      obtain ⟨other, at_other⟩ := List.getElem?_of_mem at_duty
      rcases set_found at_other with ⟨-, rfl⟩ | ⟨apart, before⟩
      · rfl
      · exact alone other duty apart before
    · intro active
      have active : job.root ∈ (team.crawl.finish job.root).desk.guard.active := active
      rw [Crawl.finish_guard, Desk.mem_deactivate] at active
      exact active.2 rfl
    · exact Job.step_finishes.mpr (Or.inr ⟨rfl, visited, rfl⟩)
  | dropping panics => exact (status.own found rfl).2.2.2.2.elim
  | done => cases more
  | panicked => cases more

structure Calm (setting : Setting) (disk : Disk) (team : Team Tally) : Prop where
  unbroken : ∀ duty ∈ team.duties, duty.isSound = true
  placed : ∀ duty ∈ team.duties, duty.Placed setting.staging.place
  alike : disk.Alike setting.staging.place team.crawl.disk
  elder : team.crawl.elder = none
  going : team.crawl.stopped = false
  opened : team.crawl.desk.store.database.isOpen = true

theorem Calm.step (id : Nat) (quiet : setting.web.Calm) (calm : team.Calm setting disk) :
    (team.step setting id).Calm setting disk := by
  unfold Team.step
  cases found : team.duties[id]? with
  | none => exact calm
  | some duty =>
    have member := List.mem_of_getElem? found
    let shift : Shift Tally := ⟨duty, team.queue, team.crawl⟩
    have before : shift.Sound setting disk :=
      ⟨calm.unbroken duty member, calm.placed duty member, calm.alike, calm.elder⟩
    have sound := before.step id quiet.sound
    have going : (shift.step setting id).crawl.stopped = false :=
      (Shift.step_going id quiet).trans calm.going
    exact ⟨all_set calm.unbroken sound.unbroken, all_set calm.placed sound.placed, sound.alike,
      sound.elder, going, Shift.step_opened id calm.going calm.elder calm.opened going⟩

def Turned (known : List String) (root : Root) (crawl : Crawl Tally) : Prop :=
  root.text ∈ known ∨ root ∈ crawl.desk.guard.active ∨ root ∈ crawl.desk.guard.finished

/-- No job gets lost: it waits in the queue or with a worker until somebody turns to its root. -/
structure Assigned (known : List String) (jobs : List Job) (team : Team Tally) : Prop where
  staffed : team.duties ≠ []
  queue : ∀ job ∈ team.queue, job ∈ jobs
  duties : ∀ job phase, .resolving job phase ∈ team.duties → job ∈ jobs
  covered : ∀ job ∈ jobs, job ∈ team.queue ∨ (∃ duty ∈ team.duties, duty.asks job = true) ∨
    Turned known job.root team.crawl
  spent : .idle ∈ team.duties → team.queue = []

theorem Assigned.keep (assigned : team.Assigned known jobs) (found : team.duties[id]? = some duty)
    (desk : crawl.desk = team.crawl.desk) (rests : duty.rests = true)
    (free : ∀ job phase, after ≠ .resolving job phase) (idle : after = .idle → team.queue = []) :
    (⟨team.duties.set id after, team.queue, crawl⟩ : Team Tally).Assigned known jobs where
  staffed := by simpa using assigned.staffed
  queue := assigned.queue
  duties job phase member := by
    rcases List.mem_or_eq_of_mem_set member with before | same
    · exact assigned.duties job phase before
    · exact absurd same.symm (free job phase)
  covered job member := by
    rcases assigned.covered job member with waiting | ⟨other, at_other, asks⟩ | turned
    · exact Or.inl waiting
    · rcases mem_set_or after found at_other with rfl | still
      · rw [Duty.rests_asks rests] at asks
        cases asks
      · exact Or.inr (Or.inl ⟨other, still, asks⟩)
    · refine Or.inr (Or.inr ?_)
      unfold Turned
      rw [desk]
      exact turned
  spent member := by
    rcases List.mem_or_eq_of_mem_set member with before | same
    · exact assigned.spent before
    · exact idle same.symm

theorem Assigned.take (assigned : team.Assigned known jobs)
    (found : team.duties[id]? = some .picking) (waiting : team.queue = job :: queue) :
    (⟨team.duties.set id (.resolving job .asking), queue, team.crawl⟩ : Team Tally).Assigned known
      jobs where
  staffed := by simpa using assigned.staffed
  queue other member := assigned.queue other (waiting ▸ List.mem_cons_of_mem _ member)
  duties other phase member := by
    rcases List.mem_or_eq_of_mem_set member with before | same
    · exact assigned.duties other phase before
    · cases same
      exact assigned.queue _ (waiting ▸ List.mem_cons_self)
  covered other member := by
    rcases assigned.covered other member with queued | ⟨duty, at_duty, asks⟩ | turned
    · rw [waiting] at queued
      rcases List.mem_cons.mp queued with rfl | later
      · exact Or.inr (Or.inl ⟨_, mem_set_own found, by simp [Duty.asks]⟩)
      · exact Or.inl later
    · rcases mem_set_or (.resolving job .asking) found at_duty with rfl | still
      · cases asks
      · exact Or.inr (Or.inl ⟨duty, still, asks⟩)
    · exact Or.inr (Or.inr turned)
  spent member := by
    rcases List.mem_or_eq_of_mem_set member with before | same
    · have none := assigned.spent before
      rw [waiting] at none
      cases none
    · cases same

theorem Assigned.work (going : team.crawl.stopped = false)
    (opened : team.crawl.desk.store.database.isOpen = true)
    (roots : ∀ text, text ∈ team.crawl.desk.store.roots ↔
      text ∈ known ∨ ⟨text⟩ ∈ team.crawl.desk.guard.finished)
    (assigned : team.Assigned known jobs) (found : team.duties[id]? = some (.resolving job phase))
    (kept : phase.drops = false) :
    let next := job.step setting phase team.crawl
    (⟨team.duties.set id (.resolving job next.1), team.queue, next.2⟩ : Team Tally).Assigned known
      jobs := by
  intro next
  refine ⟨by simpa using assigned.staffed, assigned.queue, ?_, ?_, ?_⟩
  · intro other phase' member
    rcases List.mem_or_eq_of_mem_set member with before | same
    · exact assigned.duties other phase' before
    · cases same
      exact assigned.duties job phase (List.mem_of_getElem? found)
  · intro other member
    rcases assigned.covered other member with waiting | ⟨duty, at_duty, asks⟩ | turned
    · exact Or.inl waiting
    · rcases mem_set_or (.resolving job next.1) found at_duty with rfl | still
      · cases phase with
        | asking =>
          have asked : job.step setting .asking team.crawl = (.entering, team.crawl) := by
            simp [Job.step, going]
          simp only [next, asked]
          exact Or.inr (Or.inl ⟨_, mem_set_own found, asks⟩)
        | entering =>
          have same : job = other := eq_of_beq asks
          subst same
          refine Or.inr (Or.inr ?_)
          unfold Turned
          rcases Crawl.enter_outcome team.crawl job.root with ⟨taken, -, desk⟩ | ⟨-, -, desk⟩
          · have desk : next.2.desk = team.crawl.desk := desk
            rw [Desk.isTaken_iff, Desk.recorded_tally opened] at taken
            rw [desk]
            rcases taken with active | finished | recorded
            · exact Or.inr (Or.inl active)
            · exact Or.inr (Or.inr finished)
            · exact ((roots job.root.text).mp recorded).imp_right Or.inr
          · have desk : next.2.desk = team.crawl.desk.activate job.root := desk
            rw [desk]
            exact Or.inr (Or.inl List.mem_cons_self)
        | _ => cases asks
      · exact Or.inr (Or.inl ⟨duty, still, asks⟩)
    · exact Or.inr (Or.inr (turned.imp_right (Job.step_turned kept)))
  · intro member
    rcases List.mem_or_eq_of_mem_set member with before | same
    · exact assigned.spent before
    · cases same

def deeds (setting : Setting) (id : Nat) (team : Team Tally) : Trace :=
  match team.duties[id]? with
  | some duty => duty.deeds setting team.crawl
  | none => []

def trace (setting : Setting) : List Nat → Team Tally → Trace
  | [], _ => []
  | id :: ids, team => team.deeds setting id ++ trace setting ids (team.step setting id)

/-- Workers that came from the given tables with the given jobs, with what they did so far. -/
structure Concerted (setting : Setting) (disk : Disk) (before : Tables) (jobs : List Job)
    (done : Trace) (team : Team Tally) : Prop where
  calm : team.Calm setting disk
  ledger : Ledger before done team.crawl
  status : ∀ root, team.Status setting disk before.roots jobs root (done.ofRoot root)
  assigned : team.Assigned before.roots jobs

section Runs

variable {before : Tables} {did : Trace}

theorem Concerted.rest (concerted : team.Concerted setting disk before jobs did)
    (found : team.duties[id]? = some duty) (notices : List Notice) (rests : duty.rests = true)
    (still : ∀ job phase, after ≠ .resolving job phase) (idle : after = .idle → team.queue = [])
    (calm : (⟨team.duties.set id after, team.queue, team.crawl.note notices⟩ : Team Tally).Calm
      setting disk) :
    (⟨team.duties.set id after, team.queue, team.crawl.note notices⟩ : Team Tally).Concerted setting
      disk before jobs (did ++ duty.deeds setting team.crawl) := by
  have free : ∀ root, after.holds root = false := by
    intro root
    cases after with
    | resolving job phase => exact absurd rfl (still job phase)
    | _ => rfl
  rw [Duty.rests_deeds rests, List.append_nil]
  exact ⟨calm, concerted.ledger.note notices, fun root =>
    (concerted.status root).frame found (Duty.rests_holds rests root) (free root) Iff.rfl Iff.rfl,
    concerted.assigned.keep found rfl rests still idle⟩

theorem Concerted.work (constant : setting.web.Constant) (quiet : setting.web.Calm)
    (concerted : team.Concerted setting disk before jobs did)
    (found : team.duties[id]? = some (.resolving job phase)) (more : phase.isOver = false)
    (calm : (⟨team.duties.set id (.resolving job (job.step setting phase team.crawl).1), team.queue,
      (job.step setting phase team.crawl).2⟩ : Team Tally).Calm setting disk) :
    (⟨team.duties.set id (.resolving job (job.step setting phase team.crawl).1), team.queue,
      (job.step setting phase team.crawl).2⟩ : Team Tally).Concerted setting disk before jobs
        (did ++ Trace.tag job.root (job.deeds setting phase team.crawl)) := by
  obtain ⟨-, -, alike, elder, going, opened⟩ := concerted.calm
  have member := concerted.assigned.duties job phase (List.mem_of_getElem? found)
  have kept : phase.drops = false := by
    cases phase with
    | dropping panics => exact ((concerted.status job.root).own found rfl).2.2.2.2.elim
    | _ => rfl
  refine ⟨calm, concerted.ledger.step quiet going elder opened, fun root => ?_,
    concerted.assigned.work going opened concerted.ledger.roots found kept⟩
  rw [Trace.ofRoot_append, Trace.ofRoot_tag]
  by_cases own : job.root = root
  · subst own
    rw [if_pos rfl]
    exact (concerted.status job.root).work constant quiet alike going opened
      concerted.ledger.roots found more member
  · rw [if_neg own, List.append_nil]
    have elsewhere := Job.step_elsewhere setting phase team.crawl (Ne.symm own)
    exact (concerted.status root).frame found (by simp [Duty.holds, own])
      (by simp [Duty.holds, own]) elsewhere.1 elsewhere.2

/-- Whoever takes the next step, the workers stay in concert. -/
theorem Concerted.step (constant : setting.web.Constant) (quiet : setting.web.Calm)
    (concerted : team.Concerted setting disk before jobs did) (id : Nat) :
    (team.step setting id).Concerted setting disk before jobs (did ++ team.deeds setting id) := by
  have calm := concerted.calm.step id quiet
  unfold Team.step at calm ⊢
  unfold Team.deeds
  cases found : team.duties[id]? with
  | none => simpa using concerted
  | some duty =>
    simp only [found] at calm ⊢
    have outcome := Shift.step_outcome setting id ⟨duty, team.queue, team.crawl⟩
    generalize Shift.step setting id ⟨duty, team.queue, team.crawl⟩ = after at outcome calm
    cases outcome with
    | worked resolving more =>
      simp only at resolving
      subst resolving
      exact concerted.work constant quiet found more calm
    | took picking waiting =>
      simp only at picking
      subst picking
      rw [Duty.rests_deeds rfl, List.append_nil]
      exact ⟨calm, concerted.ledger,
        fun root => (concerted.status root).frame found rfl rfl Iff.rfl Iff.rfl,
        concerted.assigned.take found waiting⟩
    | retired notices polling stopped =>
      have going := concerted.calm.going
      rw [stopped] at going
      cases going
    | looked polling going =>
      simp only at polling
      subst polling
      exact concerted.rest found [] rfl nofun nofun calm
    | spent picking none =>
      simp only at picking
      subst picking
      exact concerted.rest found [] rfl nofun (fun _ => none) calm
    | returned resolving =>
      simp only at resolving
      subst resolving
      exact concerted.rest found [] rfl nofun nofun calm
    | broke resolving =>
      simp only at resolving
      subst resolving
      have unbroken := concerted.calm.unbroken _ (List.mem_of_getElem? found)
      cases unbroken
    | rested ended =>
      simp only at ended calm ⊢
      cases duty with
      | idle =>
        exact concerted.rest found [] rfl nofun
          (fun _ => concerted.assigned.spent (List.mem_of_getElem? found)) calm
      | lost =>
        have unbroken := concerted.calm.unbroken _ (List.mem_of_getElem? found)
        cases unbroken
      | _ => cases ended

theorem Concerted.steps (constant : setting.web.Constant) (quiet : setting.web.Calm)
    (concerted : team.Concerted setting disk before jobs did) (ids : List Nat) :
    (team.steps setting ids).Concerted setting disk before jobs
      (did ++ team.trace setting ids) := by
  induction ids generalizing team did with
  | nil => simpa [Team.trace, Team.steps] using concerted
  | cons id rest ih =>
    have next := ih (concerted.step constant quiet id)
    rw [List.append_assoc] at next
    exact next

end Runs

end Team

end Sitemaps
