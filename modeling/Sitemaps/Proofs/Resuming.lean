import Sitemaps.Proofs.Course

/-!
Runs of one worker over one database file, each stopped somewhere and followed by another. A run
that is stopped leaves a first part of what its job would have stored; the next one stores that
again, and on. In the end the tables are those of a run that nobody stopped.
-/

namespace Sitemaps

namespace Job

variable (job : Job) (setting : Setting) (disk : Disk) (tables : Tables)

/-- The tables once the job has come to its end: nothing happens for a root that is recorded. -/
def complete : Tables :=
  if job.root.text ∈ tables.roots then tables
  else (tables.upsertAll (Deed.handed (job.script setting disk))).mark job.root

variable {job setting disk tables}

theorem complete_recorded (recorded : job.root.text ∈ tables.roots) :
    job.complete setting disk tables = tables := if_pos recorded

theorem complete_fresh (fresh : job.root.text ∉ tables.roots) :
    job.complete setting disk tables =
      (tables.upsertAll (Deed.handed (job.script setting disk))).mark job.root := if_neg fresh

theorem complete_roots {text : String} : text ∈ (job.complete setting disk tables).roots ↔
    text = job.root.text ∨ text ∈ tables.roots := by
  by_cases recorded : job.root.text ∈ tables.roots
  · rw [complete_recorded recorded]
    refine ⟨Or.inr, ?_⟩
    rintro (rfl | known)
    · exact recorded
    · exact known
  · rw [complete_fresh recorded]
    simp only [Tables.mark, Database.mem_insertRoot, Tables.upsertAll_roots]

theorem complete_partly {done rest : List Deed} (whole : done ++ rest = job.script setting disk)
    (fresh : job.root.text ∉ tables.roots) :
    job.complete setting disk (tables.upsertAll (Deed.handed done)) =
      job.complete setting disk tables := by
  have still : job.root.text ∉ (tables.upsertAll (Deed.handed done)).roots := by
    rwa [Tables.upsertAll_roots]
  rw [complete_fresh fresh, complete_fresh still, ← whole, Deed.handed_append,
    Tables.upsertAll_replay]

end Job

section Jobs

variable (setting : Setting) (disk : Disk)

def completeAll (jobs : List Job) (tables : Tables) : Tables :=
  jobs.foldl (fun tables job => job.complete setting disk tables) tables

variable {setting disk} {past queue : List Job} {job : Job} {base : Tables}

theorem completeAll_recorded {jobs : List Job} {tables : Tables}
    (recorded : ∀ job ∈ jobs, job.root.text ∈ tables.roots) :
    completeAll setting disk jobs tables = tables := by
  induction jobs with
  | nil => rfl
  | cons job rest ih =>
    have first := recorded job List.mem_cons_self
    have next : completeAll setting disk (job :: rest) tables =
        completeAll setting disk rest (job.complete setting disk tables) := rfl
    rw [next, Job.complete_recorded first]
    exact ih fun other member => recorded other (List.mem_cons_of_mem _ member)

theorem completeAll_past (recorded : ∀ job ∈ past, job.root.text ∈ base.roots) :
    completeAll setting disk (past ++ queue) base = completeAll setting disk queue base := by
  have split : completeAll setting disk (past ++ queue) base =
      completeAll setting disk queue (completeAll setting disk past base) := List.foldl_append
  rw [split, completeAll_recorded recorded]

theorem completeAll_partly {done rest : List Deed}
    (recorded : ∀ job ∈ past, job.root.text ∈ base.roots)
    (whole : done ++ rest = job.script setting disk) (fresh : job.root.text ∉ base.roots) :
    completeAll setting disk (past ++ job :: queue) (base.upsertAll (Deed.handed done)) =
      completeAll setting disk (past ++ job :: queue) base := by
  have still : ∀ job ∈ past, job.root.text ∈ (base.upsertAll (Deed.handed done)).roots := by
    rwa [Tables.upsertAll_roots]
  rw [completeAll_past recorded, completeAll_past still]
  exact congrArg (completeAll setting disk queue) (Job.complete_partly whole fresh)

theorem completeAll_complete (recorded : ∀ job ∈ past, job.root.text ∈ base.roots) :
    completeAll setting disk (past ++ job :: queue) (job.complete setting disk base) =
      completeAll setting disk (past ++ job :: queue) base := by
  have still : ∀ other ∈ past, other.root.text ∈ (job.complete setting disk base).roots :=
    fun other member => Job.complete_roots.mpr (Or.inr (recorded other member))
  rw [completeAll_past recorded, completeAll_past still]
  exact congrArg (completeAll setting disk queue)
    (Job.complete_recorded (Job.complete_roots.mpr (Or.inl rfl)))

end Jobs

namespace Job

/-- What a job has done so far on top of the tables it came to, if it is the only one. -/
structure Fits (job : Job) (setting : Setting) (disk : Disk) (base : Tables) (done : List Deed)
    (guard : Guard) (phase : Phase) : Prop where
  held : phase.holds = true → guard.active = [job.root] ∧ job.root.text ∉ base.roots ∧
    job.Stage setting disk done phase
  free : phase.holds = false → guard.active = [] ∧ done = []
  recorded : phase = .done → job.root.text ∈ base.roots

variable {job : Job} {setting : Setting} {disk : Disk} {base : Tables} {done : List Deed}
  {guard : Guard} {phase : Phase}

theorem Fits.partly {past queue : List Job} (fits : job.Fits setting disk base done guard phase)
    (recorded : ∀ job ∈ past, job.root.text ∈ base.roots) :
    completeAll setting disk (past ++ job :: queue) (base.upsertAll (Deed.handed done)) =
      completeAll setting disk (past ++ job :: queue) base := by
  cases holds : phase.holds with
  | true =>
    obtain ⟨-, fresh, stage⟩ := fits.held holds
    obtain ⟨rest, whole⟩ := stage.partly
    exact completeAll_partly recorded whole fresh
  | false =>
    rw [(fits.free holds).2]
    rfl

variable {crawl : Crawl Tally}

theorem Fits.enter (fits : job.Fits setting disk base done crawl.desk.guard .entering)
    (opened : crawl.desk.store.database.isOpen = true)
    (finished : ∀ root ∈ crawl.desk.guard.finished, root.text ∈ base.roots)
    (roots : crawl.desk.store.database.tables.roots = base.roots) :
    job.Fits setting disk base done (job.step setting .entering crawl).2.desk.guard
      (job.step setting .entering crawl).1 ∧
    (job.step setting .entering crawl).2.desk.guard.finished = crawl.desk.guard.finished := by
  obtain ⟨idle, rfl⟩ := fits.free rfl
  have recorded := Desk.recorded_tally opened job.root
  rw [roots] at recorded
  simp only [step]
  rcases Crawl.enter_outcome crawl job.root with ⟨taken, refused, desk⟩ | ⟨untaken, granted, desk⟩
  · rw [refused, desk]
    refine ⟨⟨(fun holds => by cases holds), fun _ => ⟨idle, rfl⟩, fun _ => ?_⟩, rfl⟩
    rcases (Desk.isTaken_iff crawl.desk job.root).mp taken with active | known | told
    · rw [idle] at active
      cases active
    · exact finished _ known
    · exact recorded.mp told
  · have fresh : job.root.text ∉ base.roots := by
      intro known
      have taken := (Desk.isTaken_iff crawl.desk job.root).mpr
        (Or.inr (Or.inr (recorded.mpr known)))
      rw [untaken] at taken
      cases taken
    rw [granted, desk]
    have claimed := congrArg (job.root :: ·) idle
    exact ⟨⟨fun _ => ⟨claimed, fresh, rfl⟩, (fun free => by cases free),
      (fun ended => by cases ended)⟩, rfl⟩

theorem Fits.step (constant : setting.web.Constant) (sound : setting.web.Sound)
    (alike : disk.Alike setting.staging.place crawl.disk) (going : crawl.stopped = false)
    (elder : crawl.elder = none) (opened : crawl.desk.store.database.isOpen = true)
    (finished : ∀ root ∈ crawl.desk.guard.finished, root.text ∈ base.roots)
    (tables : crawl.desk.store.database.tables = base.upsertAll (Deed.handed done))
    (fits : job.Fits setting disk base done crawl.desk.guard phase)
    (unbroken : phase.isSound = true) :
    let later := (job.step setting phase crawl).2
    ∃ after did, (after = base ∨ after = job.complete setting disk base) ∧
      later.desk.store.database.tables = after.upsertAll (Deed.handed did) ∧
      (∀ root ∈ later.desk.guard.finished, root.text ∈ after.roots) ∧
      job.Fits setting disk after did later.desk.guard (job.step setting phase crawl).1 := by
  intro later
  have roots : crawl.desk.store.database.tables.roots = base.roots := by
    rw [tables, Tables.upsertAll_roots]
  have stored : later.desk.store.database.tables =
      job.marks phase (base.upsertAll (Deed.handed (done ++ job.deeds setting phase crawl))) := by
    rw [Deed.handed_append, Tables.upsertAll_append, ← tables]
    exact congrArg (·.database.tables) (job.step_tally setting phase going elder opened)
  -- the phases between taking the claim and finishing, where the stage gets on
  have onward : phase.turnsClaim = false → phase.holds = true →
      job.marks phase (base.upsertAll (Deed.handed (done ++ job.deeds setting phase crawl))) =
        base.upsertAll (Deed.handed (done ++ job.deeds setting phase crawl)) →
      ∃ after did, (after = base ∨ after = job.complete setting disk base) ∧
        later.desk.store.database.tables = after.upsertAll (Deed.handed did) ∧
        (∀ root ∈ later.desk.guard.finished, root.text ∈ after.roots) ∧
        job.Fits setting disk after did later.desk.guard (job.step setting phase crawl).1 := by
    intro quiet holds unmarked
    obtain ⟨active, fresh, stage⟩ := fits.held holds
    obtain ⟨drift, same⟩ := step_drift job setting crawl quiet
    have further := stage.step constant sound (Tally.steady _) alike going
    refine ⟨base, _, Or.inl rfl, stored.trans unmarked, ?_, ⟨fun _ => ⟨?_, fresh, further⟩, ?_, ?_⟩⟩
    · rw [drift.finished]
      exact finished
    · exact drift.active.trans active
    · intro free
      rw [same, holds] at free
      cases free
    · intro ended
      rw [ended, holds] at same
      cases same
  cases phase with
  | asking =>
    obtain ⟨idle, rfl⟩ := fits.free rfl
    have asked : job.step setting .asking crawl = (.entering, crawl) := by simp [step, going]
    simp only [later, asked]
    exact ⟨base, [], Or.inl rfl, tables, finished, (fun holds => by cases holds),
      fun _ => ⟨idle, rfl⟩, (fun ended => by cases ended)⟩
  | entering =>
    obtain ⟨entered, same⟩ := fits.enter opened finished roots
    have nothing : done = [] := (fits.free rfl).2
    refine ⟨base, done, Or.inl rfl, ?_, ?_, entered⟩
    · rw [stored, nothing]
      rfl
    · rw [same]
      exact finished
  | gathering => exact onward rfl rfl rfl
  | walking walk => exact onward rfl rfl rfl
  | closing visited => exact onward rfl rfl rfl
  | finishing visited =>
    obtain ⟨active, fresh, stage⟩ := fits.held rfl
    have guard : later.desk.guard = Desk.deactivate
        { crawl.desk.guard with finished := job.root :: crawl.desk.guard.finished } job.root :=
      Crawl.finish_guard crawl job.root
    have marked : later.desk.store.database.tables = job.complete setting disk base := by
      rw [stored, complete_fresh fresh, show done = job.script setting disk from stage]
      simp [marks, deeds]
    refine ⟨job.complete setting disk base, [], Or.inr rfl, marked, ?_,
      (fun holds => by cases holds), fun _ => ⟨?_, rfl⟩, fun _ => complete_roots.mpr (Or.inl rfl)⟩
    · rw [guard]
      intro root member
      rcases List.mem_cons.mp member with rfl | known
      · exact complete_roots.mpr (Or.inl rfl)
      · exact complete_roots.mpr (Or.inr (finished root known))
    · rw [guard]
      simp [Desk.deactivate, active]
  | dropping panics => exact (fits.held rfl).2.2.elim
  | done => exact ⟨base, done, Or.inl rfl, tables, finished, fits⟩
  | panicked => cases unbroken

end Job

namespace Duty

def jobs : Duty → List Job
  | .resolving job _ => [job]
  | .polling | .picking | .idle | .lost => []

def Fits (setting : Setting) (disk : Disk) (base : Tables) (done : List Deed) (guard : Guard)
    (queue : List Job) : Duty → Prop
  | .resolving job phase => job.Fits setting disk base done guard phase
  | .polling | .picking => guard.active = [] ∧ done = []
  | .idle => guard.active = [] ∧ done = [] ∧ queue = []
  | .lost => False

end Duty

namespace Shift

/-- Where a worker is among the jobs. Earlier jobs are recorded, and the one it is at has done its
part on top of tables from which all jobs together lead to the goal. -/
structure Course (setting : Setting) (disk : Disk) (jobs : List Job) (goal : Tables)
    (past : List Job) (base : Tables) (done : List Deed) (shift : Shift Tally) : Prop where
  whole : past ++ (shift.duty.jobs ++ shift.queue) = jobs
  recorded : ∀ job ∈ past, job.root.text ∈ base.roots
  finished : ∀ root ∈ shift.crawl.desk.guard.finished, root.text ∈ base.roots
  tables : shift.crawl.desk.store.database.tables = base.upsertAll (Deed.handed done)
  leads : completeAll setting disk jobs base = goal
  fits : shift.duty.Fits setting disk base done shift.crawl.desk.guard shift.queue

structure Underway (setting : Setting) (disk : Disk) (jobs : List Job) (goal : Tables)
    (shift : Shift Tally) : Prop where
  going : shift.crawl.stopped = false
  opened : shift.crawl.desk.store.database.isOpen = true
  filed : shift.crawl.desk.store.database.medium = .file
  course : ∃ past base done, shift.Course setting disk jobs goal past base done

structure Halted (setting : Setting) (disk : Disk) (jobs : List Job) (goal : Tables)
    (shift : Shift Tally) : Prop where
  stopped : shift.crawl.stopped = true
  shut : shift.crawl.desk.store.database.isOpen = false
  filed : shift.crawl.desk.store.database.medium = .file
  reached : completeAll setting disk jobs shift.crawl.desk.store.database.tables = goal

variable {setting : Setting} {disk : Disk} {jobs : List Job} {goal : Tables} {shift : Shift Tally}

theorem Halted.step (id : Nat) (halted : shift.Halted setting disk jobs goal) :
    (shift.step setting id).Halted setting disk jobs goal := by
  have outcome := step_outcome setting id shift
  generalize shift.step setting id = after at outcome
  obtain ⟨stopped, shut, filed, reached⟩ := halted
  cases outcome with
  | @worked job phase resolving more =>
    have closed := job.step_closed setting phase shut
    exact ⟨Job.step_stopped job setting shift.crawl phase stopped, by rw [closed, shut],
      by rw [closed, filed], by rw [closed, reached]⟩
  | retired notices polling stopped => exact ⟨stopped, shut, filed, reached⟩
  | looked polling going => exact ⟨stopped, shut, filed, reached⟩
  | spent picking none => exact ⟨stopped, shut, filed, reached⟩
  | took picking waiting => exact ⟨stopped, shut, filed, reached⟩
  | returned resolving => exact ⟨stopped, shut, filed, reached⟩
  | broke resolving => exact ⟨stopped, shut, filed, reached⟩
  | rested ended => exact ⟨stopped, shut, filed, reached⟩

theorem Course.turn {past passed queue : List Job} {base : Tables} {done : List Deed} {duty : Duty}
    (course : shift.Course setting disk jobs goal past base done)
    (whole : passed ++ (duty.jobs ++ queue) = past ++ (shift.duty.jobs ++ shift.queue))
    (recorded : ∀ job ∈ passed, job.root.text ∈ base.roots)
    (fits : duty.Fits setting disk base done shift.crawl.desk.guard queue) :
    (⟨duty, queue, shift.crawl⟩ : Shift Tally).Course setting disk jobs goal passed base done :=
  ⟨whole.trans course.whole, recorded, course.finished, course.tables, course.leads, fits⟩

theorem Underway.work {job : Job} {phase : Phase} (constant : setting.web.Constant)
    (sound : setting.web.Sound) (before : shift.Sound setting disk)
    (underway : shift.Underway setting disk jobs goal)
    (resolving : shift.duty = .resolving job phase) :
    let after : Shift Tally := ⟨.resolving job (job.step setting phase shift.crawl).1, shift.queue,
      (job.step setting phase shift.crawl).2⟩
    after.Underway setting disk jobs goal ∨ after.Halted setting disk jobs goal := by
  intro after
  obtain ⟨going, opened, filed, past, base, done, course⟩ := underway
  obtain ⟨whole, recorded, finished, tables, leads, fits⟩ := course
  have unbroken := before.unbroken
  rw [resolving] at whole fits unbroken
  obtain ⟨next, did, base_or, stored, known, still⟩ := Job.Fits.step constant sound before.alike
    going before.elder opened finished tables fits unbroken
  have kept : ∀ job ∈ past, job.root.text ∈ next.roots := by
    rcases base_or with rfl | rfl
    · exact recorded
    · exact fun other member => Job.complete_roots.mpr (Or.inr (recorded other member))
  have onward : completeAll setting disk jobs next = goal := by
    rw [← leads, ← whole]
    rcases base_or with rfl | rfl
    · rfl
    · exact completeAll_complete recorded
  have store := job.step_tally setting phase going before.elder opened
  have shut := congrArg (·.database.isOpen) store
  have filed := (congrArg (·.database.medium) store).trans filed
  cases stopped : after.crawl.stopped with
  | false =>
    refine Or.inl ⟨stopped, ?_, filed, past, next, did,
      ⟨whole, kept, known, stored, onward, still⟩⟩
    exact shut.trans (by rw [stopped]; rfl)
  | true =>
    refine Or.inr ⟨stopped, shut.trans (by rw [stopped]; rfl), filed, ?_⟩
    rw [stored, ← onward, ← whole]
    exact still.partly kept

theorem Underway.step (id : Nat) (constant : setting.web.Constant) (sound : setting.web.Sound)
    (before : shift.Sound setting disk) (underway : shift.Underway setting disk jobs goal) :
    (shift.step setting id).Underway setting disk jobs goal ∨
      (shift.step setting id).Halted setting disk jobs goal := by
  have outcome := step_outcome setting id shift
  generalize shift.step setting id = after at outcome
  cases outcome with
  | worked resolving more => exact underway.work constant sound before resolving
  | rested ended => exact Or.inl underway
  | retired notices polling stopped =>
    rw [underway.going] at stopped
    cases stopped
  | broke resolving =>
    have unbroken := before.unbroken
    rw [resolving] at unbroken
    cases unbroken
  | looked polling going =>
    obtain ⟨-, opened, filed, past, base, done, course⟩ := underway
    have fits := course.fits
    rw [polling] at fits
    exact Or.inl ⟨going, opened, filed, past, base, done,
      course.turn (by rw [polling]; rfl) course.recorded fits⟩
  | spent picking none =>
    obtain ⟨going, opened, filed, past, base, done, course⟩ := underway
    have fits := course.fits
    rw [picking] at fits
    exact Or.inl ⟨going, opened, filed, past, base, done,
      course.turn (by rw [picking]; rfl) course.recorded ⟨fits.1, fits.2, none⟩⟩
  | @took job queue picking waiting =>
    obtain ⟨going, opened, filed, past, base, done, course⟩ := underway
    have fits := course.fits
    rw [picking] at fits
    exact Or.inl ⟨going, opened, filed, past, base, done,
      course.turn (by rw [picking, waiting]; rfl) course.recorded ⟨nofun, fun _ => fits, nofun⟩⟩
  | @returned job resolving =>
    obtain ⟨going, opened, filed, past, base, done, course⟩ := underway
    have fits := course.fits
    rw [resolving] at fits
    refine Or.inl ⟨going, opened, filed, past ++ [job], base, done,
      course.turn ?_ ?_ (fits.free rfl)⟩
    · rw [resolving, List.append_assoc]
      rfl
    · intro other member
      rcases List.mem_append.mp member with earlier | last
      · exact course.recorded other earlier
      · rw [List.mem_singleton.mp last]
        exact fits.recorded rfl

theorem Underway.reached (underway : shift.Underway setting disk jobs goal)
    (ended : shift.duty.isOver = true) :
    shift.crawl.desk.store.database.tables = goal ∧ completeAll setting disk jobs goal = goal := by
  obtain ⟨past, base, done, ⟨whole, recorded, -, tables, leads, fits⟩⟩ := underway.course
  cases duty : shift.duty with
  | idle =>
    rw [duty] at whole fits
    obtain ⟨-, rfl, spent⟩ := fits
    rw [spent, show Duty.jobs .idle ++ [] = [] from rfl, List.append_nil] at whole
    have same : base = goal := by rw [← leads, ← whole, completeAll_recorded recorded]
    rw [← same]
    exact ⟨tables, leads.trans same.symm⟩
  | lost =>
    rw [duty] at fits
    cases fits
  | _ =>
    rw [duty] at ended
    cases ended

theorem run_resumes (constant : setting.web.Constant) (sound : setting.web.Sound)
    (before : shift.Sound setting disk) (underway : shift.Underway setting disk jobs goal) :
    let last := shift.run setting 0
    last.Sound setting disk ∧ last.crawl.desk.store.database.medium = .file ∧
      completeAll setting disk jobs last.crawl.desk.store.database.tables = goal ∧
      (setting.web.Calm → last.crawl.desk.store.database.tables = goal) := by
  intro last
  let kept (shift : Shift Tally) : Prop := shift.Sound setting disk ∧
    (shift.Underway setting disk jobs goal ∨ shift.Halted setting disk jobs goal) ∧
    (setting.web.Calm → shift.crawl.stopped = false)
  have step : ∀ shift, kept shift → kept (shift.step setting 0) := by
    rintro shift ⟨before, underway | halted, calm⟩
    · exact ⟨before.step 0 sound, underway.step 0 constant sound before,
        fun quiet => (step_going 0 quiet).trans (calm quiet)⟩
    · exact ⟨before.step 0 sound, Or.inr (halted.step 0),
        fun quiet => (step_going 0 quiet).trans (calm quiet)⟩
  obtain ⟨⟨fine, course, calm⟩, ended⟩ :=
    run_keeps setting 0 kept step shift ⟨before, Or.inl underway, fun _ => underway.going⟩
  rcases course with underway | halted
  · obtain ⟨reached, still⟩ := underway.reached ended
    exact ⟨fine, underway.filed, by rw [reached, still], fun _ => reached⟩
  · refine ⟨fine, halted.filed, halted.reached, fun quiet => ?_⟩
    have going := calm quiet
    rw [halted.stopped] at going
    cases going

end Shift

namespace Web

/-- The same web, where some answers come with a stop. -/
def stopping (web : Web) (stops : String → Nat → Bool) : Web where
  answer location count := { web.answer location count with stops := stops location count }
  answering := web.answering
  silent location absent count := web.silent location absent count

variable {web : Web} (stops : String → Nat → Bool)

theorem Constant.stopping (constant : web.Constant) : (web.stopping stops).Constant :=
  fun location count => constant location count

theorem Sound.stopping (sound : web.Sound) : (web.stopping stops).Sound :=
  fun location count => sound location count

end Web

namespace Coordinator

variable (coordinator : Coordinator)

theorem run_one (one : coordinator.workers = 1) (crawl : Crawl Tally) :
    let last := Shift.run coordinator.setting 0
      ⟨.polling, coordinator.jobs, (coordinator.muster crawl).crawl⟩
    coordinator.run crawl =
      (coordinator.outcome ⟨[last.duty], last.queue, last.crawl⟩, last.crawl) := by
  have alone : coordinator.team = 1 := by
    unfold team
    omega
  simp [run, muster, Team.gather, alone, Team.runInTurn, Team.runWorker]

theorem run_resumes (disk : Disk) (one : coordinator.workers = 1)
    (constant : coordinator.setting.web.Constant) (sound : coordinator.setting.web.Sound)
    (database : Database) (filed : database.medium = .file) (opened : database.isOpen = true)
    (there : Disk) (alike : disk.Alike coordinator.setting.staging.place there) :
    let setting := coordinator.setting
    let goal := completeAll setting disk coordinator.jobs database.tables
    let (result, last) := coordinator.run (.start ⟨database, 0⟩ there)
    (∀ lost, result ≠ .error (.workers lost)) ∧ disk.Alike setting.staging.place last.disk ∧
      last.desk.store.database.medium = .file ∧
      completeAll setting disk coordinator.jobs last.desk.store.database.tables = goal ∧
      (setting.web.Calm → last.desk.store.database.tables = goal) := by
  intro setting goal
  rw [run_one coordinator one]
  let start : Shift Tally :=
    ⟨.polling, coordinator.jobs, (coordinator.muster (.start ⟨database, 0⟩ there)).crawl⟩
  have before : start.Sound setting disk := ⟨rfl, trivial, alike, rfl⟩
  have underway : start.Underway setting disk coordinator.jobs goal :=
    ⟨rfl, opened, filed, [], database.tables, [], ⟨rfl, nofun, nofun, rfl, rfl, rfl, rfl⟩⟩
  obtain ⟨fine, stays, leads, reached⟩ := Shift.run_resumes constant sound before underway
  refine ⟨?_, fine.alike, stays, leads, reached⟩
  intro lost
  unfold outcome
  rw [if_pos (Team.none_lost ?_)]
  · exact nofun
  · intro duty member
    rw [List.mem_singleton.mp member]
    exact fine.unbroken

end Coordinator

namespace Staging

variable {staging : Staging} {disk made : Disk} {fault : DiskFault}

theorem prepare_ok (there : disk.makeDirectories staging.place = .ok made) :
    staging.prepare disk = .ok made := by
  unfold prepare
  rw [there]
  rfl

theorem prepare_error (there : disk.makeDirectories staging.place = .error fault) :
    staging.prepare disk = .error (.tempDir staging.shown fault) := by
  unfold prepare
  rw [there]
  rfl

end Staging

/-- What a run leaves to the next: the database file, and the disk with the temporary directory. -/
structure Legacy where
  database : Database
  disk : Disk

namespace Legacy

section Runs

variable (config : Config) (web : Web) (staging : Staging)

def run (legacy : Legacy) : Except RunFault Summary × Legacy :=
  match Coordinator.assemble config web staging legacy.disk with
  | (.error fault, disk) => (.error fault, { legacy with disk := disk })
  | (.ok coordinator, disk) =>
    let (result, crawl) := coordinator.run (.start ⟨legacy.database.reopen, 0⟩ disk)
    (result, ⟨crawl.desk.store.database, crawl.disk⟩)

/-- Runs one after another, each with stops of its own. -/
def interrupt (stops : List (String → Nat → Bool)) (legacy : Legacy) : Legacy :=
  stops.foldl (fun legacy stops => (legacy.run config (web.stopping stops) staging).2) legacy

/-- The tables that all jobs of a configuration lead to, if it can be carried out. -/
def goal (disk : Disk) (tables : Tables) : Tables :=
  match (Coordinator.assemble config web staging disk).1 with
  | .ok coordinator => completeAll coordinator.setting disk coordinator.jobs tables
  | .error _ => tables

theorem goal_stopping (stops : String → Nat → Bool) (disk : Disk) (tables : Tables) :
    goal config (web.stopping stops) staging disk tables = goal config web staging disk tables := by
  unfold goal Coordinator.assemble Coordinator.plan
  cases staging.prepare disk with
  | error fault => rfl
  | ok made => cases planRoots config.seeds <;> rfl

end Runs

/-- What one run comes to: its worker is not lost, the tables it leaves lead where they led before,
and they are there already if nobody stopped it. -/
structure Resumed (config : Config) (web : Web) (staging : Staging) (disk : Disk) (legacy : Legacy)
    (ran : Except RunFault Summary × Legacy) : Prop where
  unlost : ∀ lost, ran.1 ≠ .error (.workers lost)
  filed : ran.2.database.medium = .file
  alike : disk.Alike staging.place ran.2.disk
  leads : goal config web staging disk ran.2.database.tables =
    goal config web staging disk legacy.database.tables
  reached : web.Calm → ran.2.database.tables = goal config web staging disk legacy.database.tables

variable {config : Config} {web : Web} {staging : Staging} {disk : Disk} {legacy : Legacy}

theorem Resumed.refused {fault : RunFault} {there : Disk} (unlike : ∀ lost, fault ≠ .workers lost)
    (filed : legacy.database.medium = .file) (alike : disk.Alike staging.place there)
    (nothing : ∀ tables, goal config web staging disk tables = tables) :
    Resumed config web staging disk legacy (.error fault, { legacy with disk := there }) where
  unlost lost same := unlike lost (Except.error.inj same)
  filed := filed
  alike := alike
  leads := rfl
  reached _ := (nothing _).symm

theorem run_resumed (one : config.crawler.workers = 1) (constant : web.Constant) (sound : web.Sound)
    (filed : legacy.database.medium = .file) (alike : disk.Alike staging.place legacy.disk) :
    Resumed config web staging disk legacy (legacy.run config web staging) := by
  unfold run Coordinator.assemble
  cases there : legacy.disk.makeDirectories staging.place with
  | error fault =>
    rw [Staging.prepare_error there]
    cases here : disk.makeDirectories staging.place with
    | error other =>
      refine .refused (fun lost same => by cases same) filed alike fun tables => ?_
      simp only [goal, Coordinator.assemble, Staging.prepare_error here]
    | ok made =>
      obtain ⟨other, absurd⟩ := Disk.makeDirectories_congr alike ⟨made, here⟩
      rw [there] at absurd
      cases absurd
  | ok made =>
    obtain ⟨other, here⟩ := Disk.makeDirectories_congr alike.symm ⟨made, there⟩
    have still : disk.Alike staging.place made := alike.trans (Disk.makeFrom_alike there)
    rw [Staging.prepare_ok there]
    simp only [Coordinator.plan]
    cases planned : planRoots config.seeds with
    | error fault =>
      refine .refused (fun lost same => by cases same) filed still fun tables => ?_
      simp only [goal, Coordinator.assemble, Staging.prepare_ok here, Coordinator.plan, planned]
    | ok plans =>
      let coordinator : Coordinator :=
        ⟨⟨web, staging, config.sitemap.scope, config.sitemap.paths⟩, plans,
          jobsOf plans config.seeds config.crawler.robots, config.crawler.workers⟩
      have leads : ∀ tables, goal config web staging disk tables =
          completeAll coordinator.setting disk coordinator.jobs tables := by
        intro tables
        simp only [goal, Coordinator.assemble, Staging.prepare_ok here, Coordinator.plan, planned,
          coordinator]
      have reopened : legacy.database.reopen = { legacy.database with isOpen := true } := by
        simp [Database.reopen, filed]
      obtain ⟨unlost, alike, filed, same, reached⟩ := coordinator.run_resumes disk one constant
        sound { legacy.database with isOpen := true } filed rfl made still
      simp only [reopened]
      exact ⟨unlost, filed, alike, (leads _).trans (same.trans (leads _).symm),
        fun calm => (reached calm).trans (leads _).symm⟩

theorem interrupt_resumed (stops : List (String → Nat → Bool)) (one : config.crawler.workers = 1)
    (constant : web.Constant) (sound : web.Sound) (filed : legacy.database.medium = .file)
    (alike : disk.Alike staging.place legacy.disk) :
    let last := legacy.interrupt config web staging stops
    last.database.medium = .file ∧ disk.Alike staging.place last.disk ∧
      goal config web staging disk last.database.tables =
        goal config web staging disk legacy.database.tables := by
  induction stops generalizing legacy with
  | nil => exact ⟨filed, alike, rfl⟩
  | cons first rest ih =>
    have ran := run_resumed one (constant.stopping first) (sound.stopping first) filed alike
    obtain ⟨still, there, same⟩ := ih ran.filed ran.alike
    have leads := ran.leads
    rw [goal_stopping, goal_stopping] at leads
    exact ⟨still, there, same.trans leads⟩

/-- However often one worker is interrupted, each time during whatever fetch, a run that nobody
stops leaves the tables that it would have left at first, and the worker is never lost. -/
theorem resumes (config : Config) (web : Web) (staging : Staging) (legacy : Legacy)
    (stops : List (String → Nat → Bool)) (one : config.crawler.workers = 1)
    (constant : web.Constant) (calm : web.Calm) (filed : legacy.database.medium = .file) :
    let interrupted := legacy.interrupt config web staging stops
    (interrupted.run config web staging).2.database.tables =
        (legacy.run config web staging).2.database.tables ∧
      (∀ lost, (interrupted.run config web staging).1 ≠ .error (.workers lost)) ∧
      ∀ next lost,
        (interrupted.run config (web.stopping next) staging).1 ≠ .error (.workers lost) := by
  intro interrupted
  have alike : legacy.disk.Alike staging.place legacy.disk := .refl _ _
  obtain ⟨still, there, same⟩ := interrupt_resumed stops one constant calm.sound filed alike
  have last := run_resumed one constant calm.sound still there
  have first := run_resumed one constant calm.sound filed alike
  refine ⟨?_, last.unlost, fun next => ?_⟩
  · rw [last.reached calm, first.reached calm, same]
  · exact (run_resumed one (constant.stopping next) (calm.sound.stopping next) still there).unlost

def twice : Web := .ofTexts [
  ("http://a/i.xml", "<i><sitemap><loc>http://a/s.xml</loc></sitemap>" ++
    "<sitemap><loc>http://a/t.xml</loc></sitemap></i>"),
  ("http://a/s.xml", "<url><loc>http://a/p</loc><priority>0.5</priority></url>"),
  ("http://a/t.xml", "<url><loc>http://a/p</loc></url>")]

def patient : Config :=
  ⟨.default, ⟨"", "", "", ""⟩, ⟨1, true⟩, "", [⟨"http://a/", ["http://a/i.xml"]⟩]⟩

theorem resumes_twice :
    let legacy : Legacy := ⟨.create .file, .empty⟩
    let staging : Staging := ⟨["tmp"], "tmp"⟩
    let stops : List (String → Nat → Bool) :=
      [fun location _ => location == "http://a/t.xml", fun _ _ => true]
    patient.crawler.workers = 1 ∧ twice.Constant ∧ twice.Calm ∧ legacy.database.medium = .file ∧
      ((legacy.interrupt patient twice staging stops).run patient twice staging).2.database.tables =
        (legacy.run patient twice staging).2.database.tables := by
  intro legacy staging stops
  have constant : twice.Constant := Web.ofTexts_constant _
  have calm : twice.Calm := Web.ofTexts_calm _
  exact ⟨rfl, constant, calm, rfl,
    (resumes patient twice staging legacy stops rfl constant calm rfl).1⟩

end Legacy

end Sitemaps
