import Sitemaps.Proofs.Schedules

/-!
Runs that nothing interrupted. Until a stop or a panic comes up, every job waits in the queue or
with a worker, or its root is in the hands of a worker, or recorded. Once all workers are at their
end, only the last is left. A run whose roots are all recorded has nothing to do, unless a stop
closes the database on a worker that is about to look for its root.
-/

namespace Sitemaps

namespace RootPlan

theorem mem_insert {root other : Root} {sitemaps : List String} {plans : List RootPlan} :
    other ∈ (insert root sitemaps plans).map RootPlan.root ↔
      other = root ∨ other ∈ plans.map RootPlan.root := by
  induction plans with
  | nil => simp [insert, addSitemaps]
  | cons plan plans ih =>
    unfold insert
    split
    · rename_i same
      simp [addSitemaps, same]
    · rw [List.map_cons, List.mem_cons, ih, List.map_cons, List.mem_cons]
      exact or_left_comm

theorem insertSeeds_covers {seeds : List Seed} {before plans : List RootPlan}
    (planned : seeds.foldlM insertSeed before = .ok plans) :
    (∀ root ∈ before.map RootPlan.root, root ∈ plans.map RootPlan.root) ∧
      ∀ seed ∈ seeds, ∃ root, Root.parse seed.url = .ok root ∧
        root ∈ plans.map RootPlan.root := by
  induction seeds generalizing before with
  | nil =>
    cases planned
    exact ⟨fun _ => id, nofun⟩
  | cons seed seeds ih =>
    rw [List.foldlM_cons] at planned
    cases inserted : insertSeed before seed with
    | error fault =>
      rw [inserted] at planned
      cases planned
    | ok next =>
      rw [inserted] at planned
      obtain ⟨kept, covered⟩ := ih planned
      unfold insertSeed at inserted
      split at inserted
      · cases inserted
      · rename_i root parsed
        cases inserted
        refine ⟨fun other member => kept other (mem_insert.mpr (Or.inr member)), ?_⟩
        intro other member
        rcases List.mem_cons.mp member with rfl | later
        · exact ⟨root, parsed, kept root (mem_insert.mpr (Or.inl rfl))⟩
        · exact covered other later

end RootPlan

theorem Coordinator.plan_covers {config : Config} {setting : Setting} {coordinator : Coordinator}
    (planned : plan config setting = .ok coordinator) :
    ∀ seed ∈ config.seeds, ∃ job ∈ coordinator.jobs, Root.parse seed.url = .ok job.root := by
  intro seed member
  unfold plan at planned
  split at planned
  · cases planned
  · rename_i plans made
    cases planned
    obtain ⟨root, parsed, held⟩ := (RootPlan.insertSeeds_covers made).2 seed member
    obtain ⟨plan, planned, own⟩ := List.mem_map.mp held
    have some_plan : (plans.find? (·.root == root)).isSome = true := by
      rw [List.find?_isSome]
      exact ⟨plan, planned, beq_iff_eq.mpr own⟩
    obtain ⟨first, found⟩ := Option.isSome_iff_exists.mp some_plan
    have same : first.root = root := eq_of_beq (List.find?_some found :)
    subst same
    exact ⟨_, mem_jobsOf.mpr ⟨seed, member, first, parsed, found, rfl⟩, parsed⟩

theorem Coordinator.plan_seeded {config : Config} {setting : Setting} {coordinator : Coordinator}
    (planned : plan config setting = .ok coordinator) :
    ∀ job ∈ coordinator.jobs, ∃ seed ∈ config.seeds, Root.parse seed.url = .ok job.root := by
  intro job member
  unfold plan at planned
  split at planned
  · cases planned
  · cases planned
    obtain ⟨seed, listed, plan, parsed, -, rfl⟩ := mem_jobsOf.mp member
    exact ⟨seed, listed, parsed⟩

namespace Job

variable {job : Job} {setting : Setting} {crawl : Crawl Tally} {phase : Phase}

theorem step_active (kept : phase.drops = false)
    (active : job.root ∈ (job.step setting phase crawl).2.desk.guard.active) :
    (job.step setting phase crawl).1.holds = true ∨
      job.root ∈ crawl.desk.guard.active ∧ phase.holds = false := by
  by_cases quiet : phase.turnsClaim = false
  · obtain ⟨drift, holds⟩ := step_drift job setting crawl quiet
    rw [drift.active] at active
    rw [holds]
    cases free : phase.holds with
    | true => exact Or.inl rfl
    | false => exact Or.inr ⟨active, rfl⟩
  · cases phase with
    | entering =>
      rcases Crawl.enter_outcome crawl job.root with ⟨-, -, desk⟩ | ⟨-, granted, -⟩
      · have desk : (job.step setting .entering crawl).2.desk = crawl.desk := desk
        rw [desk] at active
        exact Or.inr ⟨active, rfl⟩
      · left
        simp only [step, granted]
        rfl
    | finishing visited =>
      have active : job.root ∈ (crawl.finish job.root).desk.guard.active := active
      rw [Crawl.finish_guard, Desk.mem_deactivate] at active
      exact absurd rfl active.2
    | dropping panics => cases kept
    | _ => exact absurd rfl quiet

theorem step_undropped (going : crawl.stopped = false) (kept : phase.drops = false)
    (unbroken : (job.step setting phase crawl).1.isSound = true) :
    (job.step setting phase crawl).1.drops = false := by
  have sound : (job.step setting phase crawl).1 ≠ .dropping true := by
    intro broken
    rw [broken] at unbroken
    cases unbroken
  by_cases quiet : phase.turnsClaim = false
  · obtain ⟨undropped, -, -⟩ := step_isOut job setting crawl quiet going sound
    cases next : (job.step setting phase crawl).1 with
    | dropping panics => exact absurd next (undropped panics)
    | _ => rfl
  · cases phase with
    | entering =>
      simp only [step]
      split <;> rfl
    | finishing visited => rfl
    | dropping panics => cases kept
    | _ => exact absurd rfl quiet

end Job

namespace Shift

variable {setting : Setting} {shift : Shift Tally}

theorem step_stopped (id : Nat) (stopped : shift.crawl.stopped = true) :
    (shift.step setting id).crawl.stopped = true := by
  have outcome := step_outcome setting id shift
  generalize shift.step setting id = after at outcome
  cases outcome with
  | @worked job phase resolving more => exact Job.step_stopped job setting shift.crawl phase stopped
  | _ => exact stopped

theorem step_broken (id : Nat) (broken : shift.duty.isSound = false) :
    (shift.step setting id).duty.isSound = false := by
  obtain ⟨duty, queue, crawl⟩ := shift
  cases duty with
  | lost => rfl
  | resolving job phase =>
    cases phase with
    | panicked => rfl
    | dropping panics =>
      cases panics with
      | true => rfl
      | false => cases broken
    | _ => cases broken
  | _ => cases broken

end Shift

namespace Team

variable {setting : Setting} {known : List String} {jobs queue : List Job} {team : Team Tally}
  {crawl : Crawl Tally} {id : Nat} {duty after : Duty} {job : Job} {phase : Phase}

def Disturbed (team : Team Tally) : Prop :=
  team.crawl.stopped = true ∨ ∃ duty ∈ team.duties, duty.isSound = false

theorem unbroken_of_calm (calm : ¬ team.Disturbed) : ∀ duty ∈ team.duties, duty.isSound = true := by
  intro duty member
  apply eq_true_of_ne_false
  intro broken
  exact calm (Or.inr ⟨duty, member, broken⟩)

theorem move_disturbed (setting : Setting) (team : Team Tally) (moment : Moment)
    (disturbed : team.Disturbed) : (team.move setting moment).Disturbed := by
  cases moment with
  | raise => exact Or.inl (Crawl.raise_stopped team.crawl)
  | close => exact disturbed.imp_left (Crawl.closeAfterStop_drift team.crawl).stopped
  | act id =>
    simp only [move, step]
    split
    · exact disturbed
    · rename_i duty found
      rcases disturbed with stopped | ⟨other, member, broken⟩
      · exact Or.inl (Shift.step_stopped id stopped)
      · right
        rcases mem_set_or _ found member with rfl | still
        · exact ⟨_, mem_set_own found, Shift.step_broken id broken⟩
        · exact ⟨other, still, broken⟩

theorem going_of_calm {moment : Moment} (calm : ¬ (team.move setting moment).Disturbed) :
    team.crawl.stopped = false := by
  apply Bool.eq_false_iff.mpr
  intro stopped
  exact calm (move_disturbed setting team moment (Or.inl stopped))

/-- Workers that leave no job behind. What is claimed is in somebody's hands, and what is finished
is recorded. -/
structure Attended (known : List String) (jobs : List Job) (team : Team Tally) : Prop where
  assigned : team.Assigned known jobs
  claimed : ∀ root ∈ team.crawl.desk.guard.active, ∃ duty ∈ team.duties, duty.holds root = true
  undropped : ∀ job phase, .resolving job phase ∈ team.duties → phase.drops = false
  records : ∀ text, text ∈ team.crawl.desk.store.roots ↔
    text ∈ known ∨ ⟨text⟩ ∈ team.crawl.desk.guard.finished
  elder : team.crawl.elder = none
  opened : team.crawl.desk.store.database.isOpen = true

theorem Attended.turn (attended : team.Attended known jobs) (found : team.duties[id]? = some duty)
    (notices : List Notice) (rests : duty.rests = true)
    (fresh : ∀ job phase, after = .resolving job phase → phase.drops = false)
    (assigned : (⟨team.duties.set id after, queue, team.crawl.note notices⟩ : Team Tally).Assigned
      known jobs) :
    (⟨team.duties.set id after, queue, team.crawl.note notices⟩ : Team Tally).Attended known jobs
      where
  assigned := assigned
  claimed root active := by
    obtain ⟨holder, member, holds⟩ := attended.claimed root active
    rcases mem_set_or after found member with rfl | still
    · rw [Duty.rests_holds rests] at holds
      cases holds
    · exact ⟨holder, still, holds⟩
  undropped job phase member := by
    rcases List.mem_or_eq_of_mem_set member with before | same
    · exact attended.undropped job phase before
    · exact fresh job phase same.symm
  records := attended.records
  elder := attended.elder
  opened := attended.opened

theorem Attended.work (attended : team.Attended known jobs)
    (found : team.duties[id]? = some (.resolving job phase)) (going : team.crawl.stopped = false)
    (still : (job.step setting phase team.crawl).2.stopped = false)
    (unbroken : (job.step setting phase team.crawl).1.isSound = true) :
    (⟨team.duties.set id (.resolving job (job.step setting phase team.crawl).1), team.queue,
      (job.step setting phase team.crawl).2⟩ : Team Tally).Attended known jobs := by
  obtain ⟨assigned, claimed, undropped, records, elder, opened⟩ := attended
  have kept := undropped job phase (List.mem_of_getElem? found)
  refine ⟨assigned.work going opened records found kept, ?_, ?_,
    Job.step_records going elder opened records, Job.step_elder elder, ?_⟩
  · intro root active
    -- of its own root the worker may take or give back the claim, all others stay where they are
    by_cases own : root = job.root
    · subst own
      rcases Job.step_active kept active with holds | ⟨before, free⟩
      · exact ⟨_, mem_set_own found, by simp [Duty.holds, holds]⟩
      · obtain ⟨holder, member, holds⟩ := claimed job.root before
        rcases mem_set_or _ found member with rfl | other
        · simp [Duty.holds, free] at holds
        · exact ⟨holder, other, holds⟩
    · have before := (Job.step_elsewhere setting phase team.crawl own).1.mp active
      obtain ⟨holder, member, holds⟩ := claimed root before
      rcases mem_set_or _ found member with rfl | other
      · simp [Duty.holds, Ne.symm own] at holds
      · exact ⟨holder, other, holds⟩
  · intro other next member
    rcases List.mem_or_eq_of_mem_set member with before | same
    · exact undropped other next before
    · cases same
      exact Job.step_undropped going kept unbroken
  · rw [Job.step_tally job setting phase going elder opened, still]
    rfl

theorem Attended.step (attended : team.Attended known jobs) (id : Nat)
    (calm : ¬ (team.step setting id).Disturbed) : (team.step setting id).Attended known jobs := by
  have moved : ¬ (team.move setting (.act id)).Disturbed := calm
  have going := going_of_calm moved
  unfold Team.step at calm ⊢
  cases found : team.duties[id]? with
  | none => exact attended
  | some duty =>
    simp only [found] at calm ⊢
    have outcome := Shift.step_outcome setting id ⟨duty, team.queue, team.crawl⟩
    generalize Shift.step setting id ⟨duty, team.queue, team.crawl⟩ = shift at outcome calm
    cases outcome with
    | worked resolving more =>
      simp only at resolving
      subst resolving
      apply attended.work found going
      · exact Bool.eq_false_iff.mpr fun stopped => calm (Or.inl stopped)
      · exact unbroken_of_calm calm _ (mem_set_own found)
    | took picking waiting =>
      simp only at picking
      subst picking
      apply attended.turn found [] rfl
      · rintro other phase ⟨⟩
        rfl
      · exact attended.assigned.take found waiting
    | retired notices polling stopped =>
      rw [going] at stopped
      cases stopped
    | looked polling going =>
      simp only at polling
      subst polling
      exact attended.turn found [] rfl nofun (attended.assigned.keep found rfl rfl nofun nofun)
    | spent picking none =>
      simp only at picking
      subst picking
      exact attended.turn found [] rfl nofun
        (attended.assigned.keep found rfl rfl nofun fun _ => none)
    | returned resolving =>
      simp only at resolving
      subst resolving
      exact attended.turn found [] rfl nofun (attended.assigned.keep found rfl rfl nofun nofun)
    | broke resolving => exact absurd (Or.inr ⟨_, mem_set_own found, rfl⟩) calm
    | rested ended =>
      have same : team.duties.set id duty = team.duties := by
        obtain ⟨_, here⟩ := List.getElem?_eq_some_iff.mp found
        rw [← here, List.set_getElem_self]
      simp only [same]
      exact attended

theorem Attended.move (attended : team.Attended known jobs) (moment : Moment)
    (calm : ¬ (team.move setting moment).Disturbed) :
    (team.move setting moment).Attended known jobs := by
  cases moment with
  | act id => exact attended.step id calm
  | raise => exact absurd (Or.inl (Crawl.raise_stopped team.crawl)) calm
  | close =>
    simp only [Team.move, team.crawl.closeAfterStop_going (going_of_calm calm)]
    exact attended

/-- A run is disturbed, or its workers have left no job behind. -/
theorem Attended.play (attended : team.Attended known jobs) (moments : List Moment) :
    (team.play setting moments).Disturbed ∨ (team.play setting moments).Attended known jobs := by
  apply play_keeps setting (fun team => team.Disturbed ∨ team.Attended known jobs)
  · intro team moment before
    by_cases calm : (team.move setting moment).Disturbed
    · exact Or.inl calm
    · rcases before with disturbed | attended
      · exact absurd (move_disturbed setting team moment disturbed) calm
      · exact Or.inr (attended.move moment calm)
  · exact Or.inr attended

theorem Attended.settled (attended : team.Attended known jobs)
    (idle : ∀ duty ∈ team.duties, duty = .idle) :
    ∀ job ∈ jobs, job.root.text ∈ team.crawl.desk.store.roots := by
  intro job member
  obtain ⟨worker, some_worker⟩ := List.exists_mem_of_ne_nil _ attended.assigned.staffed
  have empty := attended.assigned.spent (idle worker some_worker ▸ some_worker)
  rcases attended.assigned.covered job member with waiting | ⟨duty, at_duty, asks⟩ | turned
  · rw [empty] at waiting
    cases waiting
  · rw [idle duty at_duty] at asks
    cases asks
  · rcases turned with recorded | active | finished
    · exact (attended.records _).mpr (Or.inl recorded)
    · obtain ⟨holder, at_holder, holds⟩ := attended.claimed job.root active
      rw [idle holder at_holder] at holds
      cases holds
    · exact (attended.records _).mpr (Or.inr finished)

end Team

/-- The database is closed, and the guard does not know the root by itself. -/
def Crawl.Forgets (crawl : Crawl Tally) (root : Root) : Prop :=
  crawl.desk.store.database.isOpen = false ∧ root ∉ crawl.desk.guard.active ∧
    root ∉ crawl.desk.guard.finished

theorem Crawl.Forgets.free {crawl : Crawl Tally} {root : Root} (forgets : crawl.Forgets root) :
    (crawl.desk.isTaken root).1 = false := by
  obtain ⟨shut, unclaimed, unfinished⟩ := forgets
  have isClosed : RootStore.isClosed crawl.desk.store = true := congrArg not shut
  rw [Bool.eq_false_iff, ne_eq, Desk.isTaken_iff, Desk.recorded_eq, isClosed]
  simp [unclaimed, unfinished]

theorem Crawl.forgets_of_free {crawl : Crawl Tally} {root : Root}
    (recorded : root.text ∈ crawl.desk.store.roots)
    (free : (crawl.desk.isTaken root).1 = false) : crawl.Forgets root := by
  rw [Bool.eq_false_iff, ne_eq, Desk.isTaken_iff, not_or, not_or] at free
  obtain ⟨unclaimed, unfinished, unread⟩ := free
  refine ⟨Bool.eq_false_iff.mpr fun opened => ?_, unclaimed, unfinished⟩
  exact unread ((Desk.recorded_tally opened root).mpr recorded)

theorem Job.step_skips {job : Job} {setting : Setting} {crawl : Crawl Tally} {phase : Phase}
    (recorded : job.root.text ∈ crawl.desk.store.roots) (free : phase.holds = false)
    (unbroken : phase.isSound = true) (known : phase = .entering → ¬ crawl.Forgets job.root) :
    (job.step setting phase crawl).1.holds = false ∧
      (job.step setting phase crawl).1.isSound = true ∧
      ∃ notices, (job.step setting phase crawl).2 = crawl.note notices := by
  cases phase with
  | asking =>
    simp only [step]
    split
    · exact ⟨rfl, rfl, _, rfl⟩
    · exact ⟨rfl, rfl, [], rfl⟩
  | entering =>
    have taken : (crawl.desk.isTaken job.root).1 = true := by
      apply eq_true_of_ne_false
      intro untaken
      exact known rfl (Crawl.forgets_of_free recorded untaken)
    simp only [step, Crawl.enter, Desk.claim, taken]
    exact ⟨rfl, rfl, _, rfl⟩
  | done => exact ⟨rfl, rfl, [], rfl⟩
  | panicked => cases unbroken
  | _ => cases free

def Duty.Skips (roots : List String) : Duty → Prop
  | .resolving job phase => job.root.text ∈ roots ∧ phase.holds = false ∧ phase.isSound = true
  | .lost => False
  | .polling | .picking | .idle => True

theorem Duty.Skips.sound {roots : List String} {duty : Duty} (skips : duty.Skips roots) :
    duty.isSound = true := by
  cases duty with
  | resolving job phase => exact skips.2.2
  | lost => exact skips.elim
  | _ => rfl

theorem Shift.step_isOpen {setting : Setting} {shift : Shift Tally} (id : Nat)
    (opened : (shift.step setting id).crawl.desk.store.database.isOpen = true) :
    shift.crawl.desk.store.database.isOpen = true := by
  have outcome := step_outcome setting id shift
  generalize shift.step setting id = after at outcome opened
  cases outcome with
  | @worked job phase resolving more =>
    exact (job.step_grows setting shift.crawl phase).isOpen opened
  | _ => exact opened

theorem Shift.step_skips (setting : Setting) (id : Nat) (shift : Shift Tally)
    (skips : shift.duty.Skips shift.crawl.desk.store.roots)
    (recorded : ∀ job ∈ shift.queue, job.root.text ∈ shift.crawl.desk.store.roots)
    (known : ∀ job, shift.duty = .resolving job .entering → ¬ shift.crawl.Forgets job.root) :
    (shift.step setting id).duty.Skips shift.crawl.desk.store.roots ∧
      (shift.step setting id).queue ⊆ shift.queue ∧
      ∃ notices, (shift.step setting id).crawl = shift.crawl.note notices := by
  have outcome := step_outcome setting id shift
  generalize shift.step setting id = after at outcome
  cases outcome with
  | retired notices polling stopped => exact ⟨trivial, List.Subset.refl _, notices, rfl⟩
  | looked polling going => exact ⟨trivial, List.Subset.refl _, [], rfl⟩
  | spent picking none => exact ⟨trivial, List.Subset.refl _, [], rfl⟩
  | @took job queue picking waiting =>
    refine ⟨⟨recorded job (waiting ▸ List.mem_cons_self), rfl, rfl⟩, ?_, [], rfl⟩
    rw [waiting]
    exact List.subset_cons_self job queue
  | @worked job phase resolving more =>
    rw [resolving] at skips
    obtain ⟨held, free, unbroken⟩ := skips
    have remembered : phase = .entering → ¬ shift.crawl.Forgets job.root := by
      rintro rfl
      exact known job resolving
    obtain ⟨still, sound, noted⟩ := Job.step_skips held free unbroken remembered
    exact ⟨⟨held, still, sound⟩, List.Subset.refl _, noted⟩
  | returned resolving => exact ⟨trivial, List.Subset.refl _, [], rfl⟩
  | broke resolving =>
    rw [resolving] at skips
    cases skips.2.2
  | rested ended => exact ⟨skips, List.Subset.refl _, [], rfl⟩

namespace Team

variable {setting : Setting} {team : Team Tally} {fetched : List String}
  {accepted : List Sitemap.Entry}

/-- A worker found no stop flag, and comes to the lock when the database is closed and its root
forgotten. -/
def LetsIn (team : Team Tally) (id : Nat) : Prop :=
  ∃ job, team.duties[id]? = some (.resolving job .entering) ∧ team.crawl.Forgets job.root

/-- A worker that is let in has the claim, and goes on to gather locations. -/
theorem LetsIn.gathers {id : Nat} (lets : team.LetsIn id) :
    ∃ job, (team.step setting id).duties[id]? = some (.resolving job .gathering) := by
  obtain ⟨job, found, forgets⟩ := lets
  refine ⟨job, ?_⟩
  rcases team.crawl.enter_outcome job.root with ⟨taken, -, -⟩ | ⟨-, granted, -⟩
  · rw [forgets.free] at taken
    cases taken
  · simp only [step, found, Shift.step, Job.step, granted]
    exact set_self _ found

structure Spared (fetched : List String) (accepted : List Sitemap.Entry) (team : Team Tally) : Prop
    where
  duties : ∀ duty ∈ team.duties, duty.Skips team.crawl.desk.store.roots
  queue : ∀ job ∈ team.queue, job.root.text ∈ team.crawl.desk.store.roots
  fetched : team.crawl.journal.fetched = fetched
  accepted : team.crawl.journal.accepted = accepted
  emitted : team.crawl.desk.store.emitted = 0

theorem Spared.move (spared : team.Spared fetched accepted) (moment : Moment)
    (known : ∀ id, moment = .act id → ¬ team.LetsIn id) :
    (team.move setting moment).Spared fetched accepted := by
  obtain ⟨duties, queue, same_fetched, same_accepted, emitted⟩ := spared
  cases moment with
  | raise =>
    refine ⟨duties, queue, ?_, ?_, emitted⟩
    · exact (Journal.fetched_note _ _).trans same_fetched
    · exact (Journal.accepted_note _ _).trans same_accepted
  | close =>
    simp only [Team.move]
    cases stopped : team.crawl.stopped with
    | true =>
      -- a closed database keeps its tables
      simp only [Crawl.closeAfterStop, stopped, if_true]
      refine ⟨duties, queue, ?_, ?_, emitted⟩
      · exact (Journal.fetched_note _ _).trans same_fetched
      · exact (Journal.accepted_note _ _).trans same_accepted
    | false =>
      rw [team.crawl.closeAfterStop_going stopped]
      exact ⟨duties, queue, same_fetched, same_accepted, emitted⟩
  | act id =>
    simp only [Team.move, Team.step]
    split
    · exact ⟨duties, queue, same_fetched, same_accepted, emitted⟩
    · rename_i duty found
      have remembered : ∀ job, duty = .resolving job .entering →
          ¬ team.crawl.Forgets job.root := by
        rintro job rfl forgets
        exact known id rfl ⟨job, found, forgets⟩
      obtain ⟨skips, fewer, notices, noted⟩ := Shift.step_skips setting id
        ⟨duty, team.queue, team.crawl⟩ (duties duty (List.mem_of_getElem? found)) queue remembered
      simp only [noted]
      refine ⟨all_set duties skips, fun job member => queue job (fewer member), ?_, ?_, emitted⟩
      · exact (Journal.fetched_note _ _).trans same_fetched
      · exact (Journal.accepted_note _ _).trans same_accepted

theorem play_append (setting : Setting) (first second : List Moment) (team : Team Tally) :
    team.play setting (first ++ second) = (team.play setting first).play setting second :=
  List.foldl_append

/-- Workers whose roots are all recorded do nothing until one of them is let in. -/
theorem Spared.play (spared : team.Spared fetched accepted) (moments : List Moment) :
    (team.play setting moments).Spared fetched accepted ∨
      ∃ earlier id rest, moments = earlier ++ .act id :: rest ∧
        (team.play setting earlier).Spared fetched accepted ∧
        (team.play setting earlier).LetsIn id := by
  induction moments generalizing team with
  | nil => exact Or.inl spared
  | cons moment rest ih =>
    by_cases now : ∃ id, moment = .act id ∧ team.LetsIn id
    · obtain ⟨id, rfl, lets⟩ := now
      exact Or.inr ⟨[], id, rest, rfl, spared, lets⟩
    · have known : ∀ id, moment = .act id → ¬ team.LetsIn id :=
        fun id acts lets => now ⟨id, acts, lets⟩
      rcases ih (spared.move moment known) with still | ⟨earlier, id, later, split, before, lets⟩
      · exact Or.inl still
      · exact Or.inr ⟨moment :: earlier, id, later, by rw [split]; rfl, before, lets⟩

theorem play_closed (setting : Setting) (moments : List Moment) (team : Team Tally)
    (shut : team.crawl.desk.store.database.isOpen = false) :
    (team.play setting moments).crawl.desk.store.database.isOpen = false := by
  refine play_keeps setting (fun team => team.crawl.desk.store.database.isOpen = false) ?_ moments
    team shut
  intro team moment shut
  apply Bool.eq_false_iff.mpr
  intro opened
  have before : team.crawl.desk.store.database.isOpen = true := by
    cases moment with
    | raise => exact opened
    | close => exact (Crawl.closeAfterStop_drift team.crawl).grows.isOpen opened
    | act id =>
      simp only [Team.move, Team.step] at opened
      split at opened
      · exact opened
      · exact Shift.step_isOpen id opened
  rw [shut] at before
  cases before

end Team

namespace Coordinator

variable (coordinator : Coordinator)

theorem muster_attended (database : Database) (disk : Disk) (opened : database.isOpen = true) :
    (coordinator.muster (.start ⟨database, 0⟩ disk)).Attended database.tables.roots
      coordinator.jobs where
  assigned := (coordinator.muster_concerted database disk opened).assigned
  claimed root active := absurd active List.not_mem_nil
  undropped job phase member := by cases List.eq_of_mem_replicate member
  records text := (or_iff_left List.not_mem_nil).symm
  elder := rfl
  opened := opened

theorem muster_spared (crawl : Crawl Tally)
    (recorded : ∀ job ∈ coordinator.jobs, job.root.text ∈ crawl.desk.store.roots) :
    (coordinator.muster crawl).Spared crawl.journal.fetched crawl.journal.accepted where
  duties duty member := by
    rw [List.eq_of_mem_replicate member]
    trivial
  queue := recorded
  fetched := Journal.fetched_note _ _
  accepted := Journal.accepted_note _ _
  emitted := rfl

theorem outcome_undisturbed {team : Team Tally} {summary : Summary}
    (ended : ∀ duty ∈ team.duties, duty.isOver = true)
    (returned : coordinator.outcome team = .ok summary) (whole : summary.interrupted = false) :
    ¬ team.Disturbed := by
  unfold outcome at returned
  split at returned
  · rename_i none_lost
    cases returned
    rintro (stopped | ⟨duty, member, broken⟩)
    · exact Bool.false_ne_true (whole.symm.trans stopped)
    · have kept := List.countP_eq_zero.mp none_lost duty member
      cases duty with
      | lost => exact kept rfl
      | resolving job phase => cases ended _ member
      | _ => cases broken
  · cases returned

/-- The run on a crawl fetched nothing and handed nothing over, and that is what it tells. -/
def Idles (crawl : Crawl Tally) (team : Team Tally) : Prop :=
  team.crawl.journal.fetched = crawl.journal.fetched ∧
    team.crawl.journal.accepted = crawl.journal.accepted ∧
    coordinator.outcome team =
      .ok ⟨coordinator.jobs.length, coordinator.plans.length, 0, team.crawl.stopped⟩

theorem idles_spared {crawl : Crawl Tally} {team : Team Tally}
    (spared : team.Spared crawl.journal.fetched crawl.journal.accepted) :
    coordinator.Idles crawl team := by
  refine ⟨spared.fetched, spared.accepted, ?_⟩
  unfold outcome summary
  rw [if_pos (Team.none_lost fun duty member => (spared.duties duty member).sound), spared.emitted]

theorem seeds_recorded {config : Config} {setting : Setting} {coordinator : Coordinator}
    (planned : plan config setting = .ok coordinator) {known : List String} {team : Team Tally}
    (attended : team.Attended known coordinator.jobs)
    (ended : ∀ duty ∈ team.duties, duty.isOver = true) (calm : ¬ team.Disturbed) :
    ∀ seed ∈ config.seeds, ∃ root, Root.parse seed.url = .ok root ∧
      root.text ∈ team.crawl.desk.store.roots := by
  have recorded := attended.settled fun duty member =>
    Duty.over_idle (ended duty member) (Team.unbroken_of_calm calm duty member)
  intro seed member
  obtain ⟨job, given, parsed⟩ := plan_covers planned seed member
  exact ⟨job.root, parsed, recorded job given⟩

/-- A run over tables with all its roots has nothing to do until a worker is let in, which does not
happen as long as the database is open. -/
theorem recorded_idles {crawl : Crawl Tally}
    (recorded : ∀ job ∈ coordinator.jobs, job.root.text ∈ crawl.desk.store.roots)
    (setting : Setting) (moments : List Moment) :
    let start := coordinator.muster crawl
    let team := start.play setting moments
    (team.crawl.desk.store.database.isOpen = true → coordinator.Idles crawl team) ∧
    (coordinator.Idles crawl team ∨ ∃ earlier id rest, moments = earlier ++ .act id :: rest ∧
      (start.play setting earlier).crawl.journal.fetched = crawl.journal.fetched ∧
      (start.play setting earlier).LetsIn id) := by
  intro start team
  rcases (coordinator.muster_spared crawl recorded).play moments with
    spared | ⟨earlier, id, rest, split, before, lets⟩
  · have idles := coordinator.idles_spared spared
    exact ⟨fun _ => idles, Or.inl idles⟩
  · refine ⟨fun opened => ?_, Or.inr ⟨earlier, id, rest, split, before.fetched, lets⟩⟩
    obtain ⟨job, -, shut, -⟩ := lets
    have closed := Team.play_closed setting (.act id :: rest) _ shut
    rw [← Team.play_append, ← split] at closed
    exact absurd (opened.symm.trans closed) Bool.true_eq_false.mp

/-- A run over an open database that returned a result and was not interrupted has recorded the
root of every seed, whatever the sites answered and in whatever order the workers acted. After that,
a run for some of these seeds over the same tables, be it under the same guard or a new one, fetches
nothing and hands nothing over as long as the database is open, and beyond that until a worker comes
to the lock with a root that the guard does not know by itself: that worker is let in. -/
theorem uninterrupted_resolves {config : Config} {setting : Setting} {coordinator : Coordinator}
    (planned : plan config setting = .ok coordinator) (database : Database)
    (opened : database.isOpen = true) (disk : Disk) (moments : List Moment) (summary : Summary) :
    let team := (coordinator.muster (.start ⟨database, 0⟩ disk)).play setting moments
    (∀ duty ∈ team.duties, duty.isOver = true) → coordinator.outcome team = .ok summary →
    summary.interrupted = false →
      (∀ seed ∈ config.seeds, ∃ root, Root.parse seed.url = .ok root ∧
        RootStore.isResolved team.crawl.desk.store root = .ok true) ∧
      ∀ (other : Config) (elsewhere : Setting) (again : Coordinator) (crawl : Crawl Tally)
        (later : List Moment), plan other elsewhere = .ok again → other.seeds ⊆ config.seeds →
        crawl.desk.store.database.tables = team.crawl.desk.store.database.tables →
        let start := again.muster crawl
        let second := start.play elsewhere later
        (second.crawl.desk.store.database.isOpen = true → again.Idles crawl second) ∧
        (again.Idles crawl second ∨ ∃ earlier id rest, later = earlier ++ .act id :: rest ∧
          (start.play elsewhere earlier).crawl.journal.fetched = crawl.journal.fetched ∧
          (start.play elsewhere earlier).LetsIn id) ∧
        ∀ earlier id, (start.play elsewhere earlier).LetsIn id →
          ∃ job, ((start.play elsewhere earlier).step elsewhere id).duties[id]? =
            some (.resolving job .gathering) := by
  intro team ended returned whole
  have calm := coordinator.outcome_undisturbed ended returned whole
  have start := coordinator.muster_attended database disk opened
  have attended := (start.play moments).resolve_left calm
  have resolved := seeds_recorded planned attended ended calm
  constructor
  · intro seed member
    obtain ⟨root, parsed, held⟩ := resolved seed member
    refine ⟨root, parsed, ?_⟩
    exact (Desk.recorded_iff team.crawl.desk root).mp
      ((Desk.recorded_tally attended.opened root).mpr held)
  · intro other elsewhere again crawl later replanned fewer same start second
    have recorded : ∀ job ∈ again.jobs, job.root.text ∈ crawl.desk.store.roots := by
      intro job member
      obtain ⟨seed, listed, parsed⟩ := plan_seeded replanned job member
      obtain ⟨root, read, held⟩ := resolved seed (fewer listed)
      rw [parsed] at read
      cases read
      unfold Tally.roots
      rw [same]
      exact held
    obtain ⟨still, until_then⟩ := again.recorded_idles recorded elsewhere later
    exact ⟨still, until_then, fun earlier id lets => lets.gathers⟩

theorem uninterrupted_resolves_pair :
    let database := Database.create .memory
    let moments := (List.replicate 26 [0, 1]).flatten.map Moment.act
    let team := (pair.muster (.start ⟨database, 0⟩ .empty)).play pair.setting moments
    plan neighbours pair.setting = .ok pair ∧ database.isOpen = true ∧
      (∀ duty ∈ team.duties, duty.isOver = true) ∧ pair.outcome team = .ok ⟨3, 2, 2, false⟩ ∧
      (∀ seed ∈ neighbours.seeds, ∃ root, Root.parse seed.url = .ok root ∧
        RootStore.isResolved team.crawl.desk.store root = .ok true) ∧
      ((pair.muster team.crawl).play pair.setting moments).crawl.journal.fetched =
        team.crawl.journal.fetched ∧
      ((pair.muster team.crawl.renew).play pair.setting moments).crawl.journal.fetched =
        team.crawl.renew.journal.fetched ∧
      pair.outcome ((pair.muster team.crawl.renew).play pair.setting moments) =
        .ok ⟨3, 2, 0, false⟩ := by
  intro database moments team
  have planned : plan neighbours pair.setting = .ok pair := rfl
  obtain ⟨ended, unbroken, summed⟩ : (∀ duty ∈ team.duties, duty.isOver = true) ∧
      team.lost = 0 ∧ pair.summary team.crawl = ⟨3, 2, 2, false⟩ := by decide +kernel
  have returned : pair.outcome team = .ok ⟨3, 2, 2, false⟩ := by
    unfold outcome
    rw [if_pos unbroken, summed]
  obtain ⟨resolved, spared⟩ := uninterrupted_resolves planned database rfl .empty moments _ ended
    returned rfl
  have first : (pair.muster (.start ⟨database, 0⟩ .empty)).play pair.setting moments = team := rfl
  rw [first] at resolved spared
  obtain ⟨kept, still, going⟩ : ((pair.muster team.crawl).play pair.setting
        moments).crawl.desk.store.database.isOpen = true ∧
      ((pair.muster team.crawl.renew).play pair.setting
        moments).crawl.desk.store.database.isOpen = true ∧
      ((pair.muster team.crawl.renew).play pair.setting moments).crawl.stopped = false := by
    decide +kernel
  have retained : ∀ crawl : Crawl Tally,
      crawl.renew.desk.store.database = crawl.desk.store.database := fun _ => rfl
  obtain ⟨same, -, -⟩ := (spared neighbours pair.setting pair team.crawl moments planned
    (List.Subset.refl _) rfl).1 kept
  obtain ⟨renewed, -, outcome⟩ := (spared neighbours pair.setting pair team.crawl.renew moments
    planned (List.Subset.refl _) (congrArg Database.tables (retained team.crawl))).1 still
  refine ⟨planned, rfl, ended, returned, resolved, same, renewed, outcome.trans ?_⟩
  rw [going]
  rfl

/-- One site, of which nothing is given. -/
def remote : Config := { neighbours with seeds := [⟨"http://[::1]/", []⟩] }

def hermit : Coordinator :=
  let plans : List RootPlan := [⟨⟨"http://[::1]"⟩, [], false⟩]
  ⟨pair.setting, plans, jobsOf plans remote.seeds true, 2⟩

/-- A recorded site is fetched from anew, under the same guard if a stop comes up between the look at
the flag and the lock, and under a new guard if it came up between the runs. -/
theorem uninterrupted_refetched :
    let database : Database := ⟨.memory, ⟨["http://[::1]"], []⟩, true⟩
    let team := (hermit.muster (.start ⟨database, 0⟩ .empty)).play hermit.setting
      (List.replicate 7 (.act 0))
    let second := (hermit.muster team.crawl).play hermit.setting
      (List.replicate 3 (.act 0) ++ [.raise, .close] ++ List.replicate 9 (.act 0))
    let renewed := team.crawl.raise.closeAfterStop.renew
    let third := (hermit.muster renewed).play hermit.setting (List.replicate 5 (.act 0))
    plan remote hermit.setting = .ok hermit ∧ database.isOpen = true ∧
      (∀ duty ∈ team.duties, duty.isOver = true) ∧ hermit.outcome team = .ok ⟨1, 1, 0, false⟩ ∧
      team.crawl.journal.fetched = [] ∧
      (∀ duty ∈ second.duties, duty.isOver = true) ∧
      hermit.outcome second = .ok ⟨1, 1, 0, true⟩ ∧
      second.crawl.journal.fetched = ["http://[::1]/robots.txt"] ∧
      third.crawl.journal.fetched = ["http://[::1]/robots.txt"] := by
  intro database team second renewed third
  have planned : plan remote hermit.setting = .ok hermit := rfl
  obtain ⟨ended, unbroken, summed, idle⟩ : (∀ duty ∈ team.duties, duty.isOver = true) ∧
      team.lost = 0 ∧ hermit.summary team.crawl = ⟨1, 1, 0, false⟩ ∧
      team.crawl.journal.fetched = [] := by decide +kernel
  obtain ⟨finished, whole, stopped, again⟩ : (∀ duty ∈ second.duties, duty.isOver = true) ∧
      second.lost = 0 ∧ hermit.summary second.crawl = ⟨1, 1, 0, true⟩ ∧
      second.crawl.journal.fetched = ["http://[::1]/robots.txt"] := by decide +kernel
  refine ⟨planned, rfl, ended, ?_, idle, finished, ?_, again, by decide +kernel⟩
  · rw [outcome, if_pos unbroken, summed]
  · rw [outcome, if_pos whole, stopped]

end Coordinator

end Sitemaps
