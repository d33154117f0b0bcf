import Mathlib.Data.List.Nodup
import Sitemaps.Proofs.Attendance
import Sitemaps.Proofs.Identity
import Sitemaps.Proofs.Lockstep
import Sitemaps.Proofs.Resuming

/-!
Seeds of one root give one job each, but only the first of them counts. With one worker, a run over
the plans that the seeds are grouped into does what a run over the seeds does.
-/

namespace Sitemaps

section Runs

variable {σ : Type} [RootStore σ] [Sink σ] (setting : Setting)

def Job.inTurn (id : Nat) : List Job → Crawl σ → Duty × Crawl σ
  | [], crawl => (.idle, if crawl.stopped then crawl.debug s!"Worker {id} stopping" else crawl)
  | job :: jobs, crawl =>
    if crawl.stopped then (.idle, crawl.debug s!"Worker {id} stopping")
    else
      let (phase, later) := job.run setting crawl
      if phase.isDone then inTurn id jobs later else (.lost, later)

namespace Shift

variable {setting} {id : Nat} {job : Job} {jobs : List Job}

theorem run_step (shift : Shift σ) :
    (shift.step setting id).run setting id = shift.run setting id := by
  by_cases more : shift.duty.isOver = false
  · conv => rhs; rw [run]
    rw [dif_pos more]
  · obtain ⟨duty, queue, crawl⟩ := shift
    cases duty with
    | idle => rfl
    | lost => rfl
    | _ => exact absurd rfl more

theorem run_runFrom (phase : Phase) (crawl : Crawl σ) :
    (⟨.resolving job (job.runFrom setting phase crawl).1, jobs,
      (job.runFrom setting phase crawl).2⟩ : Shift σ).run setting id =
        (⟨.resolving job phase, jobs, crawl⟩ : Shift σ).run setting id := by
  fun_induction job.runFrom setting phase crawl with
  | case1 phase crawl more next ih =>
    rw [ih, ← run_step ⟨.resolving job phase, jobs, crawl⟩]
    cases phase with
    | done => cases more
    | panicked => cases more
    | _ => rfl
  | case2 phase crawl ended => rfl

theorem run_over {shift : Shift σ} (ended : shift.duty.isOver = true) :
    shift.run setting id = shift := by
  rw [run]
  exact dif_neg (by simp [ended])

theorem run_polling {queue : List Job} {crawl : Crawl σ} (going : crawl.stopped = false) :
    (⟨.polling, queue, crawl⟩ : Shift σ).run setting id =
      (⟨.picking, queue, crawl⟩ : Shift σ).run setting id := by
  rw [← run_step ⟨.polling, queue, crawl⟩]
  simp [step, going]

theorem run_stopped {queue : List Job} {crawl : Crawl σ} (stopped : crawl.stopped = true) :
    (⟨.polling, queue, crawl⟩ : Shift σ).run setting id =
      ⟨.idle, queue, crawl.debug s!"Worker {id} stopping"⟩ := by
  rw [← run_step ⟨.polling, queue, crawl⟩, run_over]
  · simp [step, stopped]
  · simp [step, stopped, Duty.isOver]

theorem run_inTurn (crawl : Crawl σ) :
    ((⟨.polling, jobs, crawl⟩ : Shift σ).run setting id).duty =
        (Job.inTurn setting id jobs crawl).1 ∧
      ((⟨.polling, jobs, crawl⟩ : Shift σ).run setting id).crawl =
        (Job.inTurn setting id jobs crawl).2 := by
  induction jobs generalizing crawl with
  | nil =>
    cases stopped : crawl.stopped with
    | true => simp [run_stopped stopped, Job.inTurn, stopped]
    | false =>
      rw [run_polling stopped, ← run_step ⟨.picking, [], crawl⟩, run_over rfl]
      simp [Job.inTurn, step, stopped]
  | cons job jobs ih =>
    cases stopped : crawl.stopped with
    | true => simp [run_stopped stopped, Job.inTurn, stopped]
    | false =>
      have taken : (⟨.polling, job :: jobs, crawl⟩ : Shift σ).run setting id =
          (⟨.resolving job (job.run setting crawl).1, jobs, (job.run setting crawl).2⟩ :
            Shift σ).run setting id := by
        rw [run_polling stopped, Job.run, run_runFrom, ← run_step ⟨.picking, job :: jobs, crawl⟩]
        rfl
      have ended : (job.run setting crawl).1.isOver = true :=
        (job.runFrom_keeps setting (fun _ _ => True) (fun _ _ _ => trivial) .asking crawl
          trivial).2
      rw [taken, ← run_step]
      simp only [Job.inTurn, stopped, Bool.false_eq_true, if_false]
      generalize job.run setting crawl = last at ended ⊢
      obtain ⟨phase, later⟩ := last
      cases phase with
      | done => exact ih later
      | panicked =>
        rw [run_over rfl]
        exact ⟨rfl, rfl⟩
      | _ => cases ended

end Shift

end Runs

namespace Crawl

variable {σ : Type} [RootStore σ]

def knows (crawl : Crawl σ) (root : Root) : Prop :=
  root ∈ crawl.desk.guard.finished ∨ (crawl.desk.recorded root).1 = true

end Crawl

namespace Job

variable {σ : Type} [RootStore σ] [Sink σ] {job : Job} {setting : Setting}

/-- A job that has the claim if one is out. Some roots are known as long as no stop comes up, and
its own root is known once it is done. -/
structure Alone (job : Job) (roots : List Root) (phase : Phase) (crawl : Crawl σ) : Prop where
  elder : crawl.elder = none
  active : crawl.desk.guard.active = if phase.holds then [job.root] else []
  known : crawl.stopped = false → ∀ root ∈ roots, crawl.knows root
  own : crawl.stopped = false → phase = .done → crawl.knows job.root
  undropped : crawl.stopped = false → phase ≠ .dropping false

variable {roots : List Root} {phase : Phase} {crawl : Crawl σ}

theorem run_known (going : crawl.stopped = false) (known : crawl.knows job.root) :
    ∃ notices, job.run setting crawl = (.done, crawl.note notices) := by
  have taken : (crawl.desk.isTaken job.root).1 = true :=
    (Desk.isTaken_iff crawl.desk job.root).mpr (Or.inr known)
  obtain ⟨notices, refused⟩ : ∃ notices, crawl.enter job.root = (false, crawl.note notices) := by
    refine ⟨(crawl.desk.isTaken job.root).2, ?_⟩
    simp [Crawl.enter, Desk.claim, taken]
  refine ⟨notices, ?_⟩
  have asked : job.step setting .asking crawl = (.entering, crawl) := by simp [step, going]
  have entered : job.step setting .entering crawl = (.done, crawl.note notices) := by
    simp [step, refused]
  have second : job.after setting crawl 2 = (.done, crawl.note notices) := by
    simp only [after, asked, entered]
  rw [run_after job setting (n := 2) (by rw [second]; rfl), second]

variable [lawful : LawfulSink σ]

theorem step_knows (elder : crawl.elder = none)
    (going : (job.step setting phase crawl).2.stopped = false) {root : Root}
    (known : crawl.knows root) : (job.step setting phase crawl).2.knows root := by
  rcases known with finished | recorded
  · exact Or.inl (step_finished job setting crawl phase finished)
  · right
    by_cases quiet : phase.turnsClaim = false
    · have drift := (step_drift job setting crawl quiet).1
      have never : ¬ ((job.step setting phase crawl).2.stopped = true ∨ crawl.elder ≠ none) := by
        simp [going, elder]
      rw [Desk.recorded_eq, drift.store.isClosed never, drift.store.holds, ← Desk.recorded_eq]
      exact recorded
    · cases phase with
      | entering =>
        simp only [step]
        rw [Desk.recorded_eq, Crawl.enter_store, ← Desk.recorded_eq]
        exact recorded
      | finishing visited => exact (crawl.finish_recorded job.root).1 root recorded
      | dropping panics => exact recorded
      | _ => exact absurd rfl quiet

theorem Alone.step (alone : job.Alone roots phase crawl) :
    job.Alone roots (job.step setting phase crawl).1 (job.step setting phase crawl).2 := by
  obtain ⟨elder, active, known, own, undropped⟩ := alone
  have before : (job.step setting phase crawl).2.stopped = false → crawl.stopped = false := by
    intro going
    rw [← Bool.not_eq_true]
    intro stopped
    rw [step_stopped job setting crawl phase stopped] at going
    cases going
  have still : (job.step setting phase crawl).2.stopped = false →
      ∀ root ∈ roots, (job.step setting phase crawl).2.knows root :=
    fun going root member => step_knows elder going (known (before going) root member)
  have later : (job.step setting phase crawl).2.elder = none := step_elder elder
  by_cases quiet : phase.turnsClaim = false
  · obtain ⟨drift, holds⟩ := step_drift job setting crawl quiet
    refine ⟨later, by rw [drift.active, holds, active], still, fun going ended => ?_,
      fun going dropped => ?_⟩
    · have unbroken : (job.step setting phase crawl).1 ≠ .dropping true := by
        simp [ended]
      obtain ⟨-, -, done⟩ := step_isOut job setting crawl quiet (before going) unbroken
      exact step_knows elder going (own (before going) (done ended))
    · have unbroken : (job.step setting phase crawl).1 ≠ .dropping true := by
        simp [dropped]
      exact (step_isOut job setting crawl quiet (before going) unbroken).1 false dropped
  · cases phase with
    | entering =>
      simp only [step] at later still ⊢
      rcases Crawl.enter_outcome crawl job.root with ⟨taken, refused, desk⟩ | ⟨-, granted, desk⟩
      · rw [refused]
        refine ⟨later, by rw [desk]; exact active, still, fun going _ => ?_, by simp⟩
        rcases (Desk.isTaken_iff crawl.desk job.root).mp taken with claimed | known
        · rw [active] at claimed
          cases claimed
        · unfold Crawl.knows
          rw [desk]
          exact known
      · rw [granted]
        exact ⟨later, by rw [desk]; exact congrArg (job.root :: ·) active, still, by simp, by simp⟩
    | finishing visited =>
      have guard : (job.step setting (.finishing visited) crawl).2.desk.guard = Desk.deactivate
          { crawl.desk.guard with finished := job.root :: crawl.desk.guard.finished } job.root :=
        Crawl.finish_guard crawl job.root
      refine ⟨later, ?_, still, fun _ _ => Or.inl ?_, by simp [step]⟩
      · rw [guard]
        simp [Desk.deactivate, active, Phase.holds, step]
      · rw [guard]
        exact List.mem_cons_self
    | dropping panics =>
      have guard : (job.step setting (.dropping panics) crawl).2.desk.guard =
          Desk.deactivate crawl.desk.guard job.root := rfl
      refine ⟨later, ?_, still, fun going ended => ?_, ?_⟩
      · rw [guard]
        cases panics <;> simp [Desk.deactivate, active, Phase.holds, step]
      · cases panics with
        | true => cases ended
        | false => exact absurd rfl (undropped going)
      · cases panics <;> simp [step]
    | _ => exact absurd rfl quiet

variable (setting) in
theorem Alone.run (alone : job.Alone roots .asking crawl) :
    let last := job.run setting crawl
    last.1.isOver = true ∧ last.2.elder = none ∧ last.2.desk.guard.active = [] ∧
      (last.2.stopped = false → ∀ root ∈ roots, last.2.knows root) ∧
      (last.1 = .done → last.2.stopped = false → last.2.knows job.root) := by
  intro last
  obtain ⟨kept, ended⟩ := job.runFrom_keeps setting (job.Alone roots)
    (fun _ _ before => before.step) .asking crawl alone
  refine ⟨ended, kept.elder, ?_, kept.known, fun done going => kept.own going done⟩
  have active : last.2.desk.guard.active = if last.1.holds then [job.root] else [] := kept.active
  have free : last.1.holds = false := by
    have halted : last.1.isOver = true := ended
    generalize last.1 = phase at halted
    cases phase with
    | done => rfl
    | panicked => rfl
    | _ => cases halted
  rw [active, free]
  rfl

end Job

structure Crawl.Even {σ : Type} (place : Place) (one other : Crawl σ) : Prop where
  guard : other.desk.guard = one.desk.guard
  store : one.desk.store = other.desk.store
  elder : other.elder = one.elder
  disk : one.disk.Alike place other.disk
  fetched : other.journal.fetched = one.journal.fetched

theorem Crawl.Even.note {σ : Type} {place : Place} {one other : Crawl σ}
    (even : one.Even place other) (notices others : List Notice) :
    (one.note notices).Even place (other.note others) :=
  ⟨even.guard, even.store, even.elder, even.disk, by simpa using even.fetched⟩

section Lockstep

variable {σ : Type} [RootStore σ] [Sink σ] {setting : Setting} {one other : Crawl σ}

theorem Setting.within_own (setting : Setting) : setting.scope.Within setting.scope := .refl _

def Pairing.even (setting : Setting) (even : one.Even setting.staging.place other) : Pairing σ where
  setting := setting
  narrow := setting.scope
  first := one
  second := other
  like := Eq
  told := Eq
  stops := True
  within := setting.within_own
  answers location fetched := by rw [even.fetched]
  called _ _ _ := trivial
  shown := id
  read same root := by rw [same]
  marked {first second} same root := by
    subst same
    cases RootStore.markResolved first root with
    | ok after => exact .stores rfl
    | error fault => exact .faults
  closed {first second} same _ := by
    subst same
    cases RootStore.close first with
    | ok after => exact .stores rfl
    | error fault => exact .faults
  taken {first second} same entry := by
    subst same
    cases Sink.accept first entry with
    | kept store notices stop => exact .kept rfl fun _ => trivial
    | panicked => exact .panicked
  skipped _ _ _ passes fails := by
    rw [passes] at fails
    cases fails

theorem Crawl.Even.run (even : one.Even setting.staging.place other) (job : Job) :
    (job.run setting other).1 = (job.run setting one).1 ∧
      (job.run setting one).2.Even setting.staging.place (job.run setting other).2 := by
  obtain ⟨phases, level⟩ := Pairing.run_abreast job
    ((Pairing.even setting even).start even.guard even.elder even.store even.disk)
  obtain ⟨fetched, first, second⟩ := level.fetched
  have asked : (Pairing.even setting even).second.journal.fetched =
      (Pairing.even setting even).first.journal.fetched := even.fetched
  have same := second.trans ((congrArg (· ++ fetched) asked).trans first.symm)
  exact ⟨phases, level.guard, level.store, level.elder, level.disk, same⟩

end Lockstep

/-- Jobs of which those are left out whose root came before. -/
inductive Thinned : List Root → List Job → List Job → Prop
  | nil (past : List Root) : Thinned past [] []
  | again {past : List Root} {job : Job} {jobs kept : List Job} (known : job.root ∈ past)
      (rest : Thinned past jobs kept) : Thinned past (job :: jobs) kept
  | first {past : List Root} {job : Job} {jobs kept : List Job}
      (rest : Thinned (past ++ [job.root]) jobs kept) : Thinned past (job :: jobs) (job :: kept)

section Thinned

variable {σ : Type} [RootStore σ] [Sink σ] {setting : Setting} {one other : Crawl σ}

theorem Job.inTurn_stopped {id : Nat} {jobs : List Job} (stopped : one.stopped = true) :
    inTurn setting id jobs one = (.idle, one.debug s!"Worker {id} stopping") := by
  cases jobs <;> simp [inTurn, stopped]

variable [lawful : LawfulSink σ]

/-- A worker does the same without the jobs whose root came before: until a stop that root is known
by then, so that nothing happens for it. -/
theorem Thinned.run {past : List Root} {jobs kept : List Job} (thinned : Thinned past jobs kept)
    (id : Nat) (even : one.Even setting.staging.place other) (elder : one.elder = none)
    (free : one.desk.guard.active = [])
    (known : one.stopped = false → ∀ root ∈ past, one.knows root) :
    (Job.inTurn setting id kept other).1 = (Job.inTurn setting id jobs one).1 ∧
      (Job.inTurn setting id jobs one).2.Even setting.staging.place
        (Job.inTurn setting id kept other).2 := by
  induction thinned generalizing one other with
  | nil past =>
    have stopped : other.stopped = one.stopped := congrArg Guard.stopped even.guard
    simp only [Job.inTurn, stopped]
    split
    · exact ⟨trivial, even.note _ _⟩
    · exact ⟨trivial, even⟩
  | @again past job jobs kept came rest ih =>
    cases stopped : one.stopped with
    | true =>
      have also : other.stopped = true := (congrArg Guard.stopped even.guard).trans stopped
      rw [Job.inTurn_stopped stopped, Job.inTurn_stopped also]
      exact ⟨rfl, even.note _ _⟩
    | false =>
      obtain ⟨notices, skipped⟩ : ∃ notices, job.run setting one = (.done, one.note notices) :=
        Job.run_known stopped (known stopped job.root came)
      have onward := ih (even.note notices []) elder free known
      simp only [Job.inTurn, stopped, Bool.false_eq_true, if_false, skipped]
      exact onward
  | @first past job jobs kept rest ih =>
    cases stopped : one.stopped with
    | true =>
      have also : other.stopped = true := (congrArg Guard.stopped even.guard).trans stopped
      rw [Job.inTurn_stopped stopped, Job.inTurn_stopped also]
      exact ⟨rfl, even.note _ _⟩
    | false =>
      have also : other.stopped = false := (congrArg Guard.stopped even.guard).trans stopped
      have alone : job.Alone past .asking one := ⟨elder, free, known, nofun, nofun⟩
      obtain ⟨ended, later, released, still, own⟩ := alone.run setting
      obtain ⟨phases, level⟩ := even.run job
      simp only [Job.inTurn, stopped, also, Bool.false_eq_true, if_false]
      generalize job.run setting one = last at ended later released still own phases level ⊢
      generalize job.run setting other = end_ at phases level ⊢
      obtain ⟨_, one⟩ := last
      obtain ⟨phase, other⟩ := end_
      simp only at ended later released still own phases level ⊢
      subst phases
      cases phase with
      | done =>
        apply ih level later released
        intro going root member
        rcases List.mem_append.mp member with before | last
        · exact still going root before
        · rw [List.mem_singleton.mp last]
          exact own rfl going
      | panicked => exact ⟨rfl, level⟩
      | _ => cases ended

end Thinned

namespace RootPlan

def seed (plan : RootPlan) : Seed := ⟨plan.root.text, plan.sitemaps⟩

theorem addSitemaps_root (plan : RootPlan) (sitemaps : List String) :
    (plan.addSitemaps sitemaps).root = plan.root := rfl

theorem insert_known {root : Root} {sitemaps : List String} {plans : List RootPlan}
    (known : root ∈ plans.map RootPlan.root) :
    (insert root sitemaps plans).map RootPlan.root = plans.map RootPlan.root := by
  induction plans with
  | nil => cases known
  | cons plan plans ih =>
    unfold insert
    split
    · rfl
    · rename_i other
      rcases List.mem_cons.mp known with here | later
      · exact absurd here.symm other
      · simp only [List.map_cons, ih later]

theorem insert_new {root : Root} {sitemaps : List String} {plans : List RootPlan}
    (new : root ∉ plans.map RootPlan.root) :
    insert root sitemaps plans = plans ++ [addSitemaps ⟨root, [], false⟩ sitemaps] := by
  induction plans with
  | nil => rfl
  | cons plan plans ih =>
    rw [List.map_cons, List.mem_cons, not_or] at new
    rw [insert, if_neg (Ne.symm new.1), ih new.2, List.cons_append]

theorem addSitemaps_nodup {plan : RootPlan} (sitemaps : List String)
    (distinct : plan.sitemaps.Nodup) : (plan.addSitemaps sitemaps).sitemaps.Nodup := by
  unfold addSitemaps
  simp only
  generalize plan.sitemaps = known at distinct
  induction sitemaps generalizing known with
  | nil => exact distinct
  | cons location sitemaps ih =>
    rw [List.foldl_cons]
    apply ih
    split
    · exact distinct
    · rename_i new
      rw [List.contains_iff_mem] at new
      exact distinct.append (List.nodup_singleton _) (by simpa using new)

theorem addSitemaps_startOnly (plan : RootPlan) (sitemaps : List String) :
    (plan.addSitemaps sitemaps).startOnly = !(plan.addSitemaps sitemaps).sitemaps.isEmpty := rfl

theorem addSitemaps_distinct (root : Root) (startOnly : Bool) {known sitemaps : List String}
    (distinct : (known ++ sitemaps).Nodup) : addSitemaps ⟨root, known, startOnly⟩ sitemaps =
      ⟨root, known ++ sitemaps, !(known ++ sitemaps).isEmpty⟩ := by
  induction sitemaps generalizing known with
  | nil => simp [addSitemaps]
  | cons location sitemaps ih =>
    have new : location ∉ known := fun member =>
      (List.nodup_append.mp distinct).2.2 location member location List.mem_cons_self rfl
    rw [List.append_cons] at distinct ⊢
    rw [← ih distinct]
    simp [addSitemaps, new]

/-- Plans as seeds lead to them: one for each root, without repetitions. -/
structure Grouped (plans : List RootPlan) : Prop where
  roots : (plans.map RootPlan.root).Nodup
  sitemaps : ∀ plan ∈ plans, plan.sitemaps.Nodup
  startOnly : ∀ plan ∈ plans, plan.startOnly = !plan.sitemaps.isEmpty
  parsed : ∀ plan ∈ plans, ∃ url, Root.parse url = .ok plan.root

theorem Grouped.given {plans : List RootPlan} (grouped : Grouped plans) {plan : RootPlan}
    (member : plan ∈ plans) : plan.startOnly = true ↔ plan.sitemaps ≠ [] := by
  simp [grouped.startOnly plan member]

theorem of_mem_insert {root : Root} {sitemaps : List String} {plans : List RootPlan}
    {plan : RootPlan} (member : plan ∈ insert root sitemaps plans) :
    plan ∈ plans ∨ ∃ before, (before ∈ plans ∨ before = ⟨root, [], false⟩) ∧ before.root = root ∧
      plan = before.addSitemaps sitemaps := by
  induction plans with
  | nil => exact Or.inr ⟨⟨root, [], false⟩, Or.inr rfl, rfl, List.mem_singleton.mp member⟩
  | cons first plans ih =>
    unfold insert at member
    split at member
    · rename_i own
      rcases List.mem_cons.mp member with rfl | later
      · exact Or.inr ⟨first, Or.inl List.mem_cons_self, own, rfl⟩
      · exact Or.inl (List.mem_cons_of_mem _ later)
    · rcases List.mem_cons.mp member with rfl | later
      · exact Or.inl List.mem_cons_self
      · rcases ih later with still | ⟨before, known | new, own, same⟩
        · exact Or.inl (List.mem_cons_of_mem _ still)
        · exact Or.inr ⟨before, Or.inl (List.mem_cons_of_mem _ known), own, same⟩
        · exact Or.inr ⟨before, Or.inr new, own, same⟩

theorem Grouped.insert {plans : List RootPlan} (grouped : Grouped plans) {url : String}
    {root : Root} (parsed : Root.parse url = .ok root) (sitemaps : List String) :
    Grouped (insert root sitemaps plans) := by
  refine ⟨?_, fun plan member => ?_, fun plan member => ?_, fun plan member => ?_⟩
  · by_cases known : root ∈ plans.map RootPlan.root
    · rw [insert_known known]
      exact grouped.roots
    · rw [insert_new known, List.map_append]
      exact grouped.roots.append (List.nodup_singleton _) (by simpa [addSitemaps_root] using known)
  · rcases of_mem_insert member with still | ⟨before, known | rfl, -, rfl⟩
    · exact grouped.sitemaps plan still
    · exact addSitemaps_nodup sitemaps (grouped.sitemaps before known)
    · exact addSitemaps_nodup sitemaps List.nodup_nil
  · rcases of_mem_insert member with still | ⟨before, -, -, rfl⟩
    · exact grouped.startOnly plan still
    · exact addSitemaps_startOnly before sitemaps
  · rcases of_mem_insert member with still | ⟨before, -, own, rfl⟩
    · exact grouped.parsed plan still
    · exact ⟨url, by rw [addSitemaps_root, own, parsed]⟩

theorem Grouped.foldlM {seeds : List Seed} {before plans : List RootPlan}
    (grouped : Grouped before) (planned : seeds.foldlM insertSeed before = .ok plans) :
    Grouped plans := by
  induction seeds generalizing before with
  | nil =>
    cases planned
    exact grouped
  | cons seed seeds ih =>
    rw [List.foldlM_cons] at planned
    cases parsed : Root.parse seed.url with
    | error fault =>
      simp only [insertSeed, parsed] at planned
      cases planned
    | ok root =>
      simp only [insertSeed, parsed] at planned
      exact ih (grouped.insert parsed seed.sitemaps) planned

theorem Grouped.again {before plans : List RootPlan} (grouped : Grouped (before ++ plans)) :
    (plans.map seed).foldlM insertSeed before = .ok (before ++ plans) := by
  induction plans generalizing before with
  | nil => simp; rfl
  | cons plan plans ih =>
    obtain ⟨url, parsed⟩ := grouped.parsed plan (by simp)
    have distinct := grouped.sitemaps plan (by simp)
    have new : plan.root ∉ before.map RootPlan.root := by
      have roots := grouped.roots
      rw [List.map_append, List.map_cons] at roots
      exact fun member => (List.nodup_append.mp roots).2.2 _ member _ List.mem_cons_self rfl
    have added : insertSeed before plan.seed = .ok (before ++ [plan]) := by
      simp only [insertSeed, seed, Root.parse_text parsed, insert_new new]
      rw [addSitemaps_distinct plan.root false (by simpa using distinct), List.nil_append,
        ← grouped.startOnly plan (by simp)]
    rw [List.append_cons] at grouped ⊢
    rw [List.map_cons, List.foldlM_cons, added]
    exact ih grouped

theorem Grouped.unique {plans : List RootPlan} (grouped : Grouped plans) {plan other : RootPlan}
    (member : plan ∈ plans) (also : other ∈ plans) (same : plan.root = other.root) :
    plan = other :=
  List.inj_on_of_nodup_map grouped.roots member also same

theorem Grouped.planOf {plans : List RootPlan} (grouped : Grouped plans) {plan : RootPlan}
    (member : plan ∈ plans) {seed : Seed} (parsed : Root.parse seed.url = .ok plan.root) :
    planOf plans seed = some plan := by
  unfold Sitemaps.planOf
  simp only [parsed]
  cases found : plans.find? (·.root == plan.root) with
  | none =>
    have absent := List.find?_eq_none.mp found plan member
    exact absurd (beq_self_eq_true _) absent
  | some first =>
    have own : first.root = plan.root := eq_of_beq (List.find?_some found :)
    rw [grouped.unique (List.mem_of_find?_eq_some found) member own]

theorem Grouped.drop {plans before : List RootPlan} (grouped : Grouped plans) {plan : RootPlan}
    (member : plan ∈ plans)
    (extends_ : before.map RootPlan.root ++ [plan.root] <+: plans.map RootPlan.root) :
    plans.drop before.length = plan :: plans.drop (before.length + 1) := by
  obtain ⟨more, roots⟩ := extends_
  have place : (plans.map RootPlan.root)[before.length]? = some plan.root := by
    rw [← roots]
    simp
  rw [List.getElem?_map] at place
  obtain ⟨other, here, same⟩ := Option.map_eq_some_iff.mp place
  obtain ⟨short, there⟩ := List.getElem?_eq_some_iff.mp here
  rw [List.drop_eq_getElem_cons short, there,
    grouped.unique (List.mem_of_getElem? here) member same]

theorem thinned_from (robots : Bool) {seeds : List Seed} {before plans : List RootPlan}
    (grouped : Grouped plans) (planned : seeds.foldlM insertSeed before = .ok plans) :
    before.map RootPlan.root <+: plans.map RootPlan.root ∧
      Thinned (before.map RootPlan.root) (jobsOf plans seeds robots)
        ((plans.drop before.length).map (·.job robots)) := by
  induction seeds generalizing before with
  | nil =>
    cases planned
    rw [List.drop_length]
    exact ⟨List.prefix_rfl, .nil _⟩
  | cons seed seeds ih =>
    rw [List.foldlM_cons] at planned
    cases parsed : Root.parse seed.url with
    | error fault =>
      simp only [insertSeed, parsed] at planned
      cases planned
    | ok root =>
      simp only [insertSeed, parsed] at planned
      obtain ⟨extends_, rest⟩ := ih planned
      have listed : root ∈ plans.map RootPlan.root :=
        extends_.subset (mem_insert.mpr (Or.inl rfl))
      obtain ⟨plan, member, rfl⟩ := List.mem_map.mp listed
      have found := grouped.planOf member parsed
      have first : jobsOf plans (seed :: seeds) robots =
          plan.job robots :: jobsOf plans seeds robots := by
        simp [jobsOf, found]
      rw [first]
      by_cases known : plan.root ∈ before.map RootPlan.root
      · rw [insert_known known] at extends_ rest
        have roots : (insert plan.root seed.sitemaps before).map RootPlan.root =
            before.map RootPlan.root := insert_known known
        have length : (insert plan.root seed.sitemaps before).length = before.length := by
          simpa using congrArg List.length roots
        rw [length] at rest
        exact ⟨extends_, .again known rest⟩
      · rw [insert_new known, List.map_append] at extends_ rest
        refine ⟨(List.prefix_append _ _).trans extends_, ?_⟩
        rw [grouped.drop member extends_]
        rw [List.length_append] at rest
        exact .first rest

theorem Grouped.ofSeeds {seeds : List Seed} {plans : List RootPlan}
    (planned : planRoots seeds = .ok plans) : Grouped plans := by
  have none : Grouped [] := ⟨List.nodup_nil, by simp, by simp, by simp⟩
  exact none.foldlM planned

theorem Grouped.jobs {plans : List RootPlan} (grouped : Grouped plans) (robots : Bool) :
    jobsOf plans (plans.map seed) robots = plans.map (·.job robots) := by
  have each : ∀ plan ∈ plans, Sitemaps.planOf plans plan.seed = some plan := by
    intro plan member
    obtain ⟨url, parsed⟩ := grouped.parsed plan member
    exact grouped.planOf member (Root.parse_text parsed)
  have found : (plans.map seed).filterMap (Sitemaps.planOf plans) = plans := by
    calc (plans.map seed).filterMap (Sitemaps.planOf plans)
        = plans.filterMap (fun plan => Sitemaps.planOf plans plan.seed) := by
          rw [List.filterMap_map, Function.comp_def]
      _ = plans.filterMap some := by rw [List.filterMap_congr each]
      _ = plans := List.filterMap_some
  rw [jobsOf, found]

theorem Grouped.thinned {seeds : List Seed} {plans : List RootPlan} (robots : Bool)
    (grouped : Grouped plans) (planned : planRoots seeds = .ok plans) :
    Thinned [] (jobsOf plans seeds robots) (jobsOf plans (plans.map seed) robots) := by
  rw [grouped.jobs]
  exact (thinned_from robots grouped planned).2

end RootPlan

def Summary.counts (summary : Summary) : Nat × Nat × Bool :=
  (summary.roots, summary.emitted, summary.interrupted)

/-- Two runs with the same requests, the same rows, and the same result but for the seeds. -/
structure Matched (one other : Except RunFault Summary × Crawl Tally) : Prop where
  fetched : other.2.journal.fetched = one.2.journal.fetched
  result : other.1.map Summary.counts = one.1.map Summary.counts
  rows : other.2.desk.store.database = one.2.desk.store.database

namespace Coordinator

theorem run_turns {coordinator : Coordinator} (one : coordinator.workers = 1)
    (crawl : Crawl Tally) :
    let last := Job.inTurn coordinator.setting 0 coordinator.jobs (coordinator.muster crawl).crawl
    coordinator.run crawl = (coordinator.outcome ⟨[last.1], [], last.2⟩, last.2) := by
  intro last
  obtain ⟨duty, left⟩ : _ ∧ _ := Shift.run_inTurn (coordinator.muster crawl).crawl
  rw [run_one coordinator one, ← duty, ← left]
  rfl

theorem outcome_counts {whole thin : Coordinator} (plans : thin.plans = whole.plans) {duty : Duty}
    {one other : Crawl Tally} {place : Place} (even : one.Even place other) :
    (thin.outcome ⟨[duty], [], other⟩).map Summary.counts =
      (whole.outcome ⟨[duty], [], one⟩).map Summary.counts := by
  have stopped : other.stopped = one.stopped := congrArg Guard.stopped even.guard
  have lost : (⟨[duty], [], other⟩ : Team Tally).lost = (⟨[duty], [], one⟩ : Team Tally).lost :=
    rfl
  unfold outcome
  rw [lost]
  split
  · simp [Except.map, summary, Summary.counts, plans, stopped, even.store]
  · rfl

theorem run_thinned {whole thin : Coordinator} (setting : thin.setting = whole.setting)
    (plans : thin.plans = whole.plans) (one : whole.workers = 1) (also : thin.workers = 1)
    (thinned : Thinned [] whole.jobs thin.jobs) {crawl : Crawl Tally} (elder : crawl.elder = none)
    (free : crawl.desk.guard.active = []) : Matched (whole.run crawl) (thin.run crawl) := by
  let store := { crawl.desk.store with emitted := 0 }
  let counted := { crawl with desk := { crawl.desk with store := store } }
  have same : counted.Even whole.setting.staging.place counted := ⟨rfl, rfl, rfl, .refl _ _, rfl⟩
  have even : (whole.muster crawl).crawl.Even whole.setting.staging.place
      (thin.muster crawl).crawl := same.note _ _
  obtain ⟨duty, left⟩ := thinned.run 0 even elder free fun _ => by nofun
  rw [run_turns one, run_turns also, setting, duty]
  exact ⟨left.fetched, outcome_counts plans left, congrArg Tally.database left.store.symm⟩

end Coordinator

/-- A complete run, with the crawl that it leaves. -/
def resolveCrawl (config : Config) (web : Web) (staging : Staging) (disk : Disk)
    (database : Database) (fresh : Bool) : Except RunFault Summary × Crawl Tally :=
  match Crawl.ofDatabase database disk fresh with
  | .error fault => (.error (.store fault), .start ⟨database, 0⟩ disk)
  | .ok crawl =>
    if !headerText config.userAgent.text then (.error .userAgent, crawl)
    else
      match Coordinator.assemble config web staging disk with
      | (.error fault, _) => (.error fault, crawl)
      | (.ok coordinator, disk) => coordinator.run { crawl with disk := disk }

theorem resolveAll_eq (config : Config) (web : Web) (staging : Staging) (disk : Disk)
    (database : Database) (fresh : Bool) :
    resolveAll config web staging disk database fresh =
      let (result, crawl) := resolveCrawl config web staging disk database fresh
      (result, crawl.desk.store.database) := by
  unfold resolveAll resolveCrawl
  cases Crawl.ofDatabase database disk fresh with
  | error fault => rfl
  | ok crawl =>
    simp only
    split
    · rfl
    · cases Coordinator.assemble config web staging disk with
      | mk made disk => cases made <;> rfl

theorem Crawl.ofDatabase_idle {database : Database} {disk : Disk} {fresh : Bool}
    {crawl : Crawl Tally} (opened : Crawl.ofDatabase database disk fresh = .ok crawl) :
    crawl.elder = none ∧ crawl.desk.guard.active = [] := by
  unfold Crawl.ofDatabase at opened
  split at opened
  · split at opened
    · cases opened
    · cases opened
      exact ⟨rfl, rfl⟩
  · cases opened
    exact ⟨rfl, rfl⟩

/-- A configuration whose seeds are grouped by their roots. -/
def Config.grouped (config : Config) (plans : List RootPlan) : Config :=
  { config with seeds := plans.map RootPlan.seed }

theorem Config.grouped_planned {config : Config} {plans : List RootPlan}
    (planned : planRoots config.seeds = .ok plans) :
    planRoots (config.grouped plans).seeds = .ok plans := by
  have grouped : RootPlan.Grouped ([] ++ plans) := RootPlan.Grouped.ofSeeds planned
  exact grouped.again

theorem resolveCrawl_grouped {config : Config} {plans : List RootPlan}
    (planned : planRoots config.seeds = .ok plans) (one : config.crawler.workers = 1) (web : Web)
    (staging : Staging) (disk : Disk) (database : Database) (fresh : Bool) :
    Matched (resolveCrawl config web staging disk database fresh)
      (resolveCrawl (config.grouped plans) web staging disk database fresh) := by
  unfold resolveCrawl
  cases opened : Crawl.ofDatabase database disk fresh with
  | error fault => exact ⟨rfl, rfl, rfl⟩
  | ok crawl =>
    obtain ⟨elder, free⟩ := Crawl.ofDatabase_idle opened
    have agent : (config.grouped plans).userAgent = config.userAgent := rfl
    simp only [agent]
    split
    · exact ⟨rfl, rfl, rfl⟩
    · unfold Coordinator.assemble
      cases staging.prepare disk with
      | error fault => exact ⟨rfl, rfl, rfl⟩
      | ok made =>
        simp only [Coordinator.plan, planned, Config.grouped_planned planned]
        apply Coordinator.run_thinned
        · rfl
        · rfl
        · exact one
        · exact one
        · exact (RootPlan.Grouped.ofSeeds planned).thinned config.crawler.robots planned
        · exact elder
        · exact free

/-- One seed for each root, with its text and all its sitemaps, does what the seeds do that it
stands for. -/
theorem grouping_transparent {config : Config} {plans : List RootPlan}
    (planned : planRoots config.seeds = .ok plans) (one : config.crawler.workers = 1) (web : Web)
    (staging : Staging) (disk : Disk) (database : Database) (fresh : Bool) :
    let whole := resolveAll config web staging disk database fresh
    let thin := resolveAll (config.grouped plans) web staging disk database fresh
    planRoots (config.grouped plans).seeds = .ok plans ∧
      (resolveCrawl (config.grouped plans) web staging disk database fresh).2.journal.fetched =
        (resolveCrawl config web staging disk database fresh).2.journal.fetched ∧
      thin.1.map Summary.counts = whole.1.map Summary.counts ∧ thin.2 = whole.2 := by
  intro whole thin
  have matched := resolveCrawl_grouped planned one web staging disk database fresh
  refine ⟨Config.grouped_planned planned, matched.fetched, ?_, ?_⟩
  · simp only [whole, thin, resolveAll_eq]
    exact matched.result
  · simp only [whole, thin, resolveAll_eq]
    exact matched.rows

def spellings : Config :=
  ⟨.default, ⟨"", "", "", ""⟩, ⟨1, true⟩, "",
    [⟨"http://[0:0::1]:80/", ["http://b/s.xml"]⟩, ⟨"http://[::2]/", ["http://c/s.xml"]⟩,
      ⟨"HTTP://[::1]/x", ["http://b/t.xml", "http://b/s.xml"]⟩]⟩

theorem grouping_transparent_spellings :
    let plans : List RootPlan :=
      [⟨⟨"http://[::1]"⟩, ["http://b/s.xml", "http://b/t.xml"], true⟩,
        ⟨⟨"http://[::2]"⟩, ["http://c/s.xml"], true⟩]
    let web := (Web.ofTexts [("http://b/s.xml", "<url><loc>http://[::1]/p</loc></url>"),
      ("http://c/s.xml", "<url><loc>http://[::2]/q</loc></url>")]).stopping
        fun location _ => location == "http://c/s.xml"
    let run (config : Config) :=
      resolveAll config web ⟨["tmp"], "tmp"⟩ .empty (.create .file) false
    let left (config : Config) :=
      (resolveCrawl config web ⟨["tmp"], "tmp"⟩ .empty (.create .file) false).2
    planRoots spellings.seeds = .ok plans ∧ spellings.crawler.workers = 1 ∧
      (spellings.grouped plans).seeds = [⟨"http://[::1]", ["http://b/s.xml", "http://b/t.xml"]⟩,
        ⟨"http://[::2]", ["http://c/s.xml"]⟩] ∧
      planRoots (spellings.grouped plans).seeds = .ok plans ∧
      (left (spellings.grouped plans)).journal.fetched = (left spellings).journal.fetched ∧
      (run (spellings.grouped plans)).1.map Summary.counts =
        (run spellings).1.map Summary.counts ∧
      (run (spellings.grouped plans)).2 = (run spellings).2 := by
  intro plans web run left
  have planned : planRoots spellings.seeds = .ok plans := rfl
  obtain ⟨again, fetched, result, rows⟩ := grouping_transparent planned rfl web
    ⟨["tmp"], "tmp"⟩ .empty (.create .file) false
  exact ⟨planned, rfl, rfl, again, fetched, result, rows⟩

end Sitemaps
