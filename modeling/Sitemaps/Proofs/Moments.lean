import Sitemaps.Crawl.Coordinator
import Sitemaps.Proofs.Phases

/-!
Runs as sequences of moments. In each of them one call or one worker takes a step, or a stop request
from outside raises the flag or, later, closes the record.
-/

namespace Sitemaps

section Places

variable {α : Type} {places : List α} {index other : Nat} {before after found : α}

theorem set_found (at_other : (places.set index after)[other]? = some found) :
    other = index ∧ found = after ∨ other ≠ index ∧ places[other]? = some found := by
  rw [List.getElem?_set] at at_other
  split at at_other
  · rename_i same
    split at at_other
    · cases at_other
      exact Or.inl ⟨same.symm, rfl⟩
    · cases at_other
  · rename_i apart
    exact Or.inr ⟨fun same => apart same.symm, at_other⟩

theorem set_self (after : α) (at_index : places[index]? = some before) :
    (places.set index after)[index]? = some after :=
  List.getElem?_set_self (List.getElem?_eq_some_iff.mp at_index).1

theorem set_other (after : α) (apart : other ≠ index) :
    (places.set index after)[other]? = places[other]? :=
  List.getElem?_set_ne (Ne.symm apart)

end Places

inductive Moment
  | act (index : Nat)
  | raise
  | close
  deriving DecidableEq, Repr

namespace Crawl

variable {σ : Type}

def raise (crawl : Crawl σ) : Crawl σ :=
  { crawl with desk := crawl.desk.raise }.info "Sitemap resolution stop requested"

/-- Only who raised the flag closes the record. -/
def closeAfterStop [RootStore σ] (crawl : Crawl σ) : Crawl σ :=
  if crawl.stopped then
    let (desk, notices) := crawl.desk.closeStore
    { crawl with desk := desk }.note notices
  else crawl

variable [RootStore σ] [Sink σ] (crawl : Crawl σ)

omit [RootStore σ] [Sink σ] in
theorem raise_stopped : crawl.raise.stopped = true := rfl

theorem raise_drift : crawl.Drift crawl.raise :=
  ⟨rfl, rfl, fun _ => rfl, id, List.suffix_append _ _, .same⟩

theorem closeAfterStop_drift : crawl.Drift crawl.closeAfterStop := by
  unfold closeAfterStop
  split
  · rename_i stopped
    unfold Desk.closeStore
    cases closed : RootStore.close crawl.desk.store with
    | ok store =>
      exact ⟨rfl, rfl, id, id, List.suffix_append _ _, .closed .same (Or.inl stopped) closed⟩
    | error fault => exact ⟨rfl, rfl, id, id, List.suffix_append _ _, .same⟩
  · exact .refl crawl

omit [Sink σ] in
theorem closeAfterStop_going (going : crawl.stopped = false) : crawl.closeAfterStop = crawl := by
  simp [closeAfterStop, going]

end Crawl

structure Call where
  setting : Setting
  job : Job
  phase : Phase

/-- Calls, and the guard with all else that they share. -/
structure Pool (σ : Type) where
  calls : List Call
  crawl : Crawl σ

namespace Pool

variable {σ : Type}

def gather (calls : List (Setting × Job)) (store : σ) (disk : Disk) : Pool σ :=
  ⟨calls.map fun call => ⟨call.1, call.2, .asking⟩, .start store disk⟩

/-- All calls came back, and there was neither a stop nor a panic. -/
def Returned (pool : Pool σ) : Prop :=
  pool.crawl.stopped = false ∧ ∀ call ∈ pool.calls, call.phase.isDone = true

instance (pool : Pool σ) : Decidable pool.Returned := inferInstanceAs (Decidable (_ ∧ _))

theorem Returned.done {pool : Pool σ} (returned : pool.Returned) {index : Nat} {call : Call}
    (found : pool.calls[index]? = some call) : call.phase = .done :=
  Phase.isDone_iff.mp (returned.2 call (List.mem_of_getElem? found))

variable [RootStore σ] [Sink σ]

def act (pool : Pool σ) (index : Nat) : Pool σ :=
  match pool.calls[index]? with
  | none => pool
  | some call =>
    let (phase, crawl) := call.job.step call.setting call.phase pool.crawl
    ⟨pool.calls.set index { call with phase := phase }, crawl⟩

def move (pool : Pool σ) : Moment → Pool σ
  | .act index => pool.act index
  | .raise => { pool with crawl := pool.crawl.raise }
  | .close => { pool with crawl := pool.crawl.closeAfterStop }

def play (moments : List Moment) (pool : Pool σ) : Pool σ := moments.foldl move pool

theorem play_keeps (kept : Pool σ → Prop)
    (move : ∀ pool moment, kept pool → kept (pool.move moment)) (moments : List Moment)
    (pool : Pool σ) (start : kept pool) : kept (pool.play moments) := by
  induction moments generalizing pool with
  | nil => exact start
  | cons moment rest ih => exact ih (pool.move moment) (move pool moment start)

def asks? (root : Root) (pool : Pool σ) : Moment → Option Nat
  | .act index =>
    match pool.calls[index]? with
    | some call => if call.phase.gathers && call.job.root == root then some index else none
    | none => none
  | .raise | .close => none

/-- The calls that ask for the explicit locations of a root, in order. -/
def asked (root : Root) : List Moment → Pool σ → List Nat
  | [], _ => []
  | moment :: moments, pool =>
    (pool.asks? root moment).toList ++ asked root moments (pool.move moment)

/-- Whether a call asks for its explicit locations or fetches anything when it acts next. -/
def Works (pool : Pool σ) (index : Nat) : Prop :=
  (∃ call, pool.calls[index]? = some call ∧ call.phase = .gathering) ∨
    (pool.act index).crawl.journal.fetched ≠ pool.crawl.journal.fetched

end Pool

namespace Shift

variable {σ : Type} [RootStore σ] [Sink σ]

inductive Outcome (setting : Setting) (shift : Shift σ) : Shift σ → Prop
  | retired (notices : List Notice) (polling : shift.duty = .polling)
      (stopped : shift.crawl.stopped = true) :
      Outcome setting shift ⟨.idle, shift.queue, shift.crawl.note notices⟩
  | looked (polling : shift.duty = .polling) (going : shift.crawl.stopped = false) :
      Outcome setting shift ⟨.picking, shift.queue, shift.crawl⟩
  | spent (picking : shift.duty = .picking) (none : shift.queue = []) :
      Outcome setting shift ⟨.idle, shift.queue, shift.crawl⟩
  | took {job : Job} {queue : List Job} (picking : shift.duty = .picking)
      (waiting : shift.queue = job :: queue) :
      Outcome setting shift ⟨.resolving job .asking, queue, shift.crawl⟩
  | worked {job : Job} {phase : Phase} (resolving : shift.duty = .resolving job phase)
      (more : phase.isOver = false) :
      Outcome setting shift ⟨.resolving job (job.step setting phase shift.crawl).1, shift.queue,
        (job.step setting phase shift.crawl).2⟩
  | returned {job : Job} (resolving : shift.duty = .resolving job .done) :
      Outcome setting shift ⟨.polling, shift.queue, shift.crawl⟩
  | broke {job : Job} (resolving : shift.duty = .resolving job .panicked) :
      Outcome setting shift ⟨.lost, shift.queue, shift.crawl⟩
  | rested (ended : shift.duty.isOver = true) : Outcome setting shift shift

theorem step_outcome (setting : Setting) (id : Nat) (shift : Shift σ) :
    shift.Outcome setting (shift.step setting id) := by
  unfold step
  split
  · rename_i polling
    split
    · rename_i stopped
      exact .retired _ polling stopped
    · rename_i going
      exact .looked polling (Bool.eq_false_iff.mpr going)
  · rename_i picking
    split
    · rename_i none
      exact .spent picking none
    · rename_i job queue waiting
      exact .took picking waiting
  · rename_i job resolving
    exact .returned resolving
  · rename_i job resolving
    exact .broke resolving
  · rename_i job phase undone unbroken resolving
    refine .worked resolving ?_
    cases phase with
    | done => exact (undone rfl).elim
    | panicked => exact (unbroken rfl).elim
    | _ => rfl
  · rename_i idle
    exact .rested (by rw [idle]; rfl)
  · rename_i lost
    exact .rested (by rw [lost]; rfl)

theorem run_keeps (setting : Setting) (id : Nat) (kept : Shift σ → Prop)
    (step : ∀ shift, kept shift → kept (shift.step setting id)) (shift : Shift σ)
    (start : kept shift) :
    kept (shift.run setting id) ∧ (shift.run setting id).duty.isOver = true := by
  fun_induction Shift.run setting id shift with
  | case1 shift more ih => exact ih (step shift start)
  | case2 shift ended => exact ⟨start, by simpa using ended⟩

end Shift

namespace Team

variable {σ : Type} [RootStore σ] [Sink σ]

def move (setting : Setting) (team : Team σ) : Moment → Team σ
  | .act id => team.step setting id
  | .raise => { team with crawl := team.crawl.raise }
  | .close => { team with crawl := team.crawl.closeAfterStop }

def play (setting : Setting) (moments : List Moment) (team : Team σ) : Team σ :=
  moments.foldl (move setting) team

theorem play_keeps (setting : Setting) (kept : Team σ → Prop)
    (move : ∀ team moment, kept team → kept (team.move setting moment)) (moments : List Moment)
    (team : Team σ) (start : kept team) : kept (team.play setting moments) := by
  induction moments generalizing team with
  | nil => exact start
  | cons moment rest ih => exact ih (team.move setting moment) (move team moment start)

def steps (setting : Setting) (ids : List Nat) (team : Team σ) : Team σ :=
  ids.foldl (fun team id => team.step setting id) team

theorem steps_play (setting : Setting) (ids : List Nat) (team : Team σ) :
    team.steps setting ids = team.play setting (ids.map .act) := by
  unfold steps play
  rw [List.foldl_map]
  rfl

theorem steps_append (setting : Setting) (first second : List Nat) (team : Team σ) :
    team.steps setting (first ++ second) = (team.steps setting first).steps setting second :=
  List.foldl_append

theorem run_steps (setting : Setting) (id : Nat) (shift : Shift σ) (duties : List Duty)
    (found : duties[id]? = some shift.duty) :
    ∃ count, (⟨duties.set id (shift.run setting id).duty, (shift.run setting id).queue,
        (shift.run setting id).crawl⟩ : Team σ) =
      (⟨duties, shift.queue, shift.crawl⟩ : Team σ).steps setting (List.replicate count id) := by
  fun_induction Shift.run setting id shift generalizing duties with
  | case1 shift more ih =>
    obtain ⟨count, rest⟩ := ih _ (set_self _ found)
    have stepped : (⟨duties, shift.queue, shift.crawl⟩ : Team σ).step setting id =
        ⟨duties.set id (shift.step setting id).duty, (shift.step setting id).queue,
          (shift.step setting id).crawl⟩ := by
      simp only [step, found]
    refine ⟨count + 1, ?_⟩
    rw [List.replicate_succ, steps, List.foldl_cons, stepped]
    rw [List.set_set] at rest
    exact rest
  | case2 shift ended =>
    refine ⟨0, ?_⟩
    obtain ⟨_, same⟩ := List.getElem?_eq_some_iff.mp found
    rw [← same, List.set_getElem_self]
    rfl

theorem runWorker_steps (setting : Setting) (team : Team σ) (id : Nat) :
    ∃ ids, team.runWorker setting id = team.steps setting ids := by
  unfold runWorker
  split
  · exact ⟨[], rfl⟩
  · rename_i duty found
    obtain ⟨count, run⟩ := run_steps setting id ⟨duty, team.queue, team.crawl⟩ team.duties found
    exact ⟨_, run⟩

theorem runInTurn_steps (setting : Setting) (team : Team σ) :
    ∃ ids, team.runInTurn setting = team.steps setting ids := by
  unfold runInTurn
  generalize List.range team.duties.length = turns
  induction turns generalizing team with
  | nil => exact ⟨[], rfl⟩
  | cons id rest ih =>
    obtain ⟨first, ran⟩ := runWorker_steps setting team id
    obtain ⟨second, others⟩ := ih (team.runWorker setting id)
    refine ⟨first ++ second, ?_⟩
    rw [List.foldl_cons, others, ran, steps_append]

theorem runWorker_over (setting : Setting) (team : Team σ) (id : Nat) {index : Nat} {duty : Duty}
    (found : (team.runWorker setting id).duties[index]? = some duty) :
    index = id ∧ duty.isOver = true ∨ index ≠ id ∧ team.duties[index]? = some duty := by
  unfold runWorker at found
  split at found
  · rename_i none
    refine Or.inr ⟨?_, found⟩
    rintro rfl
    rw [none] at found
    cases found
  · refine (set_found found).imp_left fun ⟨here, same⟩ => ⟨here, ?_⟩
    rw [same]
    exact (Shift.run_keeps setting id (fun _ => True) (fun _ _ => trivial) _ trivial).2

theorem runInTurn_over (setting : Setting) (team : Team σ) :
    ∀ duty ∈ (team.runInTurn setting).duties, duty.isOver = true := by
  have turned : ∀ (turns : List Nat) (team : Team σ),
      (∀ (index : Nat) (duty : Duty), team.duties[index]? = some duty → index ∉ turns →
        duty.isOver = true) →
      ∀ duty ∈ (turns.foldl (runWorker setting) team).duties, duty.isOver = true := by
    intro turns
    induction turns with
    | nil =>
      intro team ended duty member
      obtain ⟨index, found⟩ := List.getElem?_of_mem member
      exact ended index duty found List.not_mem_nil
    | cons id rest ih =>
      intro team ended
      apply ih
      intro index duty found later
      rcases runWorker_over setting team id found with ⟨-, ended⟩ | ⟨apart, before⟩
      · exact ended
      · apply ended index duty before
        rw [List.mem_cons, not_or]
        exact ⟨apart, later⟩
  apply turned
  intro index duty found late
  exact absurd (List.mem_range.mpr (List.getElem?_eq_some_iff.mp found).1) late

end Team

theorem Coordinator.run_steps (coordinator : Coordinator) (crawl : Crawl Tally) :
    ∃ ids, coordinator.run crawl =
      (coordinator.outcome ((coordinator.muster crawl).steps coordinator.setting ids),
        ((coordinator.muster crawl).steps coordinator.setting ids).crawl) ∧
      ∀ duty ∈ ((coordinator.muster crawl).steps coordinator.setting ids).duties,
        duty.isOver = true := by
  obtain ⟨ids, ran⟩ := Team.runInTurn_steps coordinator.setting (coordinator.muster crawl)
  have ended := Team.runInTurn_over coordinator.setting (coordinator.muster crawl)
  refine ⟨ids, ?_, ran ▸ ended⟩
  rw [← ran]
  rfl

theorem Coordinator.run_play (coordinator : Coordinator) (crawl : Crawl Tally) :
    ∃ moments, (coordinator.run crawl).2 =
      ((coordinator.muster crawl).play coordinator.setting moments).crawl := by
  obtain ⟨ids, ran, -⟩ := run_steps coordinator crawl
  exact ⟨ids.map .act, by rw [ran, Team.steps_play]⟩

end Sitemaps
