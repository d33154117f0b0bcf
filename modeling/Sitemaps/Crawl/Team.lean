import Sitemaps.Crawl.Listener
import Sitemaps.Crawl.Plan

/-!
Workers that share a queue of jobs. A worker looks at the stop flag, takes a job from the queue,
resolves it, and begins anew; a panic ends it.
-/

namespace Sitemaps

inductive Duty
  | polling
  | picking
  | resolving (job : Job) (phase : Phase)
  | idle
  | lost

def Duty.isOver : Duty → Bool
  | .idle | .lost => true
  | _ => false

structure Shift (σ : Type) where
  duty : Duty
  queue : List Job
  crawl : Crawl σ

namespace Shift

variable {σ : Type} [RootStore σ] [Sink σ]

def step (setting : Setting) (id : Nat) (shift : Shift σ) : Shift σ :=
  match shift.duty with
  | .polling =>
    if shift.crawl.stopped then
      { shift with duty := .idle, crawl := shift.crawl.debug s!"Worker {id} stopping" }
    else { shift with duty := .picking }
  | .picking =>
    match shift.queue with
    | [] => { shift with duty := .idle }
    | job :: queue => { shift with duty := .resolving job .asking, queue := queue }
  | .resolving _ .done => { shift with duty := .polling }
  | .resolving _ .panicked => { shift with duty := .lost }
  | .resolving job phase =>
    let (phase, crawl) := job.step setting phase shift.crawl
    { shift with duty := .resolving job phase, crawl := crawl }
  | .idle | .lost => shift

end Shift

namespace Duty

def rank : Duty → Nat
  | .polling => 2
  | .picking => 1
  | .resolving _ _ => 3
  | .idle | .lost => 0

def work (web : Web) : Duty → Nat × Nat × Nat × Nat
  | .resolving _ phase => (phase.rank, phase.work web)
  | _ => (0, 0, 0, 0)

end Duty

namespace Shift

variable {σ : Type} [RootStore σ] [Sink σ]

def measure (web : Web) (shift : Shift σ) : Nat × Nat × Nat × Nat × Nat × Nat :=
  (shift.queue.length, shift.duty.rank, shift.duty.work web)

theorem step_shorter (setting : Setting) (id : Nat) (shift : Shift σ)
    (more : shift.duty.isOver = false) :
    Prod.Lex (· < ·) (Prod.Lex (· < ·) (Prod.Lex (· < ·) (Prod.Lex (· < ·)
      (Prod.Lex (· < ·) (· < ·))))) ((shift.step setting id).measure setting.web)
      (shift.measure setting.web) := by
  rcases shift with ⟨duty, queue, crawl⟩
  cases duty with
  | polling =>
    simp only [step]
    split
    all_goals
      refine Prod.Lex.right _ (Prod.Lex.left _ _ ?_)
      simp [Duty.rank]
  | picking =>
    simp only [step]
    split
    · refine Prod.Lex.right _ (Prod.Lex.left _ _ ?_)
      simp [Duty.rank]
    · rename_i job rest
      refine Prod.Lex.left _ _ ?_
      simp
  | resolving job phase =>
    by_cases going : phase.isOver = false
    · have next : (⟨.resolving job phase, queue, crawl⟩ : Shift σ).step setting id =
          ⟨.resolving job (job.step setting phase crawl).1, queue,
            (job.step setting phase crawl).2⟩ := by
        cases phase with
        | done => cases going
        | panicked => cases going
        | _ => rfl
      rw [next]
      refine Prod.Lex.right _ (Prod.Lex.right _ ?_)
      rcases Job.step_shorter job setting phase crawl going with lower | ⟨same, less⟩
      · exact Prod.Lex.left _ _ lower
      · simp only [Duty.work]
        rw [same]
        exact Prod.Lex.right _ less.lex
    · have last : ((⟨.resolving job phase, queue, crawl⟩ : Shift σ).step setting id).queue = queue ∧
          ((⟨.resolving job phase, queue, crawl⟩ : Shift σ).step setting id).duty.rank < 3 := by
        cases phase with
        | done => simp [step, Duty.rank]
        | panicked => simp [step, Duty.rank]
        | _ => exact absurd rfl going
      have lower := last.2
      unfold measure
      rw [last.1]
      exact Prod.Lex.right _ (Prod.Lex.left _ _ lower)
  | idle => cases more
  | lost => cases more

def run (setting : Setting) (id : Nat) (shift : Shift σ) : Shift σ :=
  if _more : shift.duty.isOver = false then run setting id (shift.step setting id) else shift
  termination_by shift.measure setting.web
  decreasing_by exact step_shorter setting id shift _more

end Shift

structure Team (σ : Type) where
  duties : List Duty
  queue : List Job
  crawl : Crawl σ

namespace Team

variable {σ : Type} [RootStore σ] [Sink σ]

def gather (workers : Nat) (queue : List Job) (crawl : Crawl σ) : Team σ :=
  ⟨List.replicate workers .polling, queue, crawl⟩

def step (setting : Setting) (id : Nat) (team : Team σ) : Team σ :=
  match team.duties[id]? with
  | none => team
  | some duty =>
    let shift := Shift.step setting id ⟨duty, team.queue, team.crawl⟩
    ⟨team.duties.set id shift.duty, shift.queue, shift.crawl⟩

def runWorker (setting : Setting) (team : Team σ) (id : Nat) : Team σ :=
  match team.duties[id]? with
  | none => team
  | some duty =>
    let shift := Shift.run setting id ⟨duty, team.queue, team.crawl⟩
    ⟨team.duties.set id shift.duty, shift.queue, shift.crawl⟩

/-- The schedule in which one worker after another runs to its end. -/
def runInTurn (setting : Setting) (team : Team σ) : Team σ :=
  (List.range team.duties.length).foldl (runWorker setting) team

def lost (team : Team σ) : Nat := team.duties.countP fun duty =>
  match duty with
  | .lost => true
  | _ => false

end Team

end Sitemaps
