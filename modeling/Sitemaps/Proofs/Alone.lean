import Sitemaps.Proofs.Phases

/-!
A job that runs alone, one step after another. Its run goes through the states after so many steps,
and what each step keeps holds at its end.
-/

namespace Sitemaps.Job

variable {σ : Type} [RootStore σ] [Sink σ] (job : Job) (setting : Setting)

def after (crawl : Crawl σ) : Nat → Phase × Crawl σ
  | 0 => (.asking, crawl)
  | n + 1 => job.step setting (after crawl n).1 (after crawl n).2

theorem step_over {phase : Phase} (ended : phase.isOver = true) (crawl : Crawl σ) :
    job.step setting phase crawl = (phase, crawl) := by
  cases phase with
  | done => rfl
  | panicked => rfl
  | _ => cases ended

theorem runFrom_step (phase : Phase) (crawl : Crawl σ) :
    job.runFrom setting (job.step setting phase crawl).1 (job.step setting phase crawl).2 =
      job.runFrom setting phase crawl := by
  by_cases more : phase.isOver = false
  · conv => rhs; rw [runFrom]
    rw [dif_pos more]
  · rw [step_over job setting (by simpa using more) crawl]

theorem runFrom_after (crawl : Crawl σ) (n : Nat) :
    job.runFrom setting (job.after setting crawl n).1 (job.after setting crawl n).2 =
      job.run setting crawl := by
  induction n with
  | zero => rfl
  | succ n ih =>
    rw [after, runFrom_step]
    exact ih

theorem run_after {crawl : Crawl σ} {n : Nat}
    (ended : (job.after setting crawl n).1.isOver = true) :
    job.run setting crawl = job.after setting crawl n := by
  rw [← runFrom_after job setting crawl n, runFrom]
  exact dif_neg (by simp [ended])

theorem runFrom_ends (crawl : Crawl σ) (phase : Phase) (later : Crawl σ) (n : Nat)
    (reached : job.after setting crawl n = (phase, later)) :
    ∃ m, (job.after setting crawl m).1.isOver = true := by
  fun_induction job.runFrom setting phase later generalizing n with
  | case1 phase later more next ih => exact ih (n + 1) (by rw [after, reached])
  | case2 phase later ended => exact ⟨n, by simpa [reached] using ended⟩

theorem after_ends (crawl : Crawl σ) : ∃ n, (job.after setting crawl n).1.isOver = true :=
  runFrom_ends job setting crawl .asking crawl 0 rfl

variable (kept : Phase → Crawl σ → Prop)

theorem after_keeps
    (step : ∀ phase crawl, kept phase crawl →
      kept (job.step setting phase crawl).1 (job.step setting phase crawl).2)
    {crawl : Crawl σ} (start : kept .asking crawl) (n : Nat) :
    kept (job.after setting crawl n).1 (job.after setting crawl n).2 := by
  induction n with
  | zero => exact start
  | succ n ih => exact step _ _ ih

theorem runFrom_keeps
    (step : ∀ phase crawl, kept phase crawl →
      kept (job.step setting phase crawl).1 (job.step setting phase crawl).2)
    (phase : Phase) (crawl : Crawl σ) (start : kept phase crawl) :
    kept (job.runFrom setting phase crawl).1 (job.runFrom setting phase crawl).2 ∧
      (job.runFrom setting phase crawl).1.isOver = true := by
  fun_induction job.runFrom setting phase crawl with
  | case1 phase crawl more next ih => exact ih (step phase crawl start)
  | case2 phase crawl ended => exact ⟨start, by simpa using ended⟩

theorem run_keeps
    (step : ∀ phase crawl, kept phase crawl →
      kept (job.step setting phase crawl).1 (job.step setting phase crawl).2)
    (crawl : Crawl σ) (n : Nat)
    (reached : kept (job.after setting crawl n).1 (job.after setting crawl n).2) :
    kept (job.run setting crawl).1 (job.run setting crawl).2 ∧
      (job.run setting crawl).1.isOver = true := by
  have ended := runFrom_keeps job setting kept step _ _ reached
  rw [runFrom_after] at ended
  exact ended

end Sitemaps.Job
