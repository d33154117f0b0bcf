import Sitemaps.Crawl.Directives
import Sitemaps.Crawl.Progress
import Sitemaps.Site.Candidates

/-!
Resolving the sitemaps of one root, from asking the guard to giving the claim back. The phases are
those between which other jobs may run.
-/

namespace Sitemaps

structure Job where
  root : Root
  /-- Sitemap locations known beforehand. -/
  given : List String
  /-- Whether the given locations are all there is to try. -/
  startOnly : Bool
  readsRobots : Bool
  deriving DecidableEq, Repr

inductive Phase
  | asking
  | entering
  | gathering
  | walking (walk : Walk)
  | closing (visited : List String)
  | finishing (visited : List String)
  /-- The claim goes back without the root being resolved, after a stop or a panic. -/
  | dropping (panics : Bool)
  | done
  | panicked

def Phase.isOver : Phase → Bool
  | .done | .panicked => true
  | _ => false

namespace Crawl

variable {σ : Type} [RootStore σ]

def enter (crawl : Crawl σ) (root : Root) : Bool × Crawl σ :=
  let (granted, desk, notices) := crawl.desk.claim root
  let crawl := { crawl with desk := desk }.note notices
  (granted, if granted then crawl.log (.claimed root) else crawl)

def finish (crawl : Crawl σ) (root : Root) : Crawl σ :=
  let (desk, notices) := crawl.desk.finish root
  ({ crawl with desk := desk }.log (.finished root)).note notices

def drop (crawl : Crawl σ) (root : Root) : Crawl σ :=
  let (desk, notices) := crawl.desk.drop root
  ({ crawl with desk := desk }.log (.dropped root)).note notices

end Crawl

namespace Job

variable {σ : Type} [RootStore σ]

def setOut (job : Job) (setting : Setting) (explicit : List String) (crawl : Crawl σ) :
    Phase × Crawl σ :=
  let locations := candidates explicit job.root setting.paths job.startOnly
  (.walking (.start locations),
    if locations.isEmpty then crawl.debug s!"No sitemap locations to try for {job.root.text}"
    else crawl)

def gather (job : Job) (setting : Setting) (crawl : Crawl σ) : Phase × Crawl σ :=
  if job.readsRobots then
    match Robots.fetch setting.web job.root crawl with
    | (none, crawl) => (.dropping true, crawl)
    | (some declared, crawl) => job.setOut setting (job.given ++ declared) crawl
  else job.setOut setting job.given crawl

def step [Sink σ] (job : Job) (setting : Setting) (phase : Phase) (crawl : Crawl σ) :
    Phase × Crawl σ :=
  match phase with
  | .asking =>
    if crawl.stopped then (.done, crawl.note [Desk.refusal job.root]) else (.entering, crawl)
  | .entering =>
    let (granted, crawl) := crawl.enter job.root
    (if granted then .gathering else .done, crawl)
  | .gathering => job.gather setting crawl
  | .walking walk =>
    match walk.step setting crawl with
    | .onward walk crawl => (.walking walk, crawl)
    | .finished visited crawl => (.closing visited, crawl)
    | .panicked crawl => (.dropping true, crawl)
  | .closing visited =>
    if crawl.stopped then
      (.dropping false, crawl.info s!"Sitemap resolution interrupted for {job.root.text}")
    else (.finishing visited, crawl)
  | .finishing visited =>
    (.done, (crawl.finish job.root).info
      s!"Sitemaps resolved for {job.root.text} ({visited.length} locations visited)")
  | .dropping panics => (if panics then .panicked else .done, crawl.drop job.root)
  | .done => (.done, crawl)
  | .panicked => (.panicked, crawl)

end Job

namespace Phase

def rank : Phase → Nat
  | .asking => 6
  | .entering => 5
  | .gathering => 4
  | .walking _ => 3
  | .closing _ => 2
  | .finishing _ | .dropping _ => 1
  | .done | .panicked => 0

def work (web : Web) : Phase → Nat × Nat × Nat
  | .walking walk => walk.work web
  | _ => (0, 0, 0)

end Phase

namespace Job

variable {σ : Type} [RootStore σ]

theorem gather_rank (job : Job) (setting : Setting) (crawl : Crawl σ) :
    (job.gather setting crawl).1.rank < 4 := by
  unfold gather setOut
  split
  · split <;> simp [Phase.rank]
  · simp [Phase.rank]

theorem step_shorter [Sink σ] (job : Job) (setting : Setting) (phase : Phase) (crawl : Crawl σ)
    (more : phase.isOver = false) :
    (job.step setting phase crawl).1.rank < phase.rank ∨
      (job.step setting phase crawl).1.rank = phase.rank ∧
        Less ((job.step setting phase crawl).1.work setting.web) (phase.work setting.web) := by
  cases phase with
  | asking =>
    left
    simp only [step]
    split <;> simp [Phase.rank]
  | entering =>
    left
    simp only [step]
    split <;> simp [Phase.rank]
  | gathering => exact Or.inl (gather_rank job setting crawl)
  | walking walk =>
    simp only [step]
    split
    · rename_i after later turn
      exact Or.inr ⟨rfl, Walk.step_less setting walk after crawl later turn⟩
    · left
      simp [Phase.rank]
    · left
      simp [Phase.rank]
  | closing visited =>
    left
    simp only [step]
    split <;> simp [Phase.rank]
  | finishing visited =>
    left
    simp [step, Phase.rank]
  | dropping panics =>
    left
    cases panics <;> simp [step, Phase.rank]
  | done => cases more
  | panicked => cases more

def runFrom [Sink σ] (job : Job) (setting : Setting) (phase : Phase) (crawl : Crawl σ) :
    Phase × Crawl σ :=
  if _more : phase.isOver = false then
    let next := job.step setting phase crawl
    runFrom job setting next.1 next.2
  else (phase, crawl)
  termination_by (phase.rank, phase.work setting.web)
  decreasing_by
    rcases step_shorter job setting phase crawl _more with lower | ⟨same, less⟩
    · exact Prod.Lex.left _ _ lower
    · rw [same]
      exact Prod.Lex.right _ less.lex

def run [Sink σ] (job : Job) (setting : Setting) (crawl : Crawl σ) : Phase × Crawl σ :=
  job.runFrom setting .asking crawl

end Job

end Sitemaps
