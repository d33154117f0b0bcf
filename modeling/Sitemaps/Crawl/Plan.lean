import Sitemaps.Crawl.Job

/-! What to resolve: seeds grouped by their roots, and the jobs that seeds give. -/

namespace Sitemaps

structure Seed where
  url : String
  sitemaps : List String
  deriving DecidableEq, Repr

@[ext]
structure RootPlan where
  root : Root
  /-- The sitemaps of all seeds with this root, each once. -/
  sitemaps : List String
  /-- Whether the sitemaps are all there is to try for the root. -/
  startOnly : Bool
  deriving DecidableEq, Repr

namespace RootPlan

/-- Adds the sitemaps of a seed; given sitemaps are all there is to try. -/
def addSitemaps (plan : RootPlan) (sitemaps : List String) : RootPlan :=
  let listed := sitemaps.foldl
    (fun known location => if known.contains location then known else known ++ [location])
    plan.sitemaps
  { plan with sitemaps := listed, startOnly := !listed.isEmpty }

/-- Adds the sitemaps of a seed to the plan for its root, which comes last if it is new. -/
def insert (root : Root) (sitemaps : List String) : List RootPlan → List RootPlan
  | [] => [addSitemaps ⟨root, [], false⟩ sitemaps]
  | plan :: plans =>
    if plan.root = root then plan.addSitemaps sitemaps :: plans
    else plan :: insert root sitemaps plans

def insertSeed (plans : List RootPlan) (seed : Seed) : Except Root.Fault (List RootPlan) :=
  match Root.parse seed.url with
  | .error fault => .error fault
  | .ok root => .ok (insert root seed.sitemaps plans)

def job (plan : RootPlan) (robots : Bool) : Job where
  root := plan.root
  given := plan.sitemaps
  startOnly := plan.startOnly
  readsRobots := !plan.startOnly && robots

end RootPlan

/-- Fails with the first seed that has no root. -/
def planRoots (seeds : List Seed) : Except Root.Fault (List RootPlan) :=
  seeds.foldlM RootPlan.insertSeed []

def planOf (plans : List RootPlan) (seed : Seed) : Option RootPlan :=
  match Root.parse seed.url with
  | .error _ => none
  | .ok root => plans.find? (·.root == root)

def jobsOf (plans : List RootPlan) (seeds : List Seed) (robots : Bool) : List Job :=
  (seeds.filterMap (planOf plans)).map (·.job robots)

end Sitemaps
