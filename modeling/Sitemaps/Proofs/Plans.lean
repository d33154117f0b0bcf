import Sitemaps.Proofs.Grouping

/-!
Planning as grouping: one plan for each root in the order in which the roots come up, with the
sitemaps of all seeds of the root in the order in which those come up. More seeds only add to that.
-/

namespace Sitemaps

section Firsts

variable {α : Type} [BEq α] [LawfulBEq α] {xs : List α} {x : α}

theorem eraseDups_known (known : x ∈ xs) : (xs ++ [x]).eraseDups = xs.eraseDups := by
  simp [List.eraseDups_append, List.removeAll, known]

theorem eraseDups_new (new : x ∉ xs) : (xs ++ [x]).eraseDups = xs.eraseDups ++ [x] := by
  simp [List.eraseDups_append, List.removeAll, new, List.eraseDups_cons]

theorem eraseDups_nodup (xs : List α) : xs.eraseDups.Nodup := by
  induction xs using List.reverseRecOn with
  | nil => simp
  | append_singleton xs x ih =>
    by_cases known : x ∈ xs
    · rwa [eraseDups_known known]
    · rw [eraseDups_new known]
      exact ih.append (List.nodup_singleton _) (by simpa using known)

theorem eraseDups_prefix (xs more : List α) : xs.eraseDups <+: (xs ++ more).eraseDups := by
  rw [List.eraseDups_append]
  exact List.prefix_append _ _

end Firsts

def Seed.root? (seed : Seed) : Option Root := (Root.parse seed.url).toOption

theorem Seed.root?_eq {seed : Seed} {root : Root} :
    seed.root? = some root ↔ Root.parse seed.url = .ok root := by
  unfold root?
  cases Root.parse seed.url <;> simp [Except.toOption]

def rootsOf (seeds : List Seed) : List Root := seeds.filterMap Seed.root?

/-- The sitemaps of the seeds of a root, as often as they come up. -/
def sitemapsOf (seeds : List Seed) (root : Root) : List String :=
  (seeds.filter (·.root? == some root)).flatMap Seed.sitemaps

namespace RootPlan

def listing (root : Root) (sitemaps : List String) : RootPlan :=
  ⟨root, sitemaps.eraseDups, !sitemaps.isEmpty⟩

/-- The plans as they should be: what comes up, when it comes up first. -/
def gathered (seeds : List Seed) : List RootPlan :=
  (rootsOf seeds).eraseDups.map fun root => listing root (sitemapsOf seeds root)

variable {seeds more : List Seed} {seed : Seed} {root : Root} {plans : List RootPlan}

theorem sitemapsOf_append (seeds more : List Seed) (root : Root) :
    sitemapsOf (seeds ++ more) root = sitemapsOf seeds root ++ sitemapsOf more root := by
  simp [sitemapsOf]

theorem sitemapsOf_own (own : seed.root? = some root) : sitemapsOf [seed] root = seed.sitemaps := by
  simp [sitemapsOf, own]

theorem sitemapsOf_other {other : Root} (own : seed.root? = some root) (apart : root ≠ other) :
    sitemapsOf [seed] other = [] := by
  simp [sitemapsOf, own, apart]

theorem sitemapsOf_absent (absent : root ∉ rootsOf seeds) : sitemapsOf seeds root = [] := by
  have none : seeds.filter (·.root? == some root) = [] := by
    rw [List.filter_eq_nil_iff]
    intro seed member own
    exact absent (List.mem_filterMap.mpr ⟨seed, member, eq_of_beq own⟩)
  rw [sitemapsOf, none, List.flatMap_nil]

theorem sitemapsOf_ne_nil : sitemapsOf seeds root ≠ [] ↔
    ∃ seed ∈ seeds, Root.parse seed.url = .ok root ∧ seed.sitemaps ≠ [] := by
  simp [sitemapsOf, List.flatMap_eq_nil_iff, Seed.root?_eq]

@[simp]
theorem listing_root (root : Root) (sitemaps : List String) :
    (listing root sitemaps).root = root := rfl

theorem listing_startOnly (root : Root) (sitemaps : List String) :
    (listing root sitemaps).startOnly = !(listing root sitemaps).sitemaps.isEmpty := by
  cases sitemaps <;> simp [listing, List.eraseDups_cons]

theorem addSitemaps_single (plan : RootPlan) (location : String) :
    (plan.addSitemaps [location]).sitemaps =
      if location ∈ plan.sitemaps then plan.sitemaps else plan.sitemaps ++ [location] := by
  by_cases listed : location ∈ plan.sitemaps <;> simp [addSitemaps, listed]

theorem addSitemaps_listed (root : Root) (known sitemaps : List String) :
    ((listing root known).addSitemaps sitemaps).sitemaps = (known ++ sitemaps).eraseDups := by
  induction sitemaps using List.reverseRecOn with
  | nil => simp [addSitemaps, listing]
  | append_singleton sitemaps location ih =>
    have next : (listing root known).addSitemaps (sitemaps ++ [location]) =
        ((listing root known).addSitemaps sitemaps).addSitemaps [location] := by
      simp [addSitemaps]
    rw [next, addSitemaps_single, ih, ← List.append_assoc]
    by_cases listed : location ∈ known ++ sitemaps
    · rw [if_pos (List.mem_eraseDups.mpr listed), eraseDups_known listed]
    · rw [if_neg (mt List.mem_eraseDups.mp listed), eraseDups_new listed]

theorem addSitemaps_listing (root : Root) (known sitemaps : List String) :
    (listing root known).addSitemaps sitemaps = listing root (known ++ sitemaps) := by
  have listed := addSitemaps_listed root known sitemaps
  have flag := addSitemaps_startOnly (listing root known) sitemaps
  rw [listed] at flag
  have same := listing_startOnly root (known ++ sitemaps)
  exact RootPlan.ext rfl listed (flag.trans same.symm)

theorem insert_once {sitemaps : List String} (distinct : (plans.map RootPlan.root).Nodup)
    (known : root ∈ plans.map RootPlan.root) :
    insert root sitemaps plans =
      plans.map fun plan => if plan.root = root then plan.addSitemaps sitemaps else plan := by
  induction plans with
  | nil => cases known
  | cons plan plans ih =>
    obtain ⟨new, distinct⟩ := List.nodup_cons.mp distinct
    rw [insert, List.map_cons]
    split
    · rename_i own
      subst own
      congr 1
      have others : ∀ other ∈ plans, (if other.root = plan.root then other.addSitemaps sitemaps
          else other) = other := by
        intro other member
        exact if_neg fun same => new (List.mem_map.mpr ⟨other, member, same⟩)
      rw [List.map_congr_left others, List.map_id']
    · rename_i other
      rw [ih distinct ((List.mem_cons.mp known).resolve_left (Ne.symm other))]

theorem gathered_roots (seeds : List Seed) :
    (gathered seeds).map RootPlan.root = (rootsOf seeds).eraseDups := by
  simp [gathered, Function.comp_def]

theorem gathered_append (own : seed.root? = some root) :
    gathered (seeds ++ [seed]) = insert root seed.sitemaps (gathered seeds) := by
  have roots : rootsOf (seeds ++ [seed]) = rootsOf seeds ++ [root] := by
    simp [rootsOf, own]
  have still : ∀ other, root ≠ other →
      sitemapsOf (seeds ++ [seed]) other = sitemapsOf seeds other := by
    intro other apart
    rw [sitemapsOf_append, sitemapsOf_other own apart, List.append_nil]
  have added : sitemapsOf (seeds ++ [seed]) root = sitemapsOf seeds root ++ seed.sitemaps := by
    rw [sitemapsOf_append, sitemapsOf_own own]
  have distinct : ((gathered seeds).map RootPlan.root).Nodup := by
    rw [gathered_roots]
    exact eraseDups_nodup _
  by_cases known : root ∈ rootsOf seeds
  · have listed : root ∈ (gathered seeds).map RootPlan.root := by
      rwa [gathered_roots, List.mem_eraseDups]
    rw [insert_once distinct listed, gathered, roots, eraseDups_known known, gathered,
      List.map_map]
    refine List.map_congr_left fun other _ => ?_
    by_cases same : other = root
    · subst same
      simp [added, addSitemaps_listing]
    · simp [still other (Ne.symm same), same]
  · have unlisted : root ∉ (gathered seeds).map RootPlan.root := by
      rwa [gathered_roots, List.mem_eraseDups]
    have fresh : addSitemaps ⟨root, [], false⟩ seed.sitemaps = listing root ([] ++ seed.sitemaps) :=
      addSitemaps_listing root [] seed.sitemaps
    have before : (rootsOf seeds).eraseDups.map (fun other =>
        listing other (sitemapsOf (seeds ++ [seed]) other)) = gathered seeds := by
      refine List.map_congr_left fun other member => ?_
      have apart : root ≠ other := fun same => known (same ▸ List.mem_eraseDups.mp member)
      rw [still other apart]
    rw [insert_new unlisted, gathered, roots, eraseDups_new known, List.map_append, before,
      List.map_singleton, added, sitemapsOf_absent known, fresh]

def Rooted (seeds : List Seed) : Prop := ∀ seed ∈ seeds, ∃ root, Root.parse seed.url = .ok root

theorem planRoots_rooted (rooted : Rooted seeds) : planRoots seeds = .ok (gathered seeds) := by
  induction seeds using List.reverseRecOn with
  | nil => rfl
  | append_singleton seeds seed ih =>
    obtain ⟨root, parsed⟩ := rooted seed (by simp)
    have before := ih fun earlier member => rooted earlier (List.mem_append_left _ member)
    rw [planRoots] at before ⊢
    rw [List.foldlM_append, before, gathered_append (Seed.root?_eq.mpr parsed)]
    simp only [bind, Except.bind, List.foldlM_cons, List.foldlM_nil, insertSeed, parsed]
    rfl

theorem rooted_or_not (seeds : List Seed) : Rooted seeds ∨ ∃ before seed after fault,
    seeds = before ++ seed :: after ∧ Rooted before ∧ Root.parse seed.url = .error fault := by
  induction seeds with
  | nil => exact Or.inl nofun
  | cons first seeds ih =>
    cases parsed : Root.parse first.url with
    | error fault => exact Or.inr ⟨[], first, seeds, fault, rfl, nofun, parsed⟩
    | ok root =>
      rcases ih with rooted | ⟨before, seed, after, fault, rfl, rooted, failed⟩
      · exact Or.inl (List.forall_mem_cons.mpr ⟨⟨root, parsed⟩, rooted⟩)
      · exact Or.inr ⟨first :: before, seed, after, fault, rfl,
          List.forall_mem_cons.mpr ⟨⟨root, parsed⟩, rooted⟩, failed⟩

theorem planRoots_faulty {before after : List Seed} {fault : Root.Fault} (rooted : Rooted before)
    (failed : Root.parse seed.url = .error fault) :
    planRoots (before ++ seed :: after) = .error fault := by
  have planned := planRoots_rooted rooted
  rw [planRoots] at planned ⊢
  rw [List.foldlM_append, planned]
  simp only [bind, Except.bind, List.foldlM_cons, insertSeed, failed]

theorem planRoots_error {fault : Root.Fault} : planRoots seeds = .error fault ↔
    ∃ before seed after, seeds = before ++ seed :: after ∧ Rooted before ∧
      Root.parse seed.url = .error fault := by
  constructor
  · intro fails
    rcases rooted_or_not seeds with rooted | ⟨before, seed, after, other, rfl, rooted, failed⟩
    · rw [planRoots_rooted rooted] at fails
      cases fails
    · rw [planRoots_faulty rooted failed, Except.error.injEq] at fails
      exact ⟨before, seed, after, rfl, rooted, fails ▸ failed⟩
  · rintro ⟨before, seed, after, rfl, rooted, failed⟩
    exact planRoots_faulty rooted failed

theorem planRoots_ok : planRoots seeds = .ok plans ↔ Rooted seeds ∧ plans = gathered seeds := by
  constructor
  · intro planned
    rcases rooted_or_not seeds with rooted | ⟨before, seed, after, other, rfl, rooted, failed⟩
    · rw [planRoots_rooted rooted] at planned
      exact ⟨rooted, (Except.ok.inj planned).symm⟩
    · rw [planRoots_faulty rooted failed] at planned
      cases planned
  · rintro ⟨rooted, rfl⟩
    exact planRoots_rooted rooted

theorem of_mem_gathered {plan : RootPlan} (member : plan ∈ gathered seeds) :
    plan.sitemaps = (sitemapsOf seeds plan.root).eraseDups ∧
      (plan.startOnly = true ↔
        ∃ seed ∈ seeds, Root.parse seed.url = .ok plan.root ∧ seed.sitemaps ≠ []) := by
  obtain ⟨root, -, rfl⟩ := List.mem_map.mp member
  refine ⟨rfl, ?_⟩
  rw [← sitemapsOf_ne_nil, listing, Bool.not_eq_true', List.isEmpty_eq_false_iff]

theorem gathered_extends (seeds more : List Seed) :
    (gathered seeds).map RootPlan.root <+: (gathered (seeds ++ more)).map RootPlan.root ∧
      ∀ (place : Nat) plan, (gathered seeds)[place]? = some plan →
        ∃ later, (gathered (seeds ++ more))[place]? = some later ∧ later.root = plan.root ∧
          plan.sitemaps <+: later.sitemaps := by
  have roots : (rootsOf seeds).eraseDups <+: (rootsOf (seeds ++ more)).eraseDups := by
    rw [rootsOf, rootsOf, List.filterMap_append]
    exact eraseDups_prefix _ _
  refine ⟨by rwa [gathered_roots, gathered_roots], fun place plan here => ?_⟩
  rw [gathered, List.getElem?_map] at here
  obtain ⟨root, first, rfl⟩ := Option.map_eq_some_iff.mp here
  obtain ⟨short, same⟩ := List.getElem?_eq_some_iff.mp first
  have still : (rootsOf (seeds ++ more)).eraseDups[place]? = some root := by
    obtain ⟨rest, whole⟩ := roots
    rw [← whole, List.getElem?_append_left short, first]
  refine ⟨listing root (sitemapsOf (seeds ++ more) root), ?_, rfl, ?_⟩
  · rw [gathered, List.getElem?_map, still, Option.map_some]
  · rw [listing, listing, sitemapsOf_append]
    exact eraseDups_prefix _ _

end RootPlan

open RootPlan in
/-- Planning is grouping: it fails with the first seed that has no root; otherwise there is one plan
for each root and one sitemap of each spelling, in the order in which they come up, and start-only
are the plans of the roots for which some seed lists a sitemap. More seeds only add to the end. -/
theorem planRoots_groups (seeds : List Seed) :
    ((∃ plans, planRoots seeds = .ok plans) ↔
      ∀ seed ∈ seeds, ∃ root, Root.parse seed.url = .ok root) ∧
    (∀ fault, planRoots seeds = .error fault ↔ ∃ before seed after,
      seeds = before ++ seed :: after ∧
        (∀ earlier ∈ before, ∃ root, Root.parse earlier.url = .ok root) ∧
        Root.parse seed.url = .error fault) ∧
    (∀ plans, planRoots seeds = .ok plans →
      (plans.map (·.root)).Nodup ∧ plans.map (·.root) = (rootsOf seeds).eraseDups ∧
      ∀ plan ∈ plans, plan.sitemaps.Nodup ∧
        plan.sitemaps = (sitemapsOf seeds plan.root).eraseDups ∧
        (plan.startOnly = true ↔
          ∃ seed ∈ seeds, Root.parse seed.url = .ok plan.root ∧ seed.sitemaps ≠ [])) ∧
    ∀ more plans longer, planRoots seeds = .ok plans → planRoots (seeds ++ more) = .ok longer →
      plans.map (·.root) <+: longer.map (·.root) ∧
      ∀ (place : Nat) plan, plans[place]? = some plan → ∃ later, longer[place]? = some later ∧
        later.root = plan.root ∧ plan.sitemaps <+: later.sitemaps := by
  refine ⟨⟨fun ⟨_, planned⟩ => (planRoots_ok.mp planned).1, fun rooted =>
    ⟨_, planRoots_rooted rooted⟩⟩, fun _ => planRoots_error, fun plans planned => ?_,
    fun more plans longer planned also => ?_⟩
  · obtain ⟨-, rfl⟩ := planRoots_ok.mp planned
    refine ⟨by rw [gathered_roots]; exact eraseDups_nodup _, gathered_roots seeds,
      fun plan member => ?_⟩
    obtain ⟨sitemaps, startOnly⟩ := of_mem_gathered member
    exact ⟨by rw [sitemaps]; exact eraseDups_nodup _, sitemaps, startOnly⟩
  · obtain ⟨-, rfl⟩ := planRoots_ok.mp planned
    obtain ⟨-, rfl⟩ := planRoots_ok.mp also
    exact gathered_extends seeds more

def neighbours : List Seed :=
  [⟨"http://[::1]/", []⟩, ⟨"http://[::2]/", ["http://[::2]/s"]⟩,
    ⟨"HTTP://[0::1]:80/x", ["http://[::1]/t", "http://[::1]/s", "http://[::1]/t"]⟩]

theorem planRoots_groups_neighbours :
    let first : RootPlan := ⟨⟨"http://[::1]"⟩, ["http://[::1]/t", "http://[::1]/s"], true⟩
    let plans : List RootPlan := [first, ⟨⟨"http://[::2]"⟩, ["http://[::2]/s"], true⟩]
    let late : List Seed := [⟨"http://[::2]/", ["http://[::2]/t"]⟩, ⟨"http://[::3]/", []⟩]
    planRoots neighbours = .ok plans ∧
      (rootsOf neighbours).eraseDups = [⟨"http://[::1]"⟩, ⟨"http://[::2]"⟩] ∧
      first.startOnly = true ∧
      (∃ longer, planRoots (neighbours ++ late) = .ok longer ∧
        plans.map (·.root) <+: longer.map (·.root)) ∧
      planRoots (neighbours ++ [⟨"mailto:b", []⟩, ⟨"page", []⟩]) =
        .error (.otherScheme "mailto") := by
  intro first plans late
  obtain ⟨-, -, groups, grows⟩ := planRoots_groups neighbours
  have planned : planRoots neighbours = .ok plans := rfl
  obtain ⟨-, roots, each⟩ := groups plans planned
  have rooted : ∀ seed ∈ neighbours, ∃ root, Root.parse seed.url = .ok root :=
    (planRoots_groups neighbours).1.mp ⟨plans, planned⟩
  have longer : ∃ longer, planRoots (neighbours ++ late) = .ok longer := ⟨_, rfl⟩
  refine ⟨planned, roots.symm, (each _ List.mem_cons_self).2.2.mpr ?_, ?_, ?_⟩
  · exact ⟨_, List.mem_of_mem_getLast? rfl, rfl, nofun⟩
  · obtain ⟨longer, also⟩ := longer
    exact ⟨longer, also, (grows late plans longer planned also).1⟩
  · exact ((planRoots_groups _).2.1 _).mpr ⟨neighbours, _, _, rfl, rooted, rfl⟩

end Sitemaps
