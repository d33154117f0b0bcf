import Mathlib
import Sitemaps.Config.Load
import Sitemaps.Proofs.Announcements
import Sitemaps.Proofs.Origins
import Sitemaps.Proofs.Plans
import Sitemaps.Proofs.Trimming

/-!
What a configuration that was accepted leads to. Each of its seeds has a root and a job for the plan
of that root, and all that there is to try for a plan lies on the root of the plan.
-/

namespace Sitemaps

namespace Root

variable {root : Root} {location : String}

theorem contains_iff : root.contains location = true ↔ parse location = .ok root := by
  unfold contains
  cases parse location <;> simp

theorem parse_trimmed : parse (Text.trim location) = .ok root ↔ parse location = .ok root := by
  unfold parse
  rw [Text.trim_trimmed]
  cases Url.parse (Text.trim location) <;> simp

theorem trim_filled (parsed : parse location = .ok root) : Text.trim location ≠ "" := by
  intro blank
  rw [← parse_trimmed, blank] at parsed
  cases parsed

end Root

namespace Config

section Checks

variable {first second : Except Fault Unit} {α : Type} {xs : List α}

theorem then_ok : (do first; second) = .ok () ↔ first = .ok () ∧ second = .ok () := by
  cases first <;> simp [bind, Except.bind]

theorem forM_ok {check : α → Except Fault Unit} :
    xs.forM check = .ok () ↔ ∀ x ∈ xs, check x = .ok () := by
  induction xs with
  | nil => simp [pure, Except.pure]
  | cons x xs ih => rw [List.forM, then_ok, ih, List.forall_mem_cons]

theorem ensure_ok {holds : Bool} {reason : String} :
    ensure holds reason = .ok () ↔ holds = true := by
  cases holds <;> simp [ensure]

end Checks

def Sound (seed : Seed) : Prop :=
  ∃ root, Root.parse seed.url = .ok root ∧ ∀ sitemap ∈ seed.sitemaps, root.contains sitemap = true

variable {content : String} {config : Config} {seed : Seed}

theorem checkSeed_sound (checked : checkSeed seed = .ok ()) : Sound seed := by
  unfold checkSeed at checked
  split at checked
  · cases checked
  · rename_i root parsed
    refine ⟨root, parsed, fun sitemap member => ?_⟩
    have each := forM_ok.mp checked sitemap member
    rw [checkSeedSitemap, then_ok] at each
    exact ensure_ok.mp each.2

theorem check_sound (checked : check config = .ok ()) : ∀ seed ∈ config.seeds, Sound seed := by
  simp only [check, then_ok] at checked
  exact fun seed member => checkSeed_sound (forM_ok.mp checked.2.2.2.2 seed member)

theorem parse_checked (accepted : parse content = .ok config) : check config = .ok () := by
  unfold parse at accepted
  split at accepted
  · cases accepted
  · rename_i read _
    split at accepted
    · cases accepted
    · rename_i checked
      rw [← Except.ok.inj accepted]
      exact checked

end Config

namespace RootPlan

variable {seeds : List Seed} {seed : Seed} {root : Root} {plans : List RootPlan} {plan : RootPlan}

theorem gathered_known (member : seed ∈ seeds) (parsed : Root.parse seed.url = .ok root) :
    ∃ plan ∈ gathered seeds, plan.root = root := by
  have listed : root ∈ (gathered seeds).map RootPlan.root := by
    rw [gathered_roots, List.mem_eraseDups]
    exact List.mem_filterMap.mpr ⟨seed, member, Seed.root?_eq.mpr parsed⟩
  exact List.mem_map.mp listed

theorem Grouped.places (grouped : Grouped plans) (robots : Bool)
    (known : ∀ seed ∈ seeds, ∃ plan ∈ plans, Root.parse seed.url = .ok plan.root) :
    ∃ places : List (Fin plans.length),
      seeds.map (fun seed => Root.parse seed.url) =
        places.map (fun place => .ok (plans.get place).root) ∧
      jobsOf plans seeds robots = places.map fun place => (plans.get place).job robots := by
  induction seeds with
  | nil => exact ⟨[], rfl, rfl⟩
  | cons seed seeds ih =>
    obtain ⟨⟨plan, member, parsed⟩, known⟩ := List.forall_mem_cons.mp known
    obtain ⟨places, roots, jobs⟩ := ih known
    obtain ⟨place, here⟩ := List.mem_iff_get.mp member
    have found := grouped.planOf member parsed
    refine ⟨place :: places, ?_, ?_⟩
    · rw [List.map_cons, List.map_cons, roots, parsed, here]
    · rw [jobsOf, List.filterMap_cons_some found, List.map_cons, List.map_cons, here]
      exact congrArg _ jobs

theorem candidates_contained (parsed : ∃ text, Root.parse text = .ok plan.root)
    (own : ∀ sitemap ∈ plan.sitemaps, plan.root.contains sitemap = true) {paths : List String}
    {location : String}
    (member : location ∈ candidates plan.sitemaps plan.root paths plan.startOnly) :
    plan.root.contains location = true := by
  obtain ⟨text, parsed⟩ := parsed
  rcases mem_candidates.mp member with spelled | ⟨-, path, -, rfl⟩
  · obtain ⟨-, sitemap, listed, rfl⟩ := mem_spelledOut.mp spelled
    rw [Root.contains_iff, Root.parse_trimmed, ← Root.contains_iff]
    exact own sitemap listed
  · exact Root.contains_locate parsed path

theorem candidates_filled (own : ∀ sitemap ∈ plan.sitemaps, plan.root.contains sitemap = true)
    (some_given : plan.sitemaps ≠ []) (paths : List String) :
    candidates plan.sitemaps plan.root paths plan.startOnly ≠ [] := by
  obtain ⟨sitemap, listed⟩ := List.exists_mem_of_ne_nil _ some_given
  have filled := Root.trim_filled (Root.contains_iff.mp (own sitemap listed))
  apply List.ne_nil_of_mem
  exact mem_candidates.mpr (Or.inl (mem_spelledOut.mpr ⟨filled, sitemap, listed, rfl⟩))

end RootPlan

namespace Config

variable {content : String} {config : Config} {seeds : List Seed} {plan : RootPlan}

theorem sound_contained (sound : ∀ seed ∈ seeds, Sound seed)
    (member : plan ∈ RootPlan.gathered seeds) :
    ∀ sitemap ∈ plan.sitemaps, plan.root.contains sitemap = true := by
  intro sitemap listed
  rw [(RootPlan.of_mem_gathered member).1, List.mem_eraseDups] at listed
  obtain ⟨seed, own, listed⟩ := List.mem_flatMap.mp listed
  obtain ⟨member, own⟩ := List.mem_filter.mp own
  obtain ⟨root, parsed, contained⟩ := sound seed member
  have same := Seed.root?_eq.mp (eq_of_beq own)
  rw [Except.ok.inj (same.symm.trans parsed)]
  exact contained sitemap listed

/-- A configuration that is accepted can be planned. Only the temporary directory can keep it from
being carried out, each seed gets a job for the plan of its root, and all there is to try for a plan
lies on its root; where only given locations are to be tried, there is one. -/
theorem accepted_plans (accepted : parse content = .ok config) :
    ∃ plans, planRoots config.seeds = .ok plans ∧ (plans.map (·.root)).Nodup ∧
      (∀ (web : Web) (staging : Staging) (disk : Disk),
        let assembled := (Coordinator.assemble config web staging disk).1
        (∃ fault, disk.makeDirectories staging.place = .error fault ∧
          assembled = .error (.tempDir staging.shown fault)) ∨
        ∃ coordinator, assembled = .ok coordinator ∧ coordinator.plans = plans ∧
          ∃ places : List (Fin plans.length),
            config.seeds.map (fun seed => Root.parse seed.url) =
              places.map (fun place => .ok (plans.get place).root) ∧
            coordinator.jobs =
              places.map fun place => (plans.get place).job config.crawler.robots) ∧
      ∀ plan ∈ plans,
        let locations := candidates plan.sitemaps plan.root config.sitemap.paths plan.startOnly
        (∀ location ∈ locations, plan.root.contains location = true) ∧
          (plan.startOnly = true → locations ≠ []) := by
  have sound := check_sound (parse_checked accepted)
  have rooted : RootPlan.Rooted config.seeds := fun seed member =>
    let ⟨root, parsed, _⟩ := sound seed member
    ⟨root, parsed⟩
  have planned := RootPlan.planRoots_rooted rooted
  have grouped := RootPlan.Grouped.ofSeeds planned
  refine ⟨_, planned, grouped.roots, fun web staging disk => ?_, fun plan member => ?_⟩
  · cases made : disk.makeDirectories staging.place with
    | error fault =>
      left
      refine ⟨fault, rfl, ?_⟩
      rw [Coordinator.assemble, Staging.prepare_error made]
    | ok there =>
      right
      have known : ∀ seed ∈ config.seeds, ∃ plan ∈ RootPlan.gathered config.seeds,
          Root.parse seed.url = .ok plan.root := by
        intro seed member
        obtain ⟨root, parsed⟩ := rooted seed member
        obtain ⟨plan, listed, rfl⟩ := RootPlan.gathered_known member parsed
        exact ⟨plan, listed, parsed⟩
      obtain ⟨places, roots, jobs⟩ := grouped.places config.crawler.robots known
      have assembled : (Coordinator.assemble config web staging disk).1 =
          .ok ⟨⟨web, staging, config.sitemap.scope, config.sitemap.paths⟩,
            RootPlan.gathered config.seeds,
            jobsOf (RootPlan.gathered config.seeds) config.seeds config.crawler.robots,
            config.crawler.workers⟩ := by
        simp only [Coordinator.assemble, Staging.prepare_ok made, Coordinator.plan, planned]
      exact ⟨_, assembled, rfl, places, roots, jobs⟩
  · have own := sound_contained sound member
    exact ⟨fun location => RootPlan.candidates_contained (grouped.parsed plan member) own,
      fun startOnly => RootPlan.candidates_filled own ((grouped.given member).mp startOnly) _⟩

def mirrorsText : String :=
  "sitemap.paths = [\" s\"]\n" ++
  "output.database-path = \"d\"\n" ++
  "seed = [\x7burl = \"http://[::1]\"\x7d, " ++
    "\x7burl = \"http://[::2]/x\", sitemaps = [\" http://[::2]/s\"]\x7d, " ++
    "\x7burl = \"http://[::1]:80/\"\x7d]\n" ++
  "[user-agent]\ncrawler-name = \"c\"\ncrawler-version = \"1\"\n" ++
    "contact-url = \"b:\"\ncontact-email = \"a@.\"\n"

def mirrors : Config :=
  ⟨⟨[" s"], false, none⟩, ⟨"c", "1", "b:", "a@."⟩, .default, "d",
    [⟨"http://[::1]", []⟩, ⟨"http://[::2]/x", [" http://[::2]/s"]⟩, ⟨"http://[::1]:80/", []⟩]⟩

theorem checkSitemap_mirrors : checkSitemap mirrors.sitemap = .ok () := by
  have path : " s".splitOn "://" = [" s"] := by cbv
  have relative : checkPath " s" = .ok () := by
    simp only [checkPath, hasScheme, path]
    rfl
  rw [checkSitemap, then_ok, forM_ok]
  exact ⟨List.forall_mem_singleton.mpr relative, rfl⟩

theorem checkUserAgent_mirrors : checkUserAgent mirrors.userAgent = .ok () := by
  have parts : "a@.".splitOn "@" = ["a", "."] := by cbv
  have email : checkEmail "a@." = .ok () := by
    simp only [checkEmail, parts]
    rfl
  simp only [checkUserAgent, then_ok]
  exact ⟨rfl, by decide +kernel, rfl, email⟩

theorem parse_mirrors : parse mirrorsText = .ok mirrors := by
  have read : (Toml.parse mirrorsText).bind ofEntries? = some mirrors := by decide +kernel
  have checked : check mirrors = .ok () := by
    simp only [check, then_ok]
    exact ⟨checkSitemap_mirrors, checkUserAgent_mirrors, rfl, rfl, rfl⟩
  simp only [parse, read, checked]

theorem accepted_plans_mirrors :
    let probed : RootPlan := ⟨⟨"http://[::1]"⟩, [], false⟩
    let given : RootPlan := ⟨⟨"http://[::2]"⟩, [" http://[::2]/s"], true⟩
    let plans := [probed, given]
    parse mirrorsText = .ok mirrors ∧ planRoots mirrors.seeds = .ok plans ∧
      (∃ coordinator, (Coordinator.assemble mirrors (.ofTexts []) ⟨["tmp"], "tmp"⟩ .empty).1 =
        .ok coordinator ∧ coordinator.plans = plans ∧ coordinator.jobs.length = 3) ∧
      candidates [" http://[::2]/s"] ⟨"http://[::2]"⟩ [" s"] true = ["http://[::2]/s"] ∧
      Root.contains ⟨"http://[::2]"⟩ "http://[::2]/s" = true ∧
      Root.contains ⟨"http://[::1]"⟩ "http://[::1]/s" = true := by
  intro probed given plans
  obtain ⟨others, planned, -, assembles, each⟩ := accepted_plans parse_mirrors
  obtain rfl : plans = others := Except.ok.inj planned
  refine ⟨parse_mirrors, planned, ?_, rfl, ?_, ?_⟩
  · rcases assembles (.ofTexts []) ⟨["tmp"], "tmp"⟩ .empty with
      ⟨fault, failed, -⟩ | ⟨coordinator, assembled, same, places, roots, jobs⟩
    · cases failed
    · refine ⟨coordinator, assembled, same, ?_⟩
      rw [jobs, List.length_map]
      simpa [mirrors] using (congrArg List.length roots).symm
  · exact (each given (by simp [plans])).1 _ List.mem_cons_self
  · exact (each probed (by simp [plans])).1 _ List.mem_cons_self

end Config

end Sitemaps
