import Sitemaps.Command.Program
import Sitemaps.Proofs.Spellings
import Sitemaps.Proofs.Trimming
import Sitemaps.Proofs.Validation

/-!
What a dry run tells of a plan, and what a run of its job sets out with. A dry run lists the texts
of an accepted configuration as they are spelled, where a run tries them trimmed; the two agree where
no text has blanks around it. The robots file is listed exactly where a run reads it.
-/

namespace Sitemaps

namespace Root

variable {root : Root} {path : String}

theorem toList_locate (root : Root) (path : String) : (root.locate path).toList =
    root.text.toList ++
      if path.toList.head? = some '/' then path.toList else '/' :: path.toList := by
  unfold locate
  split <;> simp

theorem locate_trim : root.locate (Text.trim path) = root.locate path ↔ Text.trim path = path := by
  constructor
  · intro same
    have behind := congrArg String.toList same
    rw [toList_locate, toList_locate] at behind
    replace behind := List.append_cancel_left behind
    have shorter : (Text.trim path).toList.length ≤ path.toList.length := by
      obtain ⟨before, after, whole, -, -⟩ := Text.trimChars_parts path.toList
      have sizes := congrArg List.length whole
      rw [Text.trim, String.toList_ofList]
      simp only [List.length_append] at sizes
      omega
    apply String.toList_injective
    by_cases slashed : path.toList.head? = some '/'
    · have kept := (Text.trim_slash slashed rfl).1
      rw [if_pos slashed, if_pos kept] at behind
      exact behind
    · rw [if_neg slashed] at behind
      split at behind
      · have longer := congrArg List.length behind
        rw [List.length_cons] at longer
        omega
      · exact (List.cons.inj behind).2
  · intro trimmed
    rw [trimmed]

end Root

def Config.setting (config : Config) (web : Web) (staging : Staging) : Setting :=
  ⟨web, staging, config.sitemap.scope, config.sitemap.paths⟩

namespace RootPlan

/-- The texts that the locations of a plan come from, apart from those that its site declares. -/
def texts (plan : RootPlan) (config : Config) : List String :=
  if plan.startOnly then plan.sitemaps else config.sitemap.paths

/-- The location that such a text stands for. -/
def shown (plan : RootPlan) (text : String) : String :=
  if plan.startOnly then text else plan.root.locate text

/-- The locations that a run tries for a plan if its site declares none. -/
def tried (plan : RootPlan) (config : Config) : List String :=
  candidates plan.sitemaps plan.root config.sitemap.paths plan.startOnly

variable {plan : RootPlan} {config : Config} {text location : String}

theorem mem_listed : location ∈ Command.listed config plan ↔
    ∃ text ∈ plan.texts config, plan.shown text = location := by
  unfold Command.listed texts shown
  split <;> simp

theorem mem_tried (flagged : plan.startOnly = true ↔ plan.sitemaps ≠ [])
    (filled : ∀ text ∈ plan.texts config, Text.trim text ≠ "") :
    location ∈ plan.tried config ↔
      ∃ text ∈ plan.texts config, plan.shown (Text.trim text) = location := by
  rw [tried, mem_candidates_texts]
  by_cases startOnly : plan.startOnly = true
  · have own : plan.texts config = plan.sitemaps := if_pos startOnly
    have itself : ∀ text, plan.shown text = text := fun _ => if_pos startOnly
    rw [own] at filled ⊢
    simp only [itself]
    constructor
    · rintro (⟨text, listed, -, trimmed⟩ | ⟨probed, -⟩)
      · exact ⟨text, listed, trimmed⟩
      · rw [startOnly] at probed
        cases probed
    · rintro ⟨text, listed, trimmed⟩
      exact Or.inl ⟨text, listed, filled text listed, trimmed⟩
  · have probed : plan.startOnly = false := Bool.eq_false_iff.mpr startOnly
    have paths : plan.texts config = config.sitemap.paths := if_neg startOnly
    have located : ∀ path, plan.shown path = plan.root.locate path := fun _ => if_neg startOnly
    have none : plan.sitemaps = [] := not_not.mp fun some => startOnly (flagged.mpr some)
    rw [paths] at filled ⊢
    simp only [located, none]
    constructor
    · rintro (⟨text, listed, -⟩ | ⟨-, path, listed, -, same⟩)
      · cases listed
      · exact ⟨path, listed, same⟩
    · rintro ⟨path, listed, same⟩
      exact Or.inr ⟨probed, path, listed, filled path listed, same⟩

theorem shown_trim : plan.shown (Text.trim text) = plan.shown text ↔ Text.trim text = text := by
  unfold shown
  split
  · rfl
  · exact Root.locate_trim

end RootPlan

namespace Config

variable {content : String} {config : Config} {plan : RootPlan}

theorem check_paths (checked : check config = .ok ()) :
    ∀ path ∈ config.sitemap.paths, Text.trim path ≠ "" := by
  simp only [check, checkSitemap, then_ok] at checked
  intro path member
  have each := forM_ok.mp checked.1.1 path member
  rw [checkPath, then_ok] at each
  simpa using ensure_ok.mp each.1

theorem accepted_filled (accepted : parse content = .ok config)
    (member : plan ∈ RootPlan.gathered config.seeds) :
    ∀ text ∈ plan.texts config, Text.trim text ≠ "" := by
  have checked := parse_checked accepted
  unfold RootPlan.texts
  split
  · intro sitemap listed
    have contained := sound_contained (check_sound checked) member sitemap listed
    exact Root.trim_filled (Root.contains_iff.mp contained)
  · exact check_paths checked

end Config

theorem Crawl.enter_fetched {σ : Type} [RootStore σ] (crawl : Crawl σ) (root : Root) :
    (crawl.enter root).2.journal.fetched = crawl.journal.fetched := by
  simp only [Crawl.enter]
  split <;> simp [Crawl.log, Journal.fetched_cons]

namespace Job

variable {σ : Type} [RootStore σ] {job : Job} {setting : Setting} {crawl : Crawl σ}

theorem gather_fetched : (job.gather setting crawl).2.journal.fetched =
    crawl.journal.fetched ++ if job.readsRobots then [Robots.location job.root] else [] := by
  obtain ⟨notices, gathered⟩ := job.gather_note setting crawl
  rw [gathered, Crawl.note_journal, Journal.fetched_note]
  split
  · exact Crawl.request_fetched crawl setting.web _
  · rw [List.append_nil]

theorem explicit?_given (nothing : job.readsRobots = true →
      let answer := setting.web.answer (Robots.location job.root)
        (crawl.journal.requests (Robots.location job.root))
      answer.panics = false ∧ (Robots.readAnswer job.root answer.result).1 = []) :
    job.explicit? setting crawl = some job.given := by
  unfold explicit?
  split
  · rename_i reads
    obtain ⟨calm, none⟩ := nothing reads
    have fetched : (Robots.fetch setting.web job.root crawl).1 = some [] := by
      simp [Robots.fetch, Crawl.request, calm, none]
    rw [fetched, Option.map_some, List.append_nil]
  · rfl

theorem after_gathering [Sink σ] (going : crawl.stopped = false)
    (unresolved : (crawl.desk.state job.root).1 = .unresolved) :
    job.after setting crawl 3 = job.gather setting (crawl.enter job.root).2 := by
  simp [after, step, going, crawl.enter_granted going unresolved]

end Job

namespace Command

theorem listedRobots_job (config : Config) (plan : RootPlan) : listedRobots config plan =
    if (plan.job config.crawler.robots).readsRobots then some (Robots.location plan.root)
    else none := rfl

/-- What a dry run of an accepted configuration tells, against what a run does. Each plan is listed
with the locations of its texts as they are spelled, where a run tries those of the trimmed texts:
a text has the same location for both exactly if it has no blanks around it, and where that holds of
all, a run tries exactly what is listed. In whatever web an unresolved root is resolved, its job
first fetches the robots file if that is listed, and nothing if not; if nothing is declared there,
it sets out with the locations to try. -/
theorem dryRun_foretells {content : String} {config : Config}
    (accepted : Config.parse content = .ok config) :
    ∃ plans, planRoots config.seeds = .ok plans ∧
      (∀ folder, ∃ before after,
        dryRun folder config = ⟨0, before ++ plans.flatMap (planLines config) ++ after, folder⟩) ∧
      ∀ plan ∈ plans,
        (∀ location, location ∈ listed config plan ↔
          ∃ text ∈ plan.texts config, plan.shown text = location) ∧
        (∀ location, location ∈ plan.tried config ↔
          ∃ text ∈ plan.texts config, plan.shown (Text.trim text) = location) ∧
        (∀ text, plan.shown (Text.trim text) = plan.shown text ↔ Text.trim text = text) ∧
        ((∀ text ∈ plan.texts config, Text.trim text = text) →
          ∀ location, location ∈ listed config plan ↔ location ∈ plan.tried config) ∧
        ∀ {σ : Type} [RootStore σ] [Sink σ] (web : Web) (staging : Staging) (crawl : Crawl σ),
          crawl.stopped = false → (crawl.desk.state plan.root).1 = .unresolved →
          let job := plan.job config.crawler.robots
          let setting := config.setting web staging
          let ready := job.after setting crawl 3
          job.runFrom setting ready.1 ready.2 = job.run setting crawl ∧
          ready.2.journal.fetched =
            crawl.journal.fetched ++ (listedRobots config plan).toList ∧
          ((∀ robots ∈ listedRobots config plan,
              let answer := web.answer robots (crawl.journal.requests robots)
              answer.panics = false ∧ (Robots.readAnswer plan.root answer.result).1 = []) →
            ready.1 = .walking (.start (plan.tried config))) := by
  have sound := Config.check_sound (Config.parse_checked accepted)
  have planned : planRoots config.seeds = .ok (RootPlan.gathered config.seeds) :=
    RootPlan.planRoots_rooted fun seed member =>
      let ⟨root, parsed, _⟩ := sound seed member
      ⟨root, parsed⟩
  refine ⟨_, planned, fun folder => ?_, fun plan member => ?_⟩
  · rw [dryRun, planned]
    exact ⟨_, _, rfl⟩
  have filled := Config.accepted_filled accepted member
  have flagged := (RootPlan.Grouped.ofSeeds planned).given member
  refine ⟨fun location => RootPlan.mem_listed, fun location => RootPlan.mem_tried flagged filled,
    fun text => RootPlan.shown_trim, fun unpadded location => ?_, ?_⟩
  · rw [RootPlan.mem_listed, RootPlan.mem_tried flagged filled]
    refine exists_congr fun text => and_congr_right fun listed => ?_
    rw [unpadded text listed]
  · intro σ _ _ web staging crawl going unresolved job setting ready
    have gathered : ready = job.gather setting (crawl.enter plan.root).2 :=
      Job.after_gathering going unresolved
    refine ⟨job.runFrom_after setting crawl 3, ?_, fun nothing => ?_⟩
    · rw [gathered, Job.gather_fetched, Crawl.enter_fetched, listedRobots_job]
      split <;> rfl
    · have given : job.explicit? setting (crawl.enter plan.root).2 = some plan.sitemaps := by
        apply Job.explicit?_given
        intro reads
        rw [Journal.requests_eq, Crawl.enter_fetched, ← Journal.requests_eq]
        exact nothing _ (by rw [listedRobots_job, if_pos reads]; rfl)
      rw [gathered, job.gather_phase, given]
      rfl

def spacedText : String :=
  "sitemap.paths = [\" s\"]\n" ++
  "output.database-path = \"d\"\n" ++
  "seed = [\x7burl = \"http://[::1]\"\x7d, " ++
    "\x7burl = \"http://[::2]\", sitemaps = [\"http://[::2]/s\"]\x7d]\n" ++
  "[user-agent]\ncrawler-name = \"c\"\ncrawler-version = \"1\"\n" ++
    "contact-url = \"b:\"\ncontact-email = \"a@.\"\n"

def spaced : Config :=
  { Config.mirrors with seeds := [⟨"http://[::1]", []⟩, ⟨"http://[::2]", ["http://[::2]/s"]⟩] }

theorem parse_spaced : Config.parse spacedText = .ok spaced := by
  have read : (Toml.parse spacedText).bind Config.ofEntries? = some spaced := by decide +kernel
  have checked : Config.check spaced = .ok () := by
    simp only [Config.check, Config.then_ok]
    exact ⟨Config.checkSitemap_mirrors, Config.checkUserAgent_mirrors, rfl, rfl,
      by decide +kernel⟩
  simp only [Config.parse, read, checked]

def spacedPlans : List RootPlan :=
  [⟨⟨"http://[::1]"⟩, [], false⟩, ⟨⟨"http://[::2]"⟩, ["http://[::2]/s"], true⟩]

theorem plan_spaced : planRoots spaced.seeds = .ok spacedPlans := by decide +kernel

theorem dryRun_foretells_spaced :
    let crawl : Crawl (Listener MemoryStore) := .start ⟨⟨[], false⟩, 0, none, none⟩ .empty
    let probed : RootPlan := ⟨⟨"http://[::1]"⟩, [], false⟩
    let given : RootPlan := ⟨⟨"http://[::2]"⟩, ["http://[::2]/s"], true⟩
    let ready := (probed.job true).after (spaced.setting (.ofTexts []) ⟨["tmp"], "tmp"⟩) crawl 3
    Config.parse spacedText = .ok spaced ∧ planRoots spaced.seeds = .ok spacedPlans ∧
      (∀ text ∈ given.texts spaced, Text.trim text = text) ∧
      "http://[::2]/s" ∈ listed spaced given ∧ "http://[::2]/s" ∈ given.tried spaced ∧
      listedRobots spaced given = none ∧
      listedRobots spaced probed = some "http://[::1]/robots.txt" ∧
      crawl.stopped = false ∧ (crawl.desk.state probed.root).1 = .unresolved ∧
      ready.2.journal.fetched = ["http://[::1]/robots.txt"] ∧
      ready.1 = .walking (.start ["http://[::1]/s"]) := by
  intro crawl probed given ready
  obtain ⟨plans, planned, -, each⟩ := dryRun_foretells parse_spaced
  obtain rfl : spacedPlans = plans := Except.ok.inj (plan_spaced.symm.trans planned)
  have unpadded : ∀ text ∈ given.texts spaced, Text.trim text = text := by decide
  have listed : "http://[::2]/s" ∈ listed spaced given := List.mem_cons_self
  have unresolved : (crawl.desk.state probed.root).1 = .unresolved := by decide +kernel
  obtain ⟨-, -, -, agrees, -⟩ := each given (by simp [spacedPlans, given])
  obtain ⟨-, -, -, -, runs⟩ := each probed (by simp [spacedPlans, probed])
  obtain ⟨-, fetched, departs⟩ := runs (.ofTexts []) ⟨["tmp"], "tmp"⟩ crawl rfl unresolved
  refine ⟨parse_spaced, planned, unpadded, listed, (agrees unpadded _).mp listed, rfl, rfl, rfl,
    unresolved, fetched, departs fun robots named => ?_⟩
  obtain rfl : "http://[::1]/robots.txt" = robots := Option.some.inj named
  exact ⟨rfl, rfl⟩

/-- A blank before a path shows in what is listed, and not in what is tried. -/
theorem listed_untried :
    Config.parse spacedText = .ok spaced ∧ planRoots spaced.seeds = .ok spacedPlans ∧
      ∃ plan ∈ spacedPlans, listed spaced plan = ["http://[::1]/ s"] ∧
        plan.tried spaced = ["http://[::1]/s"] ∧
        ¬∀ location, location ∈ listed spaced plan ↔ location ∈ plan.tried spaced := by
  refine ⟨parse_spaced, plan_spaced, _, List.mem_cons_self, rfl, rfl, fun same => ?_⟩
  have tried := (same "http://[::1]/ s").mp List.mem_cons_self
  revert tried
  decide

end Command

end Sitemaps
