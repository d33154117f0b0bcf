import Sitemaps.Proofs.Ensemble

/-!
Runs of a coordinator compared. Workers in concert that are all at their end did the same for every
root, so neither their number nor their schedule shows in the result, but for the order of rows and
for pages that two sites announce.
-/

namespace Sitemaps

theorem mem_jobsOf {plans : List RootPlan} {seeds : List Seed} {robots : Bool} {job : Job} :
    job ∈ jobsOf plans seeds robots ↔ ∃ seed ∈ seeds, ∃ plan, Root.parse seed.url = .ok plan.root ∧
      plans.find? (·.root == plan.root) = some plan ∧ plan.job robots = job := by
  have planned : ∀ (seed : Seed) (plan : RootPlan), planOf plans seed = some plan ↔
      Root.parse seed.url = .ok plan.root ∧ plans.find? (·.root == plan.root) = some plan := by
    intro seed plan
    unfold planOf
    constructor
    · split
      · exact nofun
      · rename_i root parsed
        intro found
        have own : plan.root = root := eq_of_beq (List.find?_some found :)
        rw [own]
        exact ⟨parsed, found⟩
    · rintro ⟨parsed, found⟩
      rw [parsed]
      exact found
  unfold jobsOf
  simp only [List.mem_map, List.mem_filterMap, planned]
  constructor
  · rintro ⟨plan, ⟨seed, member, parsed, found⟩, same⟩
    exact ⟨seed, member, plan, parsed, found, same⟩
  · rintro ⟨seed, member, plan, parsed, found, same⟩
    exact ⟨plan, ⟨seed, member, parsed, found⟩, same⟩

theorem jobsOf_unique {plans : List RootPlan} {seeds : List Seed} {robots : Bool} {job other : Job}
    (member : job ∈ jobsOf plans seeds robots) (found : other ∈ jobsOf plans seeds robots)
    (same : job.root = other.root) : job = other := by
  obtain ⟨-, -, plan, -, here, rfl⟩ := mem_jobsOf.mp member
  obtain ⟨-, -, twin, -, there, rfl⟩ := mem_jobsOf.mp found
  have same : plan.root = twin.root := same
  rw [same, there] at here
  rw [Option.some.inj here]

namespace Team

variable {setting : Setting} {disk : Disk} {before : Tables} {jobs : List Job} {team : Team Tally}
  {did : Trace}

theorem Concerted.all_idle (concerted : team.Concerted setting disk before jobs did)
    (ended : ∀ duty ∈ team.duties, duty.isOver = true) : ∀ duty ∈ team.duties, duty = .idle :=
  fun duty member => Duty.over_idle (ended duty member) (concerted.calm.unbroken duty member)

/-- In the end a root is finished with its script done if it was not known and a job has it, and
nothing was done for any other. -/
theorem Concerted.settled (concerted : team.Concerted setting disk before jobs did)
    (ended : ∀ duty ∈ team.duties, duty.isOver = true) (root : Root) :
    (root ∈ team.crawl.desk.guard.finished ∧ root.text ∉ before.roots ∧
      ∃ job ∈ jobs, job.root = root ∧ did.ofRoot root = job.script setting disk) ∨
    (root ∉ team.crawl.desk.guard.finished ∧ did.ofRoot root = [] ∧
      (root.text ∈ before.roots ∨ ∀ job ∈ jobs, job.root ≠ root)) := by
  have idle := concerted.all_idle ended
  cases concerted.status root with
  | @finished job free inactive finished unknown member same whole =>
    exact Or.inl ⟨finished, unknown, job, member, same, whole⟩
  | worked found =>
    cases idle _ (List.mem_of_getElem? found)
  | fresh free inactive unfinished nothing =>
    refine Or.inr ⟨unfinished, nothing, ?_⟩
    by_cases known : root.text ∈ before.roots
    · exact Or.inl known
    refine Or.inr fun job member same => ?_
    obtain ⟨duty, some_duty⟩ := List.exists_mem_of_ne_nil _ concerted.assigned.staffed
    have empty := concerted.assigned.spent (idle duty some_duty ▸ some_duty)
    rcases concerted.assigned.covered job member with waiting | ⟨duty, at_duty, asks⟩ | turned
    · rw [empty] at waiting
      cases waiting
    · rw [idle duty at_duty] at asks
      cases asks
    · rw [same] at turned
      rcases turned with recorded | active | finished
      · exact known recorded
      · exact inactive active
      · exact unfinished finished

/-- Workers in concert did the same for a root, however many they were and whoever took it. -/
theorem Concerted.agree {other : Team Tally} {done : Trace}
    (unique : ∀ job ∈ jobs, ∀ twin ∈ jobs, job.root = twin.root → job = twin)
    (first : team.Concerted setting disk before jobs did)
    (second : other.Concerted setting disk before jobs done)
    (ended : ∀ duty ∈ team.duties, duty.isOver = true)
    (rested : ∀ duty ∈ other.duties, duty.isOver = true) (root : Root) :
    did.ofRoot root = done.ofRoot root ∧
      (root ∈ team.crawl.desk.guard.finished ↔ root ∈ other.crawl.desk.guard.finished) := by
  rcases first.settled ended root with ⟨here, unknown, job, member, same, whole⟩ |
      ⟨unfinished, nothing, left⟩ <;>
    rcases second.settled rested root with ⟨there, unrecorded, twin, found, own, script⟩ |
      ⟨missing, none, beyond⟩
  · have one := unique job member twin found (same.trans own.symm)
    subst one
    exact ⟨whole.trans script.symm, iff_of_true here there⟩
  · rcases beyond with known | jobless
    · exact absurd known unknown
    · exact absurd same (jobless job member)
  · rcases left with known | jobless
    · exact absurd known unrecorded
    · exact absurd own (jobless twin found)
  · exact ⟨nothing.trans none.symm, iff_of_false unfinished missing⟩

end Team

namespace Ledger

variable {before : Tables} {did done : Trace} {crawl other : Crawl Tally}

theorem fetched_perm (first : Ledger before did crawl) (second : Ledger before done other)
    (same : did.Perm done) : crawl.journal.fetched.Perm other.journal.fetched := by
  rw [first.fetched, second.fetched]
  exact (same.map Prod.snd).filterMap _

theorem handed_perm (same : did.Perm done) :
    (Deed.handed did.deeds).Perm (Deed.handed done.deeds) := (same.map Prod.snd).filterMap _

theorem emitted_eq (first : Ledger before did crawl) (second : Ledger before done other)
    (same : did.Perm done) : crawl.desk.store.emitted = other.desk.store.emitted := by
  rw [first.emitted, second.emitted, (handed_perm same).length_eq]

theorem urls_iff (first : Ledger before did crawl) (second : Ledger before done other)
    (same : did.Perm done) (url : String) :
    url ∈ crawl.desk.store.urls ↔ url ∈ other.desk.store.urls := by
  unfold Tally.urls
  rw [first.pages, second.pages, Tables.upsertAll_eq, Tables.upsertAll_eq, Tables.mem_insertPages,
    Tables.mem_insertPages, (((handed_perm same).map Page.ofEntry).map Page.url).mem_iff]

theorem pages_perm (first : Ledger before did crawl) (second : Ledger before done other)
    (apart : did.Apart) (same : ∀ root, did.ofRoot root = done.ofRoot root) :
    crawl.desk.store.database.tables.pages.Perm other.desk.store.database.tables.pages := by
  rw [first.pages, second.pages, Tables.upsertAll_eq, Tables.upsertAll_eq]
  exact Tables.insertPages_perm (Trace.about_agree apart same)

end Ledger

namespace Coordinator

variable (coordinator : Coordinator)

def alone : Coordinator := { coordinator with workers := 1 }

theorem team_pos : 0 < coordinator.team := by
  unfold team
  omega

theorem muster_concerted (database : Database) (disk : Disk) (opened : database.isOpen = true) :
    (coordinator.muster (.start ⟨database, 0⟩ disk)).Concerted coordinator.setting disk
      database.tables coordinator.jobs [] where
  calm := by
    have polling : ∀ duty ∈ (coordinator.muster (.start ⟨database, 0⟩ disk)).duties,
        duty = .polling := fun duty member => List.eq_of_mem_replicate member
    refine ⟨fun duty member => ?_, fun duty member => ?_, .refl _ _, rfl, rfl, opened⟩
    · rw [polling duty member]
      rfl
    · rw [polling duty member]
      trivial
  ledger := ⟨rfl, rfl, rfl, fun text => (or_iff_left List.not_mem_nil).symm⟩
  status root := by
    refine .fresh (fun duty member => ?_) List.not_mem_nil List.not_mem_nil rfl
    rw [List.eq_of_mem_replicate member]
    rfl
  assigned := by
    refine ⟨?_, fun job member => member, fun job phase member => ?_,
      fun job member => Or.inl member, fun member => ?_⟩
    · intro none
      have length : coordinator.team = 0 := by
        simpa [muster, Team.gather] using none
      exact absurd length (Nat.ne_of_gt coordinator.team_pos)
    · cases List.eq_of_mem_replicate member
    · cases List.eq_of_mem_replicate member

theorem outcome_concerted {setting : Setting} {disk : Disk} {before : Tables} {jobs : List Job}
    {did : Trace} {team : Team Tally} (concerted : team.Concerted setting disk before jobs did) :
    coordinator.outcome team = .ok ⟨coordinator.jobs.length, coordinator.plans.length,
      team.crawl.desk.store.emitted, false⟩ := by
  unfold outcome summary
  rw [if_pos (Team.none_lost concerted.calm.unbroken), concerted.calm.going]

theorem plan_unique {config : Config} {setting : Setting} {coordinator : Coordinator}
    (planned : plan config setting = .ok coordinator) : coordinator.setting = setting ∧
      ∀ job ∈ coordinator.jobs, ∀ twin ∈ coordinator.jobs, job.root = twin.root → job = twin := by
  unfold plan at planned
  split at planned
  · cases planned
  · cases planned
    exact ⟨rfl, fun job member twin found => jobsOf_unique member found⟩

/-- Where every location always answers the same and nobody asks for a stop, every schedule of any
number of workers can be completed, and then the run has the result, the fetches, the resolved roots
and the URLs of a run with one worker, and its pages too, if no two sites announce the same one. -/
theorem schedules_agree {config : Config} {setting : Setting} {coordinator : Coordinator}
    (planned : plan config setting = .ok coordinator) (constant : setting.web.Constant)
    (calm : setting.web.Calm) (database : Database) (opened : database.isOpen = true) (disk : Disk)
    (ids : List Nat) :
    let start := coordinator.muster (.start ⟨database, 0⟩ disk)
    let team := start.steps setting ids
    let lone := coordinator.alone.run (.start ⟨database, 0⟩ disk)
    (∃ more, ∀ duty ∈ (team.steps setting more).duties, duty.isOver = true) ∧
      ((∀ duty ∈ team.duties, duty.isOver = true) →
        coordinator.outcome team = lone.1 ∧
        (∃ emitted, lone.1 =
          .ok ⟨coordinator.jobs.length, coordinator.plans.length, emitted, false⟩) ∧
        team.crawl.journal.fetched.Perm lone.2.journal.fetched ∧
        (∀ text, text ∈ team.crawl.desk.store.roots ↔ text ∈ lone.2.desk.store.roots) ∧
        (∀ url, url ∈ team.crawl.desk.store.urls ↔ url ∈ lone.2.desk.store.urls) ∧
        ((start.trace setting ids).Apart →
          team.crawl.desk.store.database.tables.pages.Perm
            lone.2.desk.store.database.tables.pages)) := by
  intro start team lone
  obtain ⟨rfl, unique⟩ := plan_unique planned
  obtain ⟨turns, ran, idle⟩ := coordinator.alone.run_steps (.start ⟨database, 0⟩ disk)
  refine ⟨?_, fun ended => ?_⟩
  · obtain ⟨more, completed⟩ := Team.runInTurn_steps coordinator.setting team
    exact ⟨more, completed ▸ Team.runInTurn_over coordinator.setting team⟩
  have many := (coordinator.muster_concerted database disk opened).steps constant calm ids
  have single := (coordinator.alone.muster_concerted database disk opened).steps constant calm turns
  rw [List.nil_append] at many single
  -- for each root the same was done, so that the traces differ in their order only
  have parts := fun root => (many.agree unique single ended idle root).1
  have same := Trace.perm_of_roots parts
  have emitted := many.ledger.emitted_eq single.ledger same
  have outcome := coordinator.outcome_concerted many
  have result := coordinator.alone.outcome_concerted single
  have first : lone.1 = .ok ⟨coordinator.jobs.length, coordinator.plans.length,
      team.crawl.desk.store.emitted, false⟩ := by
    rw [show lone = _ from ran, emitted]
    exact result
  refine ⟨outcome.trans first.symm, ⟨_, first⟩, ?_⟩
  rw [show lone = _ from ran]
  refine ⟨many.ledger.fetched_perm single.ledger same, fun text => ?_,
    many.ledger.urls_iff single.ledger same,
    fun apart => many.ledger.pages_perm single.ledger apart parts⟩
  have finished := (many.agree unique single ended idle ⟨text⟩).2
  exact ((many.ledger.roots text).trans (or_congr_right finished)).trans
    (single.ledger.roots text).symm

def neighbours : Config :=
  ⟨.default, ⟨"", "", "", ""⟩, ⟨2, true⟩, "",
    [⟨"http://[::1]/", ["http://[::1]/s.xml"]⟩, ⟨"http://[::1]/other", []⟩,
      ⟨"http://[::2]/", ["http://[::2]/s.xml"]⟩]⟩

def pair : Coordinator :=
  let plans : List RootPlan := [⟨⟨"http://[::1]"⟩, ["http://[::1]/s.xml"], true⟩,
    ⟨⟨"http://[::2]"⟩, ["http://[::2]/s.xml"], true⟩]
  ⟨⟨.ofTexts [("http://[::1]/s.xml", "<url><loc>http://[::1]/p</loc></url>"),
      ("http://[::2]/s.xml", "<url><loc>http://[::2]/q</loc></url>")],
    ⟨["tmp"], "tmp"⟩, neighbours.sitemap.scope, neighbours.sitemap.paths⟩,
    plans, jobsOf plans neighbours.seeds true, 2⟩

theorem schedules_agree_pair :
    let database := Database.create .memory
    let start := pair.muster (.start ⟨database, 0⟩ .empty)
    let ids := (List.replicate 26 [0, 1]).flatten
    let team := start.steps pair.setting ids
    let lone := pair.alone.run (.start ⟨database, 0⟩ .empty)
    plan neighbours pair.setting = .ok pair ∧ pair.setting.web.Constant ∧ pair.setting.web.Calm ∧
      database.isOpen = true ∧ (∀ duty ∈ team.duties, duty.isOver = true) ∧
      (start.trace pair.setting ids).Apart ∧ pair.outcome team = lone.1 ∧
      team.crawl.journal.fetched.Perm lone.2.journal.fetched ∧
      team.crawl.desk.store.database.tables.pages.Perm lone.2.desk.store.database.tables.pages := by
  have planned : plan neighbours pair.setting = .ok pair := rfl
  have constant : pair.setting.web.Constant := Web.ofTexts_constant _
  have calm : pair.setting.web.Calm := Web.ofTexts_calm _
  have ended : ∀ duty ∈ ((pair.muster (.start ⟨.create .memory, 0⟩ .empty)).steps pair.setting
      (List.replicate 26 [0, 1]).flatten).duties, duty.isOver = true := by decide +kernel
  have apart : ((pair.muster (.start ⟨.create .memory, 0⟩ .empty)).trace pair.setting
      (List.replicate 26 [0, 1]).flatten).Apart := by decide +kernel
  obtain ⟨-, agreed⟩ := schedules_agree planned constant calm (.create .memory) rfl .empty
    (List.replicate 26 [0, 1]).flatten
  obtain ⟨same, -, fetched, -, -, pages⟩ := agreed ended
  exact ⟨planned, constant, calm, rfl, ended, apart, same, fetched, pages apart⟩

end Coordinator

end Sitemaps
