import Mathlib.Data.List.Flatten
import Mathlib.Data.List.Perm.Subperm
import Sitemaps.Proofs.Course

/-!
What the declarations of a site add to a job. A job that nothing disturbs carries out its script, a
search from the locations to try; with more of them it fetches no less and hands over no less, in
whatever order. Where nothing can be read that the site declares, nothing changes.
-/

namespace Sitemaps

open Sitemap

theorem Reach.mono {candidates others : List String} {leads : String → String → Prop}
    (more : candidates ⊆ others) {location : String} (reach : Reach candidates leads location) :
    Reach others leads location := by
  induction reach with
  | candidate member => exact .candidate (more member)
  | child _ leads ih => exact .child ih leads

/-- The deeds of a whole search: it attempts what can be reached from its candidates, each location
once, and hands over all that those announce. -/
structure Explores (announces : String → List Finding) (candidates : List String)
    (deeds : List Deed) : Prop where
  distinct : (Deed.attempted deeds).Nodup
  reached : ∀ location, location ∈ Deed.attempted deeds ↔
    Reach candidates (fun parent child => child ∈ childrenOf (announces parent)) location
  handed : (Deed.handed deeds).Perm
    ((Deed.attempted deeds).flatMap fun location => entriesOf (announces location))

/-- A search from more candidates misses nothing of a search from fewer. -/
theorem Explores.mono {announces : String → List Finding} {candidates others : List String}
    {deeds more : List Deed} (few : Explores announces candidates deeds)
    (many : Explores announces others more) (included : candidates ⊆ others) :
    Deed.attempted deeds ⊆ Deed.attempted more ∧
      (Deed.handed deeds).Subperm (Deed.handed more) := by
  have attempts : Deed.attempted deeds ⊆ Deed.attempted more := fun location attempted =>
    (many.reached location).mpr (((few.reached location).mp attempted).mono included)
  -- Both orders of attempts are arbitrary, so the smaller search is compared as a part in an order
  -- of its own.
  obtain ⟨part, same, within⟩ := List.subperm_of_subset few.distinct attempts
  refine ⟨attempts, ?_⟩
  have fewer : (Deed.handed deeds).Perm
      (part.flatMap fun location => entriesOf (announces location)) :=
    few.handed.trans (same.symm.flatMap_right _)
  have within := (within.flatMap fun location => entriesOf (announces location)).subperm
  exact (fewer.subperm.trans within).trans many.handed.symm.subperm

namespace Agenda

variable {agenda after : Agenda} {announces : String → List Finding} {deeds done : List Deed}
  {location : String} {listed : List Finding}

theorem next_none (finished : agenda.next announces = none) :
    agenda.fetching = none ∧ agenda.ahead = [] ∧ agenda.candidates = [] := by
  unfold next at finished
  split at finished
  · cases finished
  · cases finished
  · cases finished
  · cases finished
  · cases finished
  · rename_i idle ahead candidates
    exact ⟨idle, ahead, candidates⟩

theorem next_attempt
    (stepped : agenda.next announces = some (some (.attempt location listed), after)) :
    agenda.fetching = some location ∧ listed = announces location := by
  unfold next at stepped
  split at stepped
  · rename_i fetching
    cases stepped
    exact ⟨fetching, rfl⟩
  · cases stepped
  · cases stepped
  · cases stepped
  · cases stepped
  · cases stepped

theorem Remains.settles {candidates : List String} (remains : agenda.Remains announces deeds)
    (covers : agenda.Covers candidates done) : Deed.Settles candidates (done ++ deeds) := by
  induction remains generalizing done with
  | ended finished =>
    obtain ⟨idle, ahead, tried⟩ := next_none finished
    rw [List.append_nil]
    exact covers.settles idle tried ahead
  | step stepped _ ih =>
    rw [← List.append_assoc]
    exact ih (covers.step (next_step stepped))

theorem Remains.found (remains : agenda.Remains announces deeds)
    (attempts : .attempt location listed ∈ deeds) : listed = announces location := by
  induction remains with
  | ended finished => cases attempts
  | step stepped _ ih =>
    rcases List.mem_append.mp attempts with now | later
    · rw [Option.mem_toList] at now
      subst now
      exact (next_attempt stepped).2
    · exact ih later

theorem Remains.within {known : String → Prop} (remains : agenda.Remains announces deeds)
    (due : ∀ location, agenda.Due location → known location)
    (closed : ∀ parent child, known parent → .child child ∈ announces parent → known child)
    (attempted : location ∈ Deed.attempted deeds) : known location := by
  induction remains with
  | ended finished => cases attempted
  | @step agenda after deed rest stepped _ ih =>
    have new : ∀ location found, deed = some (.attempt location found) →
        known location ∧ found = announces location := by
      rintro location found rfl
      obtain ⟨fetching, same⟩ := next_attempt stepped
      exact ⟨due location (Or.inr (Or.inl fetching)), same⟩
    rw [Deed.attempted_append, List.mem_append] at attempted
    rcases attempted with now | later
    · obtain ⟨other, member, same⟩ := List.mem_filterMap.mp now
      cases other with
      | hand entry => cases same
      | attempt other found =>
        cases same
        exact (new location found (Option.mem_toList.mp member)).1
    · apply ih ((next_step stepped).within due ?_) later
      intro child announced
      obtain ⟨other, member, listed⟩ := List.mem_flatMap.mp announced
      cases other with
      | hand entry => cases listed
      | attempt parent found =>
        obtain ⟨reached, rfl⟩ := new parent found (Option.mem_toList.mp member)
        exact closed parent child reached listed

theorem Remains.explores {candidates : List String}
    (remains : Remains announces ⟨candidates, [], none, []⟩ deeds) :
    Explores announces candidates deeds := by
  have found : ∀ location found, .attempt location found ∈ deeds → found = announces location :=
    fun _ _ => remains.found
  have settles : Deed.Settles candidates ([] ++ deeds) := remains.settles (.start candidates)
  rw [List.nil_append] at settles
  refine ⟨settles.distinct, fun location => ⟨fun attempted => ?_, settles.reach found⟩, ?_⟩
  · refine remains.within ?_ ?_ attempted
    · rintro location (visited | fetching | candidate | ahead)
      · cases visited
      · cases fetching
      · exact .candidate candidate
      · cases ahead
    · exact fun parent child reached announced => .child reached (mem_childrenOf.mpr announced)
  · rw [← Deed.announced_flatMap found]
    exact settles.entries

end Agenda

namespace Job

variable {σ : Type} [RootStore σ] [Sink σ] {job : Job} {setting : Setting} {before crawl : Crawl σ}
  {phase : Phase} {done : List Deed}

theorem step_hands (sound : setting.web.Sound) (steady : Sink.Steady crawl.desk.store) :
    (job.step setting phase crawl).2.journal.accepted =
      crawl.journal.accepted ++ Deed.handed (job.deeds setting phase crawl) := by
  cases phase with
  | asking =>
    simp only [step]
    split <;> simp [deeds, Deed.handed, Journal.accepted_note]
  | entering =>
    simp only [step, Crawl.enter]
    split <;> simp [deeds, Deed.handed, Crawl.log, Journal.accepted_cons]
  | gathering =>
    obtain ⟨notices, gathered⟩ := gather_note job setting crawl
    simp only [step, gathered, deeds, opening_handed, Crawl.note_journal, Journal.accepted_note,
      List.append_nil]
    split
    · exact Crawl.request_accepted crawl setting.web _
    · rfl
  | walking walk =>
    simp only [step, deeds]
    split
    · rename_i after later turn
      exact (Walk.step_journal turn).2
    · rename_i visited later turn
      obtain ⟨rfl, idle, frames, -⟩ := Walk.step_ending turn
      simp [Walk.deed?, idle, frames, Deed.handed]
    · rename_i later turn
      exact absurd turn (Walk.step_sound sound steady)
  | closing visited =>
    simp only [step]
    split <;> simp [deeds, Deed.handed, Crawl.info, Journal.accepted_note]
  | finishing visited =>
    simp [step, deeds, Deed.handed, Crawl.finish, Crawl.info, Crawl.log, Journal.accepted_cons]
  | dropping panics =>
    simp [step, deeds, Deed.handed, Crawl.drop, Crawl.log, Journal.accepted_cons]
  | done => exact (List.append_nil _).symm
  | panicked => exact (List.append_nil _).symm

theorem step_steady (calm : setting.web.Calm) (steady : Sink.Steady crawl.desk.store)
    (more : (job.step setting phase crawl).1.isOver = false) :
    Sink.Steady (job.step setting phase crawl).2.desk.store := by
  cases phase with
  | asking =>
    simp only [step]
    split <;> exact steady
  | entering =>
    simp only [step, Crawl.enter_store]
    exact steady
  | gathering =>
    obtain ⟨notices, gathered⟩ := gather_note job setting crawl
    simp only [step, gathered, Crawl.note_desk, Crawl.request_calm calm]
    split <;> exact steady
  | walking walk =>
    have taken := (Walk.step_steady walk calm steady).2
    simp only [step]
    split
    · rename_i after later turn
      rwa [turn] at taken
    · rename_i visited later turn
      rwa [turn] at taken
    · rename_i later turn
      rwa [turn] at taken
  | closing visited =>
    simp only [step]
    split <;> exact steady
  | finishing visited => cases more
  | dropping panics => cases panics <;> cases more
  | done => cases more
  | panicked => cases more

/-- A job that nothing disturbed so far, with what it has done of its script. -/
structure Unmoved (job : Job) (setting : Setting) (before : Crawl σ) (done : List Deed)
    (phase : Phase) (crawl : Crawl σ) : Prop where
  stage : job.Stage setting before.disk done phase
  going : crawl.stopped = false
  steady : phase.isOver = false → Sink.Steady crawl.desk.store
  alike : before.disk.Alike setting.staging.place crawl.disk
  placed : phase.Placed setting.staging.place
  fetched : crawl.journal.fetched = before.journal.fetched ++ Deed.attempted done
  accepted : crawl.journal.accepted = before.journal.accepted ++ Deed.handed done
  resolved : phase = .done → (crawl.desk.state job.root).1 = .resolved

theorem Unmoved.step (constant : setting.web.Constant) (calm : setting.web.Calm)
    (unmoved : job.Unmoved setting before done phase crawl) (more : phase.isOver = false) :
    job.Unmoved setting before (done ++ job.deeds setting phase crawl)
      (job.step setting phase crawl).1 (job.step setting phase crawl).2 := by
  obtain ⟨stage, going, steady, alike, placed, fetched, accepted, -⟩ := unmoved
  replace steady := steady more
  obtain ⟨further, inside⟩ := job.step_alike crawl placed
  have next := stage.step constant calm.sound steady alike going
  refine ⟨next, (step_going calm steady).trans going, step_steady calm steady,
    alike.trans further, inside, ?_, ?_, fun ended => ?_⟩
  · rw [step_fetches calm.sound steady, fetched, Deed.attempted_append, List.append_assoc]
  · rw [step_hands calm.sound steady, accepted, Deed.handed_append, List.append_assoc]
  · by_cases quiet : phase.turnsClaim = false
    · have unbroken : (job.step setting phase crawl).1 ≠ .dropping true := by
        intro broken
        rw [broken] at next
        exact next
      rw [(step_isOut job setting crawl quiet going unbroken).2.2 ended] at more
      cases more
    -- An undisturbed job turns its claim only where it finishes its root.
    · cases phase with
      | finishing visited => exact Crawl.finish_state crawl job.root
      | entering => exact stage.elim
      | dropping panics => exact stage.elim
      | _ => exact absurd rfl quiet

theorem Unmoved.start (sound : setting.web.Sound) (steady : Sink.Steady crawl.desk.store)
    (going : crawl.stopped = false) (unresolved : (crawl.desk.state job.root).1 = .unresolved) :
    job.Unmoved setting crawl [] (job.after setting crawl 2).1 (job.after setting crawl 2).2 := by
  have granted := crawl.enter_granted going unresolved
  have second : job.after setting crawl 2 = (.gathering, (crawl.enter job.root).2) := by
    simp [after, Job.step, going, granted]
  have fetched : (job.step setting .entering crawl).2.journal.fetched =
      crawl.journal.fetched ++ Deed.attempted [] := step_fetches sound steady
  have accepted : (job.step setting .entering crawl).2.journal.accepted =
      crawl.journal.accepted ++ Deed.handed [] := step_hands sound steady
  rw [second]
  exact
    { stage := rfl
      going := (Crawl.enter_stopped crawl job.root).trans going
      steady := fun _ => by rwa [Crawl.enter_store]
      alike := by
        rw [(Crawl.enter_rest crawl job.root).2]
        exact .refl _ _
      placed := trivial
      fetched := fetched
      accepted := accepted
      resolved := fun ended => by cases ended }

theorem Stage.whole {disk : Disk} (stage : job.Stage setting disk done phase)
    (ended : phase.isOver = true) : phase = .done ∧ done = job.script setting disk := by
  cases phase with
  | done => exact ⟨rfl, stage⟩
  | panicked => exact stage.elim
  | _ => cases ended

theorem run_script (job : Job) (constant : setting.web.Constant) (calm : setting.web.Calm)
    (steady : Sink.Steady crawl.desk.store) (going : crawl.stopped = false)
    (unresolved : (crawl.desk.state job.root).1 = .unresolved) :
    let last := job.run setting crawl
    let script := job.script setting crawl.disk
    last.1.isDone = true ∧ (last.2.desk.state job.root).1 = .resolved ∧
      last.2.journal.fetched = crawl.journal.fetched ++ Deed.attempted script ∧
      last.2.journal.accepted = crawl.journal.accepted ++ Deed.handed script := by
  have kept : ∀ phase later, (∃ done, job.Unmoved setting crawl done phase later) →
      ∃ done, job.Unmoved setting crawl done (job.step setting phase later).1
        (job.step setting phase later).2 := by
    rintro phase later ⟨done, unmoved⟩
    by_cases more : phase.isOver = false
    · exact ⟨_, unmoved.step constant calm more⟩
    · rw [step_over job setting (by simpa using more)]
      exact ⟨done, unmoved⟩
  obtain ⟨⟨done, unmoved⟩, ended⟩ := run_keeps job setting
    (fun phase later => ∃ done, job.Unmoved setting crawl done phase later) kept crawl 2
    ⟨[], Unmoved.start calm.sound steady going unresolved⟩
  obtain ⟨finished, rfl⟩ := unmoved.stage.whole ended
  refine ⟨?_, unmoved.resolved finished, unmoved.fetched, unmoved.accepted⟩
  rw [finished]
  rfl

/-- The script is a whole search, after what is fetched before. -/
theorem script_explores (job : Job) (setting : Setting) (disk : Disk) :
    ∃ rest, job.script setting disk = job.opening ++ rest ∧
      Explores (setting.told disk) (job.locations setting (job.explicit setting.web)) rest := by
  obtain ⟨rest, whole, remains⟩ := job.script_remains setting disk
  exact ⟨rest, whole, remains.explores⟩

end Job

namespace Robots

/-- An answer from which nothing is read that the site declares. -/
inductive Unread : Except FetchFault Response → Prop
  | unfetched (fault : FetchFault) : Unread (.error fault)
  | refused {response : Response} (status : response.status ≠ 200) : Unread (.ok response)
  | broken {response : Response} {reason : String} (broken : response.broken = some reason) :
      Unread (.ok response)
  | garbled {response : Response} (garbled : Text.Utf8.decode? response.body = none) :
      Unread (.ok response)

theorem Unread.nothing {result : Except FetchFault Response} (unread : Unread result)
    (root : Root) : (readAnswer root result).1 = [] := by
  cases unread with
  | unfetched fault => rfl
  | refused status => simp [readAnswer, Response.isOk, status]
  | broken broken =>
    simp only [readAnswer, readBody, broken]
    split <;> rfl
  | @garbled response garbled =>
    simp only [readAnswer, readBody, garbled]
    split
    · cases response.broken <;> rfl
    · rfl

end Robots

namespace RootPlan

variable {plan : RootPlan}

theorem opening_reading (probed : plan.startOnly = false) :
    (plan.job true).opening = [.attempt (Robots.location plan.root) []] := by
  simp [Job.opening, job, probed]

theorem opening_plain (plan : RootPlan) : (plan.job false).opening = [] := by
  simp [Job.opening, job]

theorem locations_subset (probed : plan.startOnly = false) (setting : Setting) :
    (plan.job false).locations setting ((plan.job false).explicit setting.web) ⊆
      (plan.job true).locations setting ((plan.job true).explicit setting.web) := by
  intro location member
  simp only [Job.locations, Job.explicit, job, probed, mem_candidates, mem_spelledOut] at member ⊢
  refine member.imp_left ?_
  rintro ⟨filled, text, listed, trimmed⟩
  exact ⟨filled, text, List.mem_append_left _ (by simpa using listed), trimmed⟩

theorem script_unread (probed : plan.startOnly = false) {setting : Setting}
    (unread : Robots.Unread (setting.web.answer (Robots.location plan.root) 0).result)
    (disk : Disk) : (plan.job true).script setting disk =
      .attempt (Robots.location plan.root) [] :: (plan.job false).script setting disk := by
  have same : (plan.job true).explicit setting.web = (plan.job false).explicit setting.web := by
    simp [Job.explicit, job, probed, unread.nothing plan.root]
  unfold Job.script
  rw [same, opening_reading probed, opening_plain]
  rfl

/-- Reading what a site declares can only add. In a constant web that brings no stop and no panic,
an unresolved root without given locations is resolved in either way; whatever comes for the robots
file, reading it loses no location and no entry, and where nothing is read, nothing else changes. -/
theorem declarations_add {σ : Type} [RootStore σ] [Sink σ] (plan : RootPlan) (setting : Setting)
    (crawl : Crawl σ) (probed : plan.startOnly = false) (constant : setting.web.Constant)
    (calm : setting.web.Calm) (steady : Sink.Steady crawl.desk.store)
    (going : crawl.stopped = false)
    (unresolved : (crawl.desk.state plan.root).1 = .unresolved) :
    let plain := (plan.job false).run setting crawl
    let reading := (plan.job true).run setting crawl
    ∃ fetched entries more others,
      plain.2.journal.fetched = crawl.journal.fetched ++ fetched ∧
      plain.2.journal.accepted = crawl.journal.accepted ++ entries ∧
      reading.2.journal.fetched =
        crawl.journal.fetched ++ Robots.location plan.root :: more ∧
      reading.2.journal.accepted = crawl.journal.accepted ++ others ∧
      fetched ⊆ more ∧ entries.Subperm others ∧
      plain.1.isDone = true ∧ (plain.2.desk.state plan.root).1 = .resolved ∧
      reading.1.isDone = true ∧ (reading.2.desk.state plan.root).1 = .resolved ∧
      (Robots.Unread (setting.web.answer (Robots.location plan.root) 0).result →
        more = fetched ∧ others = entries) := by
  intro plain reading
  obtain ⟨plainEnds, plainResolved, fetched, accepted⟩ :=
    (plan.job false).run_script constant calm steady going unresolved
  obtain ⟨readingEnds, readingResolved, also, others⟩ :=
    (plan.job true).run_script constant calm steady going unresolved
  obtain ⟨few, plainScript, fewer⟩ := (plan.job false).script_explores setting crawl.disk
  obtain ⟨many, readingScript, larger⟩ := (plan.job true).script_explores setting crawl.disk
  rw [opening_plain, List.nil_append] at plainScript
  rw [opening_reading probed, List.singleton_append] at readingScript
  rw [plainScript] at fetched accepted
  rw [readingScript] at also others
  obtain ⟨locations, entries⟩ := fewer.mono larger (locations_subset probed setting)
  refine ⟨Deed.attempted few, Deed.handed few, Deed.attempted many, Deed.handed many, fetched,
    accepted, also, others, locations, entries, plainEnds, plainResolved, readingEnds,
    readingResolved, fun unread => ?_⟩
  have scripts := script_unread probed unread crawl.disk
  rw [readingScript, plainScript] at scripts
  rw [(List.cons.inj scripts).2]
  exact ⟨rfl, rfl⟩

def signpost : Setting :=
  { Setting.ofTexts [("http://[::1]/robots.txt", "Sitemap: /b"),
      ("http://[::1]/b", "<sitemap><loc>http://[::1]/c</loc></sitemap>"),
      ("http://[::1]/c", "<url><loc>http://[::1]/p</loc></url>")] with paths := ["c"] }

def signless : Setting :=
  { Setting.ofTexts [("http://[::1]/c", "<url><loc>http://[::1]/p</loc></url>")] with
    paths := ["c"] }

theorem declarations_add_signpost :
    let plan : RootPlan := ⟨⟨"http://[::1]"⟩, [], false⟩
    let crawl : Crawl (Listener MemoryStore) := .start ⟨⟨[], false⟩, 0, none, none⟩ .empty
    plan.startOnly = false ∧ signpost.web.Constant ∧ signpost.web.Calm ∧
      signless.web.Constant ∧ signless.web.Calm ∧
      Sink.Steady crawl.desk.store ∧ crawl.stopped = false ∧
      (crawl.desk.state plan.root).1 = .unresolved ∧
      ((plan.job false).run signpost crawl).2.journal.fetched = ["http://[::1]/c"] ∧
      ((plan.job true).run signpost crawl).2.journal.fetched =
        ["http://[::1]/robots.txt", "http://[::1]/b", "http://[::1]/c"] ∧
      ["http://[::1]/c"] ⊆ ["http://[::1]/b", "http://[::1]/c"] ∧
      ((plan.job true).run signless crawl).2.journal.fetched =
        "http://[::1]/robots.txt" :: ((plan.job false).run signless crawl).2.journal.fetched := by
  intro plan crawl
  have unresolved : (crawl.desk.state plan.root).1 = .unresolved := by decide +kernel
  have steady : Sink.Steady crawl.desk.store := Listener.steady _ 0
  obtain ⟨fetched, entries, more, others, one, -, two, -, included, -⟩ :=
    declarations_add plan signpost crawl rfl (Web.ofTexts_constant _) (Web.ofTexts_calm _) steady
      rfl unresolved
  obtain ⟨known, pages, same, others', plain, -, reading, -, -, -, -, -, -, -, nothing⟩ :=
    declarations_add plan signless crawl rfl (Web.ofTexts_constant _) (Web.ofTexts_calm _) steady
      rfl unresolved
  have first : (plan.job false).run signpost crawl = (plan.job false).after signpost crawl 30 :=
    Job.run_after _ _ (by decide +kernel)
  have second : (plan.job true).run signpost crawl = (plan.job true).after signpost crawl 30 :=
    Job.run_after _ _ (by decide +kernel)
  have alone : ((plan.job false).run signpost crawl).2.journal.fetched = ["http://[::1]/c"] := by
    rw [first]
    decide +kernel
  have signs : ((plan.job true).run signpost crawl).2.journal.fetched =
      ["http://[::1]/robots.txt", "http://[::1]/b", "http://[::1]/c"] := by
    rw [second]
    decide +kernel
  refine ⟨rfl, Web.ofTexts_constant _, Web.ofTexts_calm _, Web.ofTexts_constant _,
    Web.ofTexts_calm _, steady, rfl, unresolved, alone, signs, ?_, ?_⟩
  · have few : fetched = ["http://[::1]/c"] := one.symm.trans alone
    have many : more = ["http://[::1]/b", "http://[::1]/c"] :=
      (List.cons.inj (two.symm.trans signs)).2
    rwa [few, many] at included
  · rw [reading, plain, (nothing (.refused (by decide))).1]
    rfl

end RootPlan

end Sitemaps
