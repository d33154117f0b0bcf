import Sitemaps.Proofs.Growth

/-!
Why a recorded root is complete. A worker is followed along the run: until someone requests a stop,
what it did since it set out covers all that its walk could reach, and it comes to mark its root
only if nobody did.
-/

namespace Sitemaps

/-- What a worker does for its root. -/
inductive Passage
  | setOut (job : Job) (explicit : List String)
  | deed (deed : Deed)

theorem Journal.fetched_suffix {before after : Journal} (grows : before <:+ after) :
    before.fetched.Sublist after.fetched :=
  grows.sublist.reverse.filterMap _

theorem Journal.accepted_suffix {before after : Journal} (grows : before <:+ after) :
    before.accepted.Sublist after.accepted :=
  grows.sublist.reverse.filterMap _

/-- The deeds stand in the journal, and what was handed over is in the database unless that was
closed. -/
structure Deed.Kept (deeds : List Deed) (crawl : Crawl Tally) : Prop where
  fetched : (Deed.attempted deeds).Sublist crawl.journal.fetched
  accepted : (Deed.handed deeds).Sublist crawl.journal.accepted
  stored : crawl.desk.store.database.isOpen = true →
    ∀ entry ∈ Deed.handed deeds, entry.reference ∈ crawl.desk.store.urls

namespace Deed.Kept

variable {deeds : List Deed} {crawl later : Crawl Tally}

theorem start (crawl : Crawl Tally) : Deed.Kept [] crawl :=
  ⟨List.nil_sublist _, List.nil_sublist _, fun _ _ member => nomatch member⟩

theorem grows (kept : Deed.Kept deeds crawl) (grows : crawl.Grows later) :
    Deed.Kept deeds later where
  fetched := kept.fetched.trans (Journal.fetched_suffix grows.journal)
  accepted := kept.accepted.trans (Journal.accepted_suffix grows.journal)
  stored opened entry member := grows.urls _ (kept.stored (grows.isOpen opened) entry member)

theorem step {walk after : Walk} {setting : Setting} (kept : Deed.Kept deeds crawl)
    (turn : walk.step setting crawl = .onward after later) :
    Deed.Kept (deeds ++ (walk.deed? setting crawl).toList) later := by
  have grown : crawl.Grows later := by
    have drift := Walk.step_drift walk setting crawl
    rw [turn] at drift
    exact drift.grows
  obtain ⟨fetched, accepted⟩ := Walk.step_journal turn
  refine ⟨?_, ?_, ?_⟩
  · rw [Deed.attempted_append, fetched]
    exact kept.fetched.append (List.Sublist.refl _)
  · rw [Deed.handed_append, accepted]
    exact kept.accepted.append (List.Sublist.refl _)
  · intro opened entry member
    rw [Deed.handed_append, List.mem_append] at member
    rcases member with before | now
    · exact (kept.grows grown).stored opened entry before
    · have hands : walk.deed? setting crawl = some (.hand entry) := by
        cases found : walk.deed? setting crawl with
        | none =>
          rw [found] at now
          cases now
        | some deed =>
          simp only [found, Deed.handed, Option.toList_some, List.mem_filterMap,
            List.mem_singleton] at now
          obtain ⟨done, rfl, same⟩ := now
          cases done with
          | attempt location found => cases same
          | hand other =>
            cases same
            rfl
      exact Crawl.accept_stored (Walk.step_accepts turn hands) (grown.isOpen opened)

end Deed.Kept

namespace Job

variable (job : Job) (setting : Setting)

/-- What the next step does for the root. -/
def passage? {σ : Type} [RootStore σ] (phase : Phase) (crawl : Crawl σ) : Option Passage :=
  match phase with
  | .gathering => (job.explicit? setting crawl).map (.setOut job)
  | .walking walk => (walk.deed? setting crawl).map .deed
  | _ => none

def Underway (history : List Passage) (crawl : Crawl Tally)
    (so : List String → List Deed → Prop) : Prop :=
  ∃ explicit past deeds, history = past ++ .setOut job explicit :: deeds.map .deed ∧
    Deed.Kept deeds crawl ∧ so (job.locations setting explicit) deeds

def Tracked (history : List Passage) (crawl : Crawl Tally) : Phase → Prop
  | .walking walk => job.Underway setting history crawl fun candidates deeds =>
      crawl.stopped = true ∨ walk.agenda.Covers candidates deeds
  | .closing _ => job.Underway setting history crawl fun candidates deeds =>
      crawl.stopped = true ∨ Deed.Settles candidates deeds
  | .finishing _ => job.Underway setting history crawl Deed.Settles
  | _ => True

variable {job setting} {history : List Passage} {crawl later : Crawl Tally} {phase : Phase}

theorem Underway.imp {before after : List String → List Deed → Prop}
    (underway : job.Underway setting history crawl before) (grows : crawl.Grows later)
    (so : ∀ candidates deeds, before candidates deeds → after candidates deeds) :
    job.Underway setting history later after := by
  obtain ⟨explicit, past, deeds, came, kept, held⟩ := underway
  exact ⟨explicit, past, deeds, came, kept.grows grows, so _ _ held⟩

theorem Tracked.grows (tracked : job.Tracked setting history crawl phase)
    (grows : crawl.Grows later) : job.Tracked setting history later phase := by
  unfold Tracked at tracked ⊢
  cases phase with
  | walking walk => exact tracked.imp grows fun _ _ => Or.imp_left grows.stopped
  | closing visited => exact tracked.imp grows fun _ _ => Or.imp_left grows.stopped
  | finishing visited => exact tracked.imp grows fun _ _ => id
  | _ => trivial

theorem gather_tracked (history : List Passage) (crawl : Crawl Tally) :
    job.Tracked setting (history ++ (job.passage? setting .gathering crawl).toList)
      (job.gather setting crawl).2 (job.gather setting crawl).1 := by
  rw [gather_phase]
  unfold passage?
  cases job.explicit? setting crawl with
  | none => trivial
  | some explicit =>
    exact ⟨explicit, history, [], rfl, .start _, Or.inr (Agenda.Covers.start _)⟩

theorem walk_tracked {walk after : Walk} (turn : walk.step setting crawl = .onward after later)
    (tracked : job.Tracked setting history crawl (.walking walk)) :
    job.Tracked setting (history ++ (job.passage? setting (.walking walk) crawl).toList) later
      (.walking after) := by
  obtain ⟨explicit, past, deeds, came, kept, covers⟩ := tracked
  refine ⟨explicit, past, deeds ++ (walk.deed? setting crawl).toList, ?_, kept.step turn, ?_⟩
  · rw [came, List.map_append, List.append_assoc, List.cons_append]
    simp only [passage?]
    cases walk.deed? setting crawl <;> rfl
  · by_cases stopped : crawl.stopped = true
    · have drift := Walk.step_drift walk setting crawl
      rw [turn] at drift
      exact Or.inl (drift.stopped stopped)
    · rcases covers with stop | covers
      · exact absurd stop stopped
      · exact Or.inr (covers.step (Walk.step_agenda turn (Bool.eq_false_iff.mpr stopped)))

theorem ending_tracked {walk : Walk} {visited : List String}
    (turn : walk.step setting crawl = .finished visited later)
    (tracked : job.Tracked setting history crawl (.walking walk)) :
    job.Tracked setting (history ++ (job.passage? setting (.walking walk) crawl).toList) later
      (.closing visited) := by
  obtain ⟨rfl, idle, frames, -⟩ := Walk.step_ending turn
  have silent : walk.deed? setting later = none := by simp [Walk.deed?, idle, frames]
  simp only [passage?, silent, Option.map_none, Option.toList_none, List.append_nil]
  unfold Tracked at tracked ⊢
  exact tracked.imp (Crawl.Drift.refl _).grows fun _ _ => Or.imp_right (Walk.ending_settles turn)

theorem Tracked.step (tracked : job.Tracked setting history crawl phase) :
    job.Tracked setting (history ++ (job.passage? setting phase crawl).toList)
      (job.step setting phase crawl).2 (job.step setting phase crawl).1 := by
  cases phase with
  | asking =>
    simp only [step]
    split <;> trivial
  | entering =>
    simp only [step]
    split <;> trivial
  | gathering => exact gather_tracked history crawl
  | walking walk =>
    simp only [step]
    split
    · rename_i after later turn
      exact walk_tracked turn tracked
    · rename_i visited later turn
      exact ending_tracked turn tracked
    · trivial
  | closing visited =>
    simp only [passage?, Option.toList_none, List.append_nil, step]
    by_cases stopped : crawl.stopped = true
    · rw [if_pos stopped]
      trivial
    · rw [if_neg stopped]
      unfold Tracked at tracked ⊢
      exact tracked.imp (Crawl.Drift.refl _).grows fun _ _ settles => settles.resolve_left stopped
  | finishing visited => trivial
  | dropping panics => cases panics <;> trivial
  | done => trivial
  | panicked => trivial

end Job

namespace Shift

variable {σ : Type} [RootStore σ] [Sink σ]

theorem step_cases (setting : Setting) (id : Nat) (shift : Shift σ) :
    (∃ job phase, shift.duty = .resolving job phase ∧ shift.step setting id =
      ⟨.resolving job (job.step setting phase shift.crawl).1, shift.queue,
        (job.step setting phase shift.crawl).2⟩) ∨
    (∃ job queue, shift.queue = job :: queue ∧
      shift.step setting id = ⟨.resolving job .asking, queue, shift.crawl⟩) ∨
    ∃ notices, (∀ job phase, (shift.step setting id).duty ≠ .resolving job phase) ∧
      (shift.step setting id).queue = shift.queue ∧
      (shift.step setting id).crawl = shift.crawl.note notices := by
  have outcome := step_outcome setting id shift
  generalize shift.step setting id = after at outcome
  cases outcome with
  | worked resolving more => exact Or.inl ⟨_, _, resolving, rfl⟩
  | took picking waiting => exact Or.inr (Or.inl ⟨_, _, waiting, rfl⟩)
  | retired notices polling stopped => exact Or.inr (Or.inr ⟨notices, nofun, rfl, rfl⟩)
  | looked polling going => exact Or.inr (Or.inr ⟨[], nofun, rfl, rfl⟩)
  | spent picking none => exact Or.inr (Or.inr ⟨[], nofun, rfl, rfl⟩)
  | returned resolving => exact Or.inr (Or.inr ⟨[], nofun, rfl, rfl⟩)
  | broke resolving => exact Or.inr (Or.inr ⟨[], nofun, rfl, rfl⟩)
  | rested ended =>
    refine Or.inr (Or.inr ⟨[], ?_, rfl, rfl⟩)
    intro job phase resolving
    rw [resolving] at ended
    cases ended

end Shift

namespace Team

section History

variable {σ : Type} [RootStore σ] [Sink σ]

def passage? (setting : Setting) (id : Nat) (moment : Moment) (team : Team σ) : Option Passage :=
  if moment = .act id then
    match team.duties[id]? with
    | some (.resolving job phase) => job.passage? setting phase team.crawl
    | _ => none
  else none

/-- What one worker does for its roots in the course of a run. -/
def history (setting : Setting) (id : Nat) : List Moment → Team σ → List Passage
  | [], _ => []
  | moment :: moments, team =>
    (team.passage? setting id moment).toList ++
      history setting id moments (team.move setting moment)

end History

structure Tracked (setting : Setting) (jobs : List Job) (history : Nat → List Passage)
    (team : Team Tally) : Prop where
  queue : ∀ job ∈ team.queue, job ∈ jobs
  duties : ∀ (id : Nat) (job : Job) (phase : Phase),
    team.duties[id]? = some (.resolving job phase) →
      job ∈ jobs ∧ job.Tracked setting (history id) team.crawl phase

variable {setting : Setting} {jobs : List Job} {history : Nat → List Passage} {team : Team Tally}

theorem gather_tracked (workers : Nat) (jobs : List Job) (crawl : Crawl Tally) :
    (gather workers jobs crawl).Tracked setting jobs fun _ => [] := by
  refine ⟨fun _ => id, ?_⟩
  intro id job phase found
  have member := List.mem_of_getElem? found
  cases List.eq_of_mem_replicate member

theorem Tracked.drift {crawl : Crawl Tally} (tracked : team.Tracked setting jobs history)
    (drift : team.crawl.Drift crawl) :
    ({ team with crawl := crawl } : Team Tally).Tracked setting jobs history where
  queue := tracked.queue
  duties id job phase found :=
    (tracked.duties id job phase found).imp_right fun before => before.grows drift.grows

theorem Tracked.shift {id : Nat} {shift : Shift Tally} {did : Option Passage}
    (tracked : team.Tracked setting jobs history) (grows : team.crawl.Grows shift.crawl)
    (queue : ∀ job ∈ shift.queue, job ∈ jobs)
    (own : ∀ job phase, shift.duty = .resolving job phase →
      job ∈ jobs ∧ job.Tracked setting (history id ++ did.toList) shift.crawl phase) :
    (⟨team.duties.set id shift.duty, shift.queue, shift.crawl⟩ : Team Tally).Tracked setting jobs
      fun other => history other ++ if other = id then did.toList else [] where
  queue := queue
  duties other job phase found := by
    rcases set_found found with ⟨rfl, same⟩ | ⟨apart, before⟩
    · rw [if_pos rfl]
      exact own job phase same.symm
    · rw [if_neg apart, List.append_nil]
      exact (tracked.duties other job phase before).imp_right fun before => before.grows grows

theorem step_tracked (id : Nat) (tracked : team.Tracked setting jobs history) :
    (team.step setting id).Tracked setting jobs fun other =>
      history other ++ (team.passage? setting other (.act id)).toList := by
  have others : (fun other => history other ++ (team.passage? setting other (.act id)).toList) =
      fun other => history other ++
        if other = id then (team.passage? setting id (.act id)).toList else [] := by
    funext other
    by_cases same : other = id
    · rw [if_pos same, same]
    · have apart : Moment.act id ≠ .act other := fun acts => same (Moment.act.inj acts).symm
      rw [if_neg same]
      simp [passage?, apart]
  rw [others]
  unfold step
  cases found : team.duties[id]? with
  | none =>
    have silent : team.passage? setting id (.act id) = none := by simp [passage?, found]
    simpa [silent] using tracked
  | some duty =>
    have cases := Shift.step_cases setting id ⟨duty, team.queue, team.crawl⟩
    rcases cases with ⟨job, phase, same, stepped⟩ | ⟨job, queue, waiting, stepped⟩ |
      ⟨notices, between, waiting, noted⟩
    · simp only at same
      subst same
      have did : team.passage? setting id (.act id) = job.passage? setting phase team.crawl := by
        simp [passage?, found]
      obtain ⟨named, before⟩ := tracked.duties id job phase found
      rw [did]
      refine tracked.shift ?_ ?_ ?_
      · rw [stepped]
        exact job.step_grows setting team.crawl phase
      · rw [stepped]
        exact tracked.queue
      · rw [stepped]
        intro other next resolving
        cases resolving
        exact ⟨named, before.step⟩
    · simp only at waiting
      refine tracked.shift ?_ ?_ ?_
      · rw [stepped]
        exact (Crawl.Drift.refl _).grows
      · rw [stepped]
        intro other member
        exact tracked.queue other (waiting ▸ List.mem_cons_of_mem _ member)
      · rw [stepped]
        intro other next resolving
        cases resolving
        exact ⟨tracked.queue job (waiting ▸ List.mem_cons_self), trivial⟩
    · refine tracked.shift ?_ ?_ ?_
      · rw [noted]
        exact (Crawl.Drift.note _ _).grows
      · rw [waiting]
        exact tracked.queue
      · intro job phase resolving
        exact absurd resolving (between job phase)

theorem move_tracked (moment : Moment) (tracked : team.Tracked setting jobs history) :
    (team.move setting moment).Tracked setting jobs fun id =>
      history id ++ (team.passage? setting id moment).toList := by
  cases moment with
  | act id => exact step_tracked id tracked
  | raise =>
    simp only [passage?, reduceCtorEq, if_false, Option.toList_none, List.append_nil]
    exact tracked.drift (Crawl.raise_drift team.crawl)
  | close =>
    simp only [passage?, reduceCtorEq, if_false, Option.toList_none, List.append_nil]
    exact tracked.drift (Crawl.closeAfterStop_drift team.crawl)

theorem play_tracked (moments : List Moment) (tracked : team.Tracked setting jobs history) :
    (team.play setting moments).Tracked setting jobs fun id =>
      history id ++ team.history setting id moments := by
  induction moments generalizing team history with
  | nil => simpa [Team.history, play] using tracked
  | cons moment rest ih =>
    have moved := ih (move_tracked moment tracked)
    simp only [List.append_assoc] at moved
    exact moved

/-- A root is recorded when its worker finishes it, and only while the database is open. -/
theorem move_recorded {moment : Moment} {text : String}
    (fresh : text ∉ team.crawl.desk.store.roots)
    (now : text ∈ (team.move setting moment).crawl.desk.store.roots) :
    ∃ id job visited, moment = .act id ∧ job.root.text = text ∧
      team.duties[id]? = some (.resolving job (.finishing visited)) ∧
      team.crawl.desk.store.database.isOpen = true := by
  have unheld := Bool.eq_false_iff.mpr (mt (Tally.holds_iff team.crawl.desk.store text).mp fresh)
  have held := (Tally.holds_iff _ text).mpr now
  have drifts : ∀ crawl, team.crawl.Drift crawl →
      LawfulStore.holds crawl.desk.store ⟨text⟩ ≠ true := by
    intro crawl drift held
    rw [drift.store.holds, unheld] at held
    cases held
  cases moment with
  | raise => exact absurd held (drifts _ (Crawl.raise_drift team.crawl))
  | close => exact absurd held (drifts _ (Crawl.closeAfterStop_drift team.crawl))
  | act id =>
    simp only [move, step] at held
    split at held
    · exact absurd held (drifts _ (.refl team.crawl))
    · rename_i duty found
      rcases Shift.step_cases setting id ⟨duty, team.queue, team.crawl⟩ with
        ⟨job, phase, same, stepped⟩ | ⟨job, queue, -, stepped⟩ | ⟨notices, -, -, noted⟩
      · rw [stepped] at held
        obtain ⟨root, opened, visited, finishing⟩ :=
          job.step_recorded setting team.crawl phase unheld held
        simp only at same
        subst same
        refine ⟨id, job, visited, rfl, congrArg Root.text root.symm, finishing ▸ found, ?_⟩
        simpa [RootStore.isClosed] using opened
      · rw [stepped] at held
        exact absurd held (drifts _ (.refl team.crawl))
      · rw [noted] at held
        exact absurd held (drifts _ (.note team.crawl notices))

end Team

namespace Coordinator

/-- Whatever else happens in a run, a root is recorded only after one worker went the whole way for
it: everything that could be reached was attempted, and all announced entries are in the database.
-/
theorem recorded_complete (coordinator : Coordinator) (crawl : Crawl Tally)
    (moments : List Moment) (moment : Moment) (text : String) :
    let setting := coordinator.setting
    let start := coordinator.muster crawl
    let before := start.play setting moments
    text ∉ before.crawl.desk.store.roots →
    text ∈ (before.move setting moment).crawl.desk.store.roots →
    ∃ id job explicit past deeds, moment = .act id ∧ job ∈ coordinator.jobs ∧
      job.root.text = text ∧
      start.history setting id moments = past ++ .setOut job explicit :: deeds.map .deed ∧
      Deed.Settles (job.locations setting explicit) deeds ∧
      (Deed.attempted deeds).Sublist before.crawl.journal.fetched ∧
      (Deed.handed deeds).Sublist before.crawl.journal.accepted ∧
      ∀ entry ∈ Sitemap.entriesOf (Deed.announced deeds),
        entry.reference ∈ before.crawl.desk.store.urls := by
  intro setting start before fresh recorded
  obtain ⟨id, job, visited, acts, root, duty, opened⟩ := Team.move_recorded fresh recorded
  have tracked : before.Tracked setting coordinator.jobs fun id =>
      [] ++ start.history setting id moments :=
    Team.play_tracked moments (Team.gather_tracked coordinator.team coordinator.jobs _)
  obtain ⟨named, underway⟩ := tracked.duties id job _ duty
  obtain ⟨explicit, past, deeds, history, kept, settles⟩ := underway
  refine ⟨id, job, explicit, past, deeds, acts, named, root, history, settles, kept.fetched,
    kept.accepted, ?_⟩
  intro entry announced
  exact kept.stored opened entry (settles.entries.mem_iff.mpr announced)

def lone : Coordinator :=
  ⟨.ofTexts [("http://a/s.xml", "<url><loc>http://a/p</loc></url>")], [],
    [⟨⟨"http://a"⟩, ["http://a/s.xml"], true, false⟩], 1⟩

theorem recorded_complete_lone :
    let start := lone.muster (.start ⟨.create .memory, 0⟩ .empty)
    let before := start.play lone.setting (List.replicate 17 (.act 0))
    "http://a" ∉ before.crawl.desk.store.roots ∧
    "http://a" ∈ (before.move lone.setting (.act 0)).crawl.desk.store.roots ∧
    ∃ id job explicit past deeds, Moment.act 0 = .act id ∧ job ∈ lone.jobs ∧
      job.root.text = "http://a" ∧
      start.history lone.setting id (List.replicate 17 (.act 0)) =
        past ++ .setOut job explicit :: deeds.map .deed ∧
      Deed.Settles (job.locations lone.setting explicit) deeds ∧
      (Deed.attempted deeds).Sublist before.crawl.journal.fetched ∧
      (Deed.handed deeds).Sublist before.crawl.journal.accepted ∧
      ∀ entry ∈ Sitemap.entriesOf (Deed.announced deeds),
        entry.reference ∈ before.crawl.desk.store.urls := by
  have fresh : "http://a" ∉ ((lone.muster (.start ⟨.create .memory, 0⟩ .empty)).play lone.setting
      (List.replicate 17 (.act 0))).crawl.desk.store.roots := by decide +kernel
  have recorded : "http://a" ∈ (((lone.muster (.start ⟨.create .memory, 0⟩ .empty)).play
      lone.setting (List.replicate 17 (.act 0))).move
      lone.setting (.act 0)).crawl.desk.store.roots := by decide +kernel
  exact ⟨fresh, recorded, recorded_complete lone (.start ⟨.create .memory, 0⟩ .empty)
    (List.replicate 17 (.act 0)) (.act 0) "http://a" fresh recorded⟩

end Coordinator

end Sitemaps
