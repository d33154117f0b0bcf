import Sitemaps.Proofs.Alone
import Sitemaps.Proofs.Staging

/-!
What a resolution comes to that nobody stops. The locations it fetches are those that can be reached
from its candidates, by what their documents would announce at its start: none is fetched twice, and
nothing that is staged gets into the way of what is staged later.
-/

namespace Sitemaps

open Sitemap

/-- No answer brings a stop or a panic. -/
def Web.Calm (web : Web) : Prop :=
  ∀ location count, (web.answer location count).stops = false ∧
    (web.answer location count).panics = false

def Web.Sound (web : Web) : Prop := ∀ location count, (web.answer location count).panics = false

theorem Web.Calm.sound {web : Web} (calm : web.Calm) : web.Sound :=
  fun location count => (calm location count).2

theorem Web.ofTexts_calm (texts : List (String × String)) : (Web.ofTexts texts).Calm := by
  intro location count
  have answered : ∀ answers : List Answer,
      (∀ answer ∈ answers, answer.stops = false ∧ answer.panics = false) →
      (pick answers count).stops = false ∧ (pick answers count).panics = false := by
    intro answers quiet
    unfold pick
    cases found : answers[min count (answers.length - 1)]? with
    | none => exact ⟨rfl, rfl⟩
    | some answer => exact quiet answer (List.mem_of_getElem? found)
  apply answered _
  intro answer member
  induction texts with
  | nil => cases member
  | cons text rest ih =>
    simp only [List.map_cons, List.lookup_cons] at member
    split at member
    · rw [List.mem_singleton.mp member]
      exact ⟨rfl, rfl⟩
    · exact ih member

/-- Whatever comes is taken, without panic or stop. -/
def Sink.Steady {σ : Type} [Sink σ] (store : σ) : Prop :=
  ∃ calm : σ → Prop, calm store ∧ ∀ before, calm before → ∀ entry, ∃ after notices,
    Sink.accept before entry = .kept after notices false ∧ calm after

theorem Sink.Steady.accept {σ : Type} [Sink σ] {store : σ} (steady : Sink.Steady store)
    (entry : Entry) : ∃ after notices,
      Sink.accept store entry = .kept after notices false ∧ Sink.Steady after := by
  obtain ⟨calm, start, kept⟩ := steady
  obtain ⟨after, notices, accepted, still⟩ := kept store start entry
  exact ⟨after, notices, accepted, calm, still, kept⟩

theorem Tally.steady (tally : Tally) : Sink.Steady tally :=
  ⟨fun _ => True, trivial, fun _ _ _ => ⟨_, _, rfl, trivial⟩⟩

theorem Listener.steady {σ : Type} [RootStore σ] (store : σ) (heard : Nat) :
    Sink.Steady (⟨store, heard, none, none⟩ : Listener σ) := by
  refine ⟨fun listener => listener.stopAt = none ∧ listener.panicAt = none, ⟨rfl, rfl⟩, ?_⟩
  rintro ⟨store, heard, stopAt, panicAt⟩ ⟨rfl, rfl⟩ entry
  exact ⟨_, _, rfl, rfl, rfl⟩

namespace Crawl

variable {σ : Type} [RootStore σ] {crawl later : Crawl σ}

theorem request_calm {web : Web} (calm : web.Calm) (crawl : Crawl σ) (location : String) :
    crawl.request web location =
      (some (web.answer location (crawl.journal.requests location)).result,
        crawl.log (.fetched location)) := by
  obtain ⟨stops, panics⟩ := calm location (crawl.journal.requests location)
  simp [request, stops, panics]

theorem request_sound {web : Web} (sound : web.Sound) (crawl : Crawl σ) (location : String) :
    (crawl.request web location).1 =
      some (web.answer location (crawl.journal.requests location)).result := by
  simp [request, sound location]

theorem accept_steady [Sink σ] (steady : Sink.Steady crawl.desk.store) (entry : Entry) :
    ∃ later, crawl.accept entry = some later ∧ later.stopped = crawl.stopped ∧
      Sink.Steady later.desk.store := by
  obtain ⟨store, notices, accepted, still⟩ := steady.accept entry
  refine ⟨({ crawl with desk := { crawl.desk with store := store } }.log
    (.accepted entry)).note notices, ?_, rfl, still⟩
  simp [accept, accepted]

end Crawl

namespace Setting

variable {σ : Type} (setting : Setting)

theorem answered_calm [RootStore σ] (calm : setting.web.Calm) (location : String)
    (crawl : Crawl σ) : (setting.answered location crawl).desk = crawl.desk := by
  unfold answered
  rw [Crawl.request_calm calm crawl location]
  rfl

/-- A document announces another as its child. -/
def Leads (crawl : Crawl σ) (parent child : String) : Prop :=
  child ∈ childrenOf (setting.announced parent crawl)

theorem announced_content (location : String) (crawl : Crawl σ) :
    setting.announced location crawl =
      match (setting.received location crawl).1.content? with
      | some content => (parse location setting.scope content none none).findings
      | none => [] := by
  unfold announced
  cases (setting.received location crawl).1 <;> rfl

theorem announced_congr {τ : Type} {before : Crawl τ} {crawl : Crawl σ} {location : String}
    (alike : before.disk.Alike setting.staging.place crawl.disk)
    (same : (setting.web.answer location (crawl.journal.requests location)).result =
      (setting.web.answer location (before.journal.requests location)).result) :
    setting.announced location crawl = setting.announced location before := by
  have content : (setting.received location crawl).1.content? =
      (setting.received location before).1.content? := by
    unfold received
    rw [same]
    exact setting.staging.stage_content alike.symm location _
  rw [announced_content, announced_content, content]

theorem announced_fresh {before crawl : Crawl σ} {fetched : List String} {location : String}
    (alike : before.disk.Alike setting.staging.place crawl.disk)
    (journal : crawl.journal.fetched = before.journal.fetched ++ fetched)
    (fresh : location ∉ fetched) :
    setting.announced location crawl = setting.announced location before := by
  refine setting.announced_congr alike (congrArg (fun count =>
    (setting.web.answer location count).result) ?_)
  calc crawl.journal.requests location
      = crawl.journal.fetched.count location := Journal.requests_eq _ _
    _ = before.journal.fetched.count location + fetched.count location := by
      rw [journal, List.count_append]
    _ = before.journal.fetched.count location := by
      rw [List.count_eq_zero_of_not_mem fresh, Nat.add_zero]
    _ = before.journal.requests location := (Journal.requests_eq _ _).symm

end Setting

namespace Walk

variable {σ : Type} {walk : Walk} {setting : Setting} {crawl : Crawl σ}

theorem deed?_attempt {location : String} {found : List Finding}
    (attempts : walk.deed? setting crawl = some (.attempt location found)) :
    walk.fetching = some location ∧ found = setting.announced location crawl := by
  unfold deed? at attempts
  split at attempts
  · rename_i other fetching
    cases attempts
    exact ⟨fetching, rfl⟩
  · cases attempts
  · split at attempts <;> cases attempts

variable [RootStore σ] [Sink σ]

theorem step_sound (sound : setting.web.Sound) (steady : Sink.Steady crawl.desk.store)
    {later : Crawl σ} : walk.step setting crawl ≠ .panicked later := by
  intro turn
  have outcome := step_outcome walk setting crawl
  rw [turn] at outcome
  cases outcome with
  | @broken location fetching panics =>
    rw [Crawl.request_sound sound crawl location] at panics
    cases panics
  | @refused frame outer entry rest idle frames pending panics =>
    obtain ⟨other, taken, -⟩ := Crawl.accept_steady steady entry
    rw [taken] at panics
    cases panics

theorem step_steady (walk : Walk) (calm : setting.web.Calm)
    (steady : Sink.Steady crawl.desk.store) :
    (walk.step setting crawl).crawl.stopped = crawl.stopped ∧
      Sink.Steady (walk.step setting crawl).crawl.desk.store := by
  have outcome := step_outcome walk setting crawl
  generalize walk.step setting crawl = turn at outcome
  have unmoved : ∀ {later : Crawl σ}, later.desk = crawl.desk →
      later.stopped = crawl.stopped ∧ Sink.Steady later.desk.store := by
    intro later same
    unfold Crawl.stopped
    rw [same]
    exact ⟨rfl, steady⟩
  cases outcome with
  | @broken location fetching panics =>
    apply unmoved
    simp [Turn.crawl, unwind, Crawl.request_calm calm crawl location, Crawl.log]
  | @opened location file fetching opened =>
    exact unmoved (setting.answered_calm calm location crawl)
  | @unopened location notices fetching unstaged =>
    exact unmoved (setting.answered_calm calm location crawl)
  | ending idle frames candidates => exact unmoved rfl
  | @met location next idle meets =>
    obtain ⟨notices, noted⟩ := visit_note next location crawl
    apply unmoved
    simp only [Turn.crawl, noted, Crawl.note_desk]
  | @handed frame outer entry rest later idle frames pending accepted =>
    obtain ⟨other, taken, same, still⟩ := Crawl.accept_steady steady entry
    rw [taken, Option.some.injEq] at accepted
    subst accepted
    exact ⟨same, still⟩
  | refused idle frames pending panics => exact unmoved rfl
  | told notices idle frames pending quiet => exact unmoved rfl
  | left notices idle frames pending reason => exact unmoved rfl
  | read ended idle frames pending more going next => exact unmoved rfl

theorem step_calm (calm : setting.web.Calm) (going : crawl.stopped = false)
    (steady : Sink.Steady crawl.desk.store)
    (placed : ∀ frame ∈ walk.frames, frame.file.directory = setting.staging.place) :
    match walk.step setting crawl with
    | .onward after later => later.stopped = false ∧ Sink.Steady later.desk.store ∧
        crawl.disk.Alike setting.staging.place later.disk ∧
        ∀ frame ∈ after.frames, frame.file.directory = setting.staging.place
    | .finished _ later => later = crawl
    | .panicked _ => False := by
  obtain ⟨same, still⟩ := step_steady walk calm steady
  obtain ⟨alike, inside⟩ := step_alike crawl placed
  split
  · rename_i after later turn
    rw [turn] at same still alike
    exact ⟨same.trans going, still, alike, inside after later turn⟩
  · rename_i visited later turn
    exact (step_ending turn).1
  · rename_i later turn
    exact step_sound calm.sound steady turn

/-- A walk that nothing disturbed so far, with its deeds. What its documents announced is what they
would have announced at the start, and only what can be reached by that was ever due. -/
structure Faithful (setting : Setting) (before : Crawl σ) (candidates : List String)
    (deeds : List Deed) (walk : Walk) (crawl : Crawl σ) : Prop where
  going : crawl.stopped = false
  steady : Sink.Steady crawl.desk.store
  alike : before.disk.Alike setting.staging.place crawl.disk
  placed : ∀ frame ∈ walk.frames, frame.file.directory = setting.staging.place
  fetched : crawl.journal.fetched = before.journal.fetched ++ Deed.attempted deeds
  accepted : crawl.journal.accepted = before.journal.accepted ++ Deed.handed deeds
  found : ∀ location found, .attempt location found ∈ deeds →
    found = setting.announced location before
  covers : walk.agenda.Covers candidates deeds
  within : ∀ location, walk.agenda.Due location →
    Reach candidates (setting.Leads before) location

variable {before later : Crawl σ} {candidates : List String} {deeds : List Deed}

omit [RootStore σ] in
theorem Faithful.announces (faithful : Faithful setting before candidates deeds walk crawl)
    {location : String} (fetching : walk.fetching = some location) :
    setting.announced location crawl = setting.announced location before := by
  have fresh : location ∉ Deed.attempted deeds := by
    have distinct := faithful.covers.distinct
    have next : walk.agenda.fetching = some location := fetching
    rw [next, Option.toList_some, List.singleton_append, List.nodup_cons] at distinct
    rw [faithful.covers.visited, List.mem_reverse]
    exact distinct.1
  exact setting.announced_fresh faithful.alike faithful.fetched fresh

theorem Faithful.step {after : Walk} (calm : setting.web.Calm)
    (faithful : Faithful setting before candidates deeds walk crawl)
    (turn : walk.step setting crawl = .onward after later) :
    Faithful setting before candidates (deeds ++ (walk.deed? setting crawl).toList) after
      later := by
  have undisturbed := step_calm calm faithful.going faithful.steady faithful.placed
  rw [turn] at undisturbed
  obtain ⟨going, steady, alike, placed⟩ := undisturbed
  obtain ⟨fetched, accepted⟩ := step_journal turn
  have agenda := step_agenda turn faithful.going
  have attempts : ∀ location found,
      .attempt location found ∈ (walk.deed? setting crawl).toList →
      walk.fetching = some location ∧ found = setting.announced location before := by
    intro location found member
    rw [Option.mem_toList] at member
    obtain ⟨fetching, same⟩ := deed?_attempt member
    exact ⟨fetching, same.trans (faithful.announces fetching)⟩
  refine ⟨going, steady, faithful.alike.trans alike, placed, ?_, ?_, ?_,
    faithful.covers.step agenda, agenda.within faithful.within ?_⟩
  · rw [fetched, faithful.fetched, Deed.attempted_append, List.append_assoc]
  · rw [accepted, faithful.accepted, Deed.handed_append, List.append_assoc]
  · intro location found member
    rcases List.mem_append.mp member with known | new
    · exact faithful.found location found known
    · exact (attempts location found new).2
  · intro child announced
    obtain ⟨deed, member, found⟩ := List.mem_flatMap.mp announced
    cases deed with
    | hand entry => cases found
    | attempt location found' =>
      obtain ⟨fetching, same⟩ := attempts location found' member
      have found : Finding.child child ∈ found' := found
      have due : walk.agenda.Due location := Or.inr (Or.inl fetching)
      exact .child (faithful.within location due) (mem_childrenOf.mpr (same ▸ found))

end Walk

namespace Deed

variable {deeds : List Deed} {announces : String → List Finding}

theorem announced_flatMap
    (found : ∀ location found, .attempt location found ∈ deeds → found = announces location) :
    entriesOf (Deed.announced deeds) =
      (Deed.attempted deeds).flatMap fun location => entriesOf (announces location) := by
  induction deeds with
  | nil => rfl
  | cons deed rest ih =>
    have tail := ih fun location listed member =>
      found location listed (List.mem_cons_of_mem _ member)
    cases deed with
    | hand entry => exact tail
    | attempt location listed =>
      have head := found location listed List.mem_cons_self
      subst head
      calc entriesOf (Deed.announced (.attempt location (announces location) :: rest))
          = entriesOf (announces location ++ Deed.announced rest) := rfl
        _ = entriesOf (announces location) ++ entriesOf (Deed.announced rest) :=
          entriesOf_append _ _
        _ = entriesOf (announces location) ++
            (Deed.attempted rest).flatMap fun location => entriesOf (announces location) := by
          rw [tail]

/-- If the attempts found what was to be found, then all that can be reached by that was attempted.
-/
theorem Settles.reach {candidates : List String} (settles : Deed.Settles candidates deeds)
    (found : ∀ location found, .attempt location found ∈ deeds → found = announces location)
    {location : String}
    (reach : Reach candidates (fun parent child => child ∈ childrenOf (announces parent))
      location) :
    location ∈ Deed.attempted deeds := by
  apply settles.complete location
  induction reach with
  | candidate member => exact .candidate member
  | @child parent location _ leads ih =>
    have attempted := settles.complete parent ih
    simp only [Deed.attempted, List.mem_filterMap] at attempted
    obtain ⟨deed, member, same⟩ := attempted
    cases deed with
    | hand entry => cases same
    | attempt other listed =>
      cases same
      refine .child ih ⟨listed, member, ?_⟩
      rw [found _ _ member]
      exact mem_childrenOf.mp leads

end Deed

namespace Desk

variable {σ : Type} [RootStore σ] {desk : Desk σ} {root : Root}

theorem state_unresolved (going : desk.guard.stopped = false)
    (unresolved : (desk.state root).1 = .unresolved) : (desk.isTaken root).1 = false := by
  apply Bool.eq_false_iff.mpr
  intro taken
  unfold state at unresolved
  rcases (isTaken_iff desk root).mp taken with active | finished | recorded
  · simp [active] at unresolved
  · by_cases active : root ∈ desk.guard.active
    · simp [active] at unresolved
    · simp [active, finished] at unresolved
  · by_cases active : root ∈ desk.guard.active
    · simp [active] at unresolved
    · by_cases finished : root ∈ desk.guard.finished
      · simp [active, finished] at unresolved
      · simp [active, finished, going, recorded] at unresolved

end Desk

theorem Crawl.enter_granted {σ : Type} [RootStore σ] (crawl : Crawl σ) {root : Root}
    (going : crawl.stopped = false) (unresolved : (crawl.desk.state root).1 = .unresolved) :
    (crawl.enter root).1 = true := by
  have free := Desk.state_unresolved going unresolved
  rcases Crawl.enter_outcome crawl root with ⟨taken, -⟩ | ⟨-, granted, -⟩
  · rw [free] at taken
    cases taken
  · exact granted

theorem Crawl.finish_state {σ : Type} [RootStore σ] (crawl : Crawl σ) (root : Root) :
    ((crawl.finish root).desk.state root).1 = .resolved := by
  unfold Desk.state
  simp [finish_guard, Desk.deactivate]

namespace Job

variable {σ : Type} [RootStore σ] {job : Job} {setting : Setting} {before crawl : Crawl σ}
  {tried : List String} {phase : Phase}

/-- All that can be reached was fetched, and nothing else; what it announced was handed over. -/
structure Exhausted (setting : Setting) (before : Crawl σ) (tried : List String)
    (deeds : List Deed) (crawl : Crawl σ) : Prop where
  going : crawl.stopped = false
  fetched : crawl.journal.fetched = before.journal.fetched ++ Deed.attempted deeds
  accepted : crawl.journal.accepted = before.journal.accepted ++ Deed.handed deeds
  found : ∀ location found, .attempt location found ∈ deeds →
    found = setting.announced location before
  settles : Deed.Settles tried deeds
  within : ∀ location ∈ Deed.attempted deeds, Reach tried (setting.Leads before) location

omit [RootStore σ] in
theorem Exhausted.note {deeds : List Deed}
    (exhausted : Exhausted setting before tried deeds crawl) (notices : List Notice) :
    Exhausted setting before tried deeds (crawl.note notices) where
  going := exhausted.going
  fetched := (Journal.fetched_note _ _).trans exhausted.fetched
  accepted := (Journal.accepted_note _ _).trans exhausted.accepted
  found := exhausted.found
  settles := exhausted.settles
  within := exhausted.within

theorem Exhausted.finish {deeds : List Deed} (root : Root)
    (exhausted : Exhausted setting before tried deeds crawl) :
    Exhausted setting before tried deeds (crawl.finish root) where
  going := (Crawl.finish_stopped crawl root).trans exhausted.going
  fetched := by simp [Crawl.finish, Crawl.log, Journal.fetched_cons, exhausted.fetched]
  accepted := by simp [Crawl.finish, Crawl.log, Journal.accepted_cons, exhausted.accepted]
  found := exhausted.found
  settles := exhausted.settles
  within := exhausted.within

variable [Sink σ]

def Undisturbed (job : Job) (setting : Setting) (before : Crawl σ) (tried : List String)
    (crawl : Crawl σ) : Phase → Prop
  | .walking walk => ∃ deeds, Walk.Faithful setting before tried deeds walk crawl
  | .closing _ | .finishing _ => ∃ deeds, Exhausted setting before tried deeds crawl
  | .done => (∃ deeds, Exhausted setting before tried deeds crawl) ∧
      (crawl.desk.state job.root).1 = .resolved
  | .asking | .entering | .gathering | .dropping _ | .panicked => False

theorem undisturbed_step (calm : setting.web.Calm)
    (undisturbed : job.Undisturbed setting before tried crawl phase) :
    job.Undisturbed setting before tried (job.step setting phase crawl).2
      (job.step setting phase crawl).1 := by
  cases phase with
  | walking walk =>
    obtain ⟨deeds, faithful⟩ := undisturbed
    have safe := Walk.step_calm calm faithful.going faithful.steady faithful.placed
    simp only [step]
    split
    · rename_i after later turn
      exact ⟨_, faithful.step calm turn⟩
    · rename_i visited later turn
      obtain ⟨rfl, -⟩ := Walk.step_ending turn
      refine ⟨deeds, faithful.going, faithful.fetched, faithful.accepted, faithful.found,
        Walk.ending_settles turn faithful.covers, ?_⟩
      intro location attempted
      rw [faithful.covers.visited, List.mem_reverse] at attempted
      exact faithful.within location (Or.inl attempted)
    · rename_i later turn
      rw [turn] at safe
      exact safe.elim
  | closing visited =>
    obtain ⟨deeds, exhausted⟩ := undisturbed
    simp only [step, exhausted.going]
    exact ⟨deeds, exhausted⟩
  | finishing visited =>
    obtain ⟨deeds, exhausted⟩ := undisturbed
    refine ⟨⟨deeds, (exhausted.finish job.root).note _⟩, ?_⟩
    exact Crawl.finish_state crawl job.root
  | done => exact undisturbed
  | asking => cases undisturbed
  | entering => cases undisturbed
  | gathering => cases undisturbed
  | dropping panics => cases undisturbed
  | panicked => cases undisturbed

theorem undisturbed_start (given : job.readsRobots = false) (going : before.stopped = false)
    (steady : Sink.Steady before.desk.store)
    (unresolved : (before.desk.state job.root).1 = .unresolved) :
    job.Undisturbed setting before (job.locations setting job.given)
      (job.after setting before 3).2 (job.after setting before 3).1 := by
  have granted := before.enter_granted going unresolved
  obtain ⟨-, disk⟩ := Crawl.enter_rest before job.root
  obtain ⟨notices, out⟩ := setOut_note job setting (before.enter job.root).2 job.given
  have third : job.after setting before 3 =
      (.walking (.start (job.locations setting job.given)),
        (before.enter job.root).2.note notices) := by
    simp [after, step, going, granted, gather, given, out]
  have journal : (before.enter job.root).2.journal.fetched = before.journal.fetched ∧
      (before.enter job.root).2.journal.accepted = before.journal.accepted := by
    simp only [Crawl.enter]
    split <;> simp [Crawl.log, Journal.fetched_cons, Journal.accepted_cons]
  rw [third]
  refine ⟨[], ?_, ?_, ?_, ?_, ?_, ?_, ?_, .start _, ?_⟩
  · exact (Crawl.enter_stopped before job.root).trans going
  · rw [Crawl.note_desk, Crawl.enter_store]
    exact steady
  · rw [Crawl.note_disk, disk]
    exact .refl _ _
  · intro frame member
    cases member
  · rw [Crawl.note_journal, Journal.fetched_note, journal.1]
    exact (List.append_nil _).symm
  · rw [Crawl.note_journal, Journal.accepted_note, journal.2]
    exact (List.append_nil _).symm
  · intro location found member
    cases member
  · rintro location (visited | fetching | candidate | ahead)
    · cases visited
    · cases fetching
    · exact .candidate candidate
    · cases ahead

/-- One undisturbed resolution of an unresolved root fetches what can be reached from its
candidates, each location once, and hands over all that those announce. -/
theorem resolves_reachable (root : Root) (explicit : List String) (startOnly : Bool)
    (setting : Setting) (crawl : Crawl σ) (calm : setting.web.Calm)
    (steady : Sink.Steady crawl.desk.store) (going : crawl.stopped = false)
    (unresolved : (crawl.desk.state root).1 = .unresolved) :
    let last := Job.run ⟨root, explicit, startOnly, false⟩ setting crawl
    let children := fun location => childrenOf (setting.announced location crawl)
    let entries := fun location => entriesOf (setting.announced location crawl)
    ∃ fetched accepted,
      last.2.journal.fetched = crawl.journal.fetched ++ fetched ∧
      last.2.journal.accepted = crawl.journal.accepted ++ accepted ∧
      fetched.Nodup ∧
      (∀ location, location ∈ fetched ↔
        Reach (candidates explicit root setting.paths startOnly)
          (fun parent child => child ∈ children parent) location) ∧
      accepted.Perm (fetched.flatMap entries) ∧
      last.1.isDone = true ∧ (last.2.desk.state root).1 = .resolved := by
  intro last children entries
  obtain ⟨undisturbed, ended⟩ := run_keeps ⟨root, explicit, startOnly, false⟩ setting
    (fun phase later => Undisturbed ⟨root, explicit, startOnly, false⟩ setting crawl
      (candidates explicit root setting.paths startOnly) later phase)
    (fun _ _ => undisturbed_step calm) crawl 3 (undisturbed_start rfl going steady unresolved)
  change last.1.isOver = true at ended
  have done : last.1 = .done := by
    cases phase : last.1 with
    | done => rfl
    | panicked =>
      rw [phase] at undisturbed
      cases undisturbed
    | _ =>
      rw [phase] at ended
      cases ended
  rw [done] at undisturbed
  obtain ⟨⟨deeds, exhausted⟩, resolved⟩ := undisturbed
  refine ⟨Deed.attempted deeds, Deed.handed deeds, exhausted.fetched, exhausted.accepted,
    exhausted.settles.distinct, ?_, ?_, by rw [done]; rfl, resolved⟩
  · intro location
    exact ⟨exhausted.within location, exhausted.settles.reach exhausted.found⟩
  · rw [← Deed.announced_flatMap exhausted.found]
    exact exhausted.settles.entries

def index : Setting := .ofTexts [
  ("http://a/i.xml", "<i><sitemap><loc>http://a/i.xml</loc></sitemap>" ++
    "<sitemap><loc>http://a/s.xml</loc></sitemap></i>"),
  ("http://a/s.xml", "<url><loc>http://a/p</loc></url>")]

theorem resolves_reachable_index :
    let crawl : Crawl Tally := .start ⟨.create .memory, 0⟩ .empty
    index.web.Calm ∧ Sink.Steady crawl.desk.store ∧ crawl.stopped = false ∧
    (crawl.desk.state ⟨"http://a"⟩).1 = .unresolved ∧
    ∃ (fetched : List String) (accepted : List Entry), fetched.Nodup ∧
      (∀ location, location ∈ fetched ↔ Reach (candidates ["http://a/i.xml"] ⟨"http://a"⟩ [] true)
        (index.Leads crawl) location) ∧
      accepted.Perm (fetched.flatMap fun location =>
        entriesOf (index.announced location crawl)) ∧
      (Job.run ⟨⟨"http://a"⟩, ["http://a/i.xml"], true, false⟩ index crawl).2.journal.fetched =
        fetched := by
  intro crawl
  have calm : index.web.Calm := Web.ofTexts_calm _
  have steady : Sink.Steady crawl.desk.store := Tally.steady _
  have unresolved : (crawl.desk.state ⟨"http://a"⟩).1 = .unresolved := by decide +kernel
  obtain ⟨fetched, accepted, journal, -, distinct, reached, handed, -⟩ :=
    resolves_reachable ⟨"http://a"⟩ ["http://a/i.xml"] true index crawl calm steady rfl unresolved
  exact ⟨calm, steady, rfl, unresolved, fetched, accepted, distinct, reached, handed, journal⟩

end Job

end Sitemaps
