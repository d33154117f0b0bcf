import Sitemaps.Proofs.Reachability
import Sitemaps.Proofs.Rows

/-!
The course of a job in a web where every location always answers the same. What the job does to the
world can be told beforehand: as long as no stop is requested, a run of it has done a first part of
that, whatever other jobs do in between.
-/

namespace Sitemaps

open Sitemap

namespace Web

/-- Every location always answers with the same response. -/
def Constant (web : Web) : Prop :=
  ∀ location count, (web.answer location count).result = (web.answer location 0).result

/-- The web that gives its first answers over and over, and brings neither stop nor panic. -/
def settled (web : Web) : Web where
  answer location _ := { result := (web.answer location 0).result }
  answering := web.answering
  silent location absent _ := web.silent location absent 0

theorem settled_constant (web : Web) : web.settled.Constant := fun _ _ => rfl

theorem settled_calm (web : Web) : web.settled.Calm := fun _ _ => ⟨rfl, rfl⟩

theorem ofTexts_constant (texts : List (String × String)) : (Web.ofTexts texts).Constant := by
  intro location count
  have answered : ∀ answers : List Answer, answers.length ≤ 1 →
      pick answers count = pick answers 0 := by
    intro answers short
    have last : answers.length - 1 = 0 := by omega
    unfold pick
    rw [last, Nat.min_zero, Nat.min_zero]
  apply congrArg Answer.result
  apply answered _
  induction texts with
  | nil => exact Nat.zero_le 1
  | cons text rest ih =>
    simp only [List.map_cons, List.lookup_cons]
    split
    · exact Nat.le_refl 1
    · exact ih

end Web

namespace Setting

variable (setting : Setting)

def settled : Setting := { setting with web := setting.web.settled }

def told (disk : Disk) (location : String) : List Finding :=
  setting.announced location (Crawl.start () disk)

theorem announced_told {σ : Type} {crawl : Crawl σ} {disk : Disk} (constant : setting.web.Constant)
    (alike : disk.Alike setting.staging.place crawl.disk) (location : String) :
    setting.announced location crawl = setting.told disk location :=
  setting.announced_congr alike
    ((constant location _).trans (constant location _).symm)

theorem settled_told (disk : Disk) : setting.settled.told disk = setting.told disk := by
  funext location
  have received : setting.settled.received location (Crawl.start () disk) =
      setting.received location (Crawl.start () disk) := rfl
  unfold told announced
  rw [received]
  rfl

end Setting

namespace Walk

variable {σ : Type} [RootStore σ] [Sink σ]

def deeds (setting : Setting) (walk : Walk) (crawl : Crawl σ) : List Deed :=
  match _turn : walk.step setting crawl with
  | .onward after later => (walk.deed? setting crawl).toList ++ deeds setting after later
  | .finished _ _ | .panicked _ => []
  termination_by walk.work setting.web
  decreasing_by exact (step_less setting walk after crawl later _turn).lex

variable {walk : Walk} {setting : Setting} {crawl later : Crawl σ}

theorem ending_over {visited : List String} (announces : String → List Finding)
    (turn : walk.step setting crawl = .finished visited later) :
    walk.agenda.next announces = none := by
  obtain ⟨-, idle, frames, candidates⟩ := step_ending turn
  simp [Agenda.next, agenda, idle, frames, candidates]

theorem deeds_remain {disk : Disk} (constant : setting.web.Constant) (calm : setting.web.Calm)
    (alike : disk.Alike setting.staging.place crawl.disk) (going : crawl.stopped = false)
    (steady : Sink.Steady crawl.desk.store)
    (placed : ∀ frame ∈ walk.frames, frame.file.directory = setting.staging.place) :
    walk.agenda.Remains (setting.told disk) (walk.deeds setting crawl) := by
  fun_induction walk.deeds setting crawl with
  | case1 walk crawl after later turn ih =>
    have safe := step_calm calm going steady placed
    rw [turn] at safe
    have rest := ih (alike.trans safe.2.2.1) safe.1 safe.2.1 safe.2.2.2
    rcases step_next (setting.announced_told constant alike) turn going with
      ⟨silent, same⟩ | stepped
    · rw [silent, ← same]
      exact rest
    · exact .step stepped rest
  | case2 walk crawl visited later turn => exact .ended (ending_over _ turn)
  | case3 walk crawl later turn => exact absurd turn (step_sound calm.sound steady)

end Walk

namespace Phase

def Placed (place : Place) : Phase → Prop
  | .walking walk => ∀ frame ∈ walk.frames, frame.file.directory = place
  | _ => True

def isSound : Phase → Bool
  | .dropping true | .panicked => false
  | _ => true

end Phase

namespace Job

def explicit (job : Job) (web : Web) : List String :=
  job.given ++
    if job.readsRobots then
      (Robots.readAnswer job.root (web.answer (Robots.location job.root) 0).result).1
    else []

def opening (job : Job) : List Deed :=
  if job.readsRobots then [.attempt (Robots.location job.root) []] else []

theorem opening_handed (job : Job) : Deed.handed job.opening = [] := by
  unfold opening
  split <;> rfl

/-- What the job does from taking its claim to giving it back. -/
def script (job : Job) (setting : Setting) (disk : Disk) : List Deed :=
  job.opening ++ (Walk.start (job.locations setting (job.explicit setting.web))).deeds
    setting.settled (Crawl.start (⟨.create .memory, 0⟩ : Tally) disk)

theorem script_remains (job : Job) (setting : Setting) (disk : Disk) :
    ∃ rest, job.script setting disk = job.opening ++ rest ∧
      (Walk.start (job.locations setting (job.explicit setting.web))).agenda.Remains
        (setting.told disk) rest := by
  refine ⟨_, rfl, ?_⟩
  rw [← setting.settled_told]
  exact Walk.deeds_remain setting.web.settled_constant setting.web.settled_calm (.refl _ _) rfl
    (Tally.steady _) fun _ member => absurd member List.not_mem_nil

section Steps

variable {σ : Type}

def deeds (job : Job) (setting : Setting) (phase : Phase) (crawl : Crawl σ) : List Deed :=
  match phase with
  | .gathering => job.opening
  | .walking walk => (walk.deed? setting crawl).toList
  | _ => []

/-- How much of its script a job has done that claimed its root. -/
def Stage (job : Job) (setting : Setting) (disk : Disk) (done : List Deed) : Phase → Prop
  | .gathering => done = []
  | .walking walk => ∃ rest, done ++ rest = job.script setting disk ∧
      walk.agenda.Remains (setting.told disk) rest
  | .closing _ | .finishing _ | .done => done = job.script setting disk
  | .asking | .entering | .dropping _ | .panicked => False

theorem Stage.partly {job : Job} {setting : Setting} {disk : Disk} {done : List Deed}
    {phase : Phase} (stage : job.Stage setting disk done phase) :
    ∃ rest, done ++ rest = job.script setting disk := by
  cases phase with
  | gathering => exact ⟨_, by rw [show done = [] from stage]; rfl⟩
  | walking walk => exact stage.imp fun _ => And.left
  | closing visited => exact ⟨[], by rw [List.append_nil]; exact stage⟩
  | finishing visited => exact ⟨[], by rw [List.append_nil]; exact stage⟩
  | done => exact ⟨[], by rw [List.append_nil]; exact stage⟩
  | asking => exact stage.elim
  | entering => exact stage.elim
  | dropping panics => exact stage.elim
  | panicked => exact stage.elim

variable [RootStore σ] {job : Job} {setting : Setting} {crawl : Crawl σ} {phase : Phase}

theorem robots_sound (sound : setting.web.Sound) (root : Root) :
    (Robots.fetch setting.web root crawl).1 = some (Robots.readAnswer root
      (setting.web.answer (Robots.location root)
        (crawl.journal.requests (Robots.location root))).result).1 := by
  have asked := Crawl.request_sound sound crawl (Robots.location root)
  unfold Robots.fetch
  split
  · rename_i later request
    rw [request] at asked
    cases asked
  · rename_i result later request
    rw [request] at asked
    cases asked
    rfl

theorem explicit?_explicit (constant : setting.web.Constant) (sound : setting.web.Sound) :
    job.explicit? setting crawl = some (job.explicit setting.web) := by
  unfold explicit? explicit
  rw [robots_sound sound, constant]
  split
  · rfl
  · rw [List.append_nil]

variable [Sink σ]

theorem Stage.step {disk : Disk} {done : List Deed} (constant : setting.web.Constant)
    (sound : setting.web.Sound) (steady : Sink.Steady crawl.desk.store)
    (alike : disk.Alike setting.staging.place crawl.disk) (going : crawl.stopped = false)
    (stage : job.Stage setting disk done phase) :
    job.Stage setting disk (done ++ job.deeds setting phase crawl)
      (job.step setting phase crawl).1 := by
  cases phase with
  | gathering =>
    obtain ⟨rest, whole, remains⟩ := job.script_remains setting disk
    have gathered := job.gather_phase setting crawl
    rw [explicit?_explicit constant sound] at gathered
    simp only [Job.step, gathered, deeds, show done = [] from stage]
    exact ⟨rest, whole.symm, remains⟩
  | walking walk =>
    obtain ⟨rest, whole, remains⟩ := stage
    simp only [Job.step, deeds]
    split
    · rename_i after later turn
      rcases Walk.step_next (setting.announced_told constant alike) turn going with
        ⟨silent, same⟩ | stepped
      · rw [silent, Option.toList_none, List.append_nil]
        exact ⟨rest, whole, same ▸ remains⟩
      · obtain ⟨others, rfl, left⟩ := remains.step_rest stepped
        exact ⟨others, by rw [List.append_assoc, whole], left⟩
    · rename_i visited later turn
      obtain ⟨-, idle, frames, -⟩ := Walk.step_ending turn
      have silent : walk.deed? setting crawl = none := by simp [Walk.deed?, idle, frames]
      rw [remains.ended_nil (Walk.ending_over _ turn)] at whole
      rw [silent]
      exact whole
    · rename_i later turn
      exact absurd turn (Walk.step_sound sound steady)
  | closing visited =>
    simp only [Job.step, deeds, going, List.append_nil]
    exact stage
  | finishing visited =>
    rw [show job.deeds setting (.finishing visited) crawl = [] from rfl, List.append_nil]
    exact stage
  | done =>
    rw [show job.deeds setting .done crawl = [] from rfl, List.append_nil]
    exact stage
  | asking => exact stage.elim
  | entering => exact stage.elim
  | dropping panics => exact stage.elim
  | panicked => exact stage.elim

theorem step_sound (sound : setting.web.Sound) (steady : Sink.Steady crawl.desk.store)
    (unbroken : phase.isSound = true) : (job.step setting phase crawl).1.isSound = true := by
  cases phase with
  | asking =>
    simp only [step]
    split <;> rfl
  | entering =>
    simp only [step]
    split <;> rfl
  | gathering =>
    simp only [step, gather_phase, explicit?, robots_sound sound, Option.map_some]
    cases job.readsRobots <;> rfl
  | walking walk =>
    simp only [step]
    split
    · rfl
    · rfl
    · rename_i later turn
      exact absurd turn (Walk.step_sound sound steady)
  | closing visited =>
    simp only [step]
    split <;> rfl
  | finishing visited => rfl
  | dropping panics =>
    cases panics with
    | false => rfl
    | true => cases unbroken
  | done => rfl
  | panicked => cases unbroken

theorem step_alike (job : Job) (crawl : Crawl σ) (placed : phase.Placed setting.staging.place) :
    crawl.disk.Alike setting.staging.place (job.step setting phase crawl).2.disk ∧
      (job.step setting phase crawl).1.Placed setting.staging.place := by
  cases phase with
  | asking =>
    simp only [step]
    split <;> exact ⟨.refl _ _, trivial⟩
  | entering =>
    simp only [step, (Crawl.enter_rest crawl job.root).2]
    refine ⟨.refl _ _, ?_⟩
    split <;> trivial
  | gathering =>
    simp only [step, gather_disk, gather_phase]
    refine ⟨.refl _ _, ?_⟩
    split
    · trivial
    · exact fun _ member => absurd member List.not_mem_nil
  | walking walk =>
    obtain ⟨alike, inside⟩ := Walk.step_alike crawl placed
    simp only [step]
    split
    · rename_i after later turn
      exact ⟨by rwa [turn] at alike, inside after later turn⟩
    · rename_i visited later turn
      exact ⟨by rwa [turn] at alike, trivial⟩
    · rename_i later turn
      exact ⟨by rwa [turn] at alike, trivial⟩
  | closing visited =>
    simp only [step]
    split <;> exact ⟨.refl _ _, trivial⟩
  | finishing visited => exact ⟨.refl _ _, trivial⟩
  | dropping panics => cases panics <;> exact ⟨.refl _ _, trivial⟩
  | done => exact ⟨.refl _ _, trivial⟩
  | panicked => exact ⟨.refl _ _, trivial⟩

theorem step_fetches (sound : setting.web.Sound) (steady : Sink.Steady crawl.desk.store) :
    (job.step setting phase crawl).2.journal.fetched =
      crawl.journal.fetched ++ Deed.attempted (job.deeds setting phase crawl) := by
  cases phase with
  | gathering =>
    obtain ⟨notices, gathered⟩ := gather_note job setting crawl
    simp only [step, gathered, deeds, opening, Crawl.note_journal, Journal.fetched_note]
    split
    · exact Crawl.request_fetched crawl setting.web _
    · exact (List.append_nil _).symm
  | walking walk =>
    simp only [step, deeds]
    split
    · rename_i after later turn
      exact (Walk.step_journal turn).1
    · rename_i visited later turn
      obtain ⟨rfl, idle, frames, -⟩ := Walk.step_ending turn
      simp [Walk.deed?, idle, frames, Deed.attempted]
    · rename_i later turn
      exact absurd turn (Walk.step_sound sound steady)
  | closing visited =>
    simp only [step, deeds, Deed.attempted, List.filterMap_nil, List.append_nil]
    split
    · exact Journal.fetched_note _ _
    · rfl
  | finishing visited =>
    simp [step, deeds, Deed.attempted, Crawl.finish, Crawl.info, Crawl.log, Journal.fetched_cons]
  | dropping panics =>
    simp [step, deeds, Deed.attempted, Crawl.drop, Crawl.log, Journal.fetched_cons]
  | _ => rw [step_fetched job setting crawl rfl]; exact (List.append_nil _).symm

theorem step_elder (elder : crawl.elder = none) :
    (job.step setting phase crawl).2.elder = none := by
  cases phase with
  | entering => exact (Crawl.enter_rest crawl job.root).1.trans elder
  | finishing visited => exact elder
  | dropping panics => exact elder
  | _ => exact (step_drift job setting crawl rfl).1.elder elder

theorem step_going (calm : setting.web.Calm) (steady : Sink.Steady crawl.desk.store) :
    (job.step setting phase crawl).2.stopped = crawl.stopped := by
  cases phase with
  | asking =>
    simp only [step]
    split <;> rfl
  | entering => exact Crawl.enter_stopped crawl job.root
  | gathering =>
    obtain ⟨notices, gathered⟩ := gather_note job setting crawl
    simp only [step, gathered, Crawl.note_stopped, Crawl.request_calm calm]
    split <;> rfl
  | walking walk =>
    have same := (Walk.step_steady walk calm steady).1
    simp only [step]
    split
    · rename_i after later turn
      rwa [turn] at same
    · rename_i visited later turn
      rwa [turn] at same
    · rename_i later turn
      rwa [turn] at same
  | closing visited =>
    simp only [step]
    split <;> rfl
  | finishing visited => exact Crawl.finish_stopped crawl job.root
  | dropping panics => rfl
  | done => rfl
  | panicked => rfl

end Steps

end Job

theorem Touched.closed_database {closes : Prop} {first second : Tally}
    (touched : Touched closes first second) (shut : first.database.isOpen = false) :
    second.database = first.database := by
  induction touched with
  | same => rfl
  | @closed store after _ _ closed ih =>
    cases closed
    rw [← ih] at shut ⊢
    simp [Database.close, ← shut]
  | @kept store after entry notices stops _ kept ih =>
    rw [← ih] at shut ⊢
    simp only [Sink.accept, Database.accept, Database.upsert, Database.update, shut,
      Bool.false_eq_true, if_false, Acceptance.kept.injEq] at kept
    rw [← kept.1]

theorem Desk.recorded_tally {desk : Desk Tally} (opened : desk.store.database.isOpen = true)
    (root : Root) :
    (desk.recorded root).1 = true ↔ root.text ∈ desk.store.database.tables.roots := by
  have readable : RootStore.isClosed desk.store = false := by simp [RootStore.isClosed, opened]
  rw [recorded_eq, readable]
  exact Tally.holds_iff desk.store root.text

namespace Crawl

variable {crawl : Crawl Tally}

theorem request_tally (web : Web) (location : String) (going : crawl.stopped = false)
    (elder : crawl.elder = none) (opened : crawl.desk.store.database.isOpen = true) :
    (crawl.request web location).2.desk.store =
      ⟨{ crawl.desk.store.database with isOpen := !(crawl.request web location).2.stopped },
        crawl.desk.store.emitted⟩ := by
  have going : crawl.desk.guard.stopped = false := going
  unfold request
  dsimp only
  split
  · simp [stopFromOutside, log, elder, shutdown, Desk.shutdown, going, Desk.closeStore, Desk.raise,
      RootStore.close, Database.close, stopped, note]
  · simp [log, stopped, going, ← opened]

theorem accept_tally {later : Crawl Tally} {entry : Entry}
    (accepted : crawl.accept entry = some later)
    (opened : crawl.desk.store.database.isOpen = true) :
    later.desk = { crawl.desk with
      store := ⟨{ crawl.desk.store.database with
        tables := crawl.desk.store.database.tables.upsert entry },
        crawl.desk.store.emitted + 1⟩ } := by
  simp only [accept, Sink.accept, Database.accept, Database.upsert, Database.update, opened,
    if_true, Bool.false_eq_true, if_false, Option.some.injEq] at accepted
  simp [← accepted, log, opened]

theorem finish_tally (root : Root) (opened : crawl.desk.store.database.isOpen = true) :
    (crawl.finish root).desk.store =
      ⟨{ crawl.desk.store.database with
        tables := crawl.desk.store.database.tables.mark root }, crawl.desk.store.emitted⟩ := by
  simp [finish, Desk.finish, RootStore.markResolved, Database.markResolved, Database.update, opened,
    Except.map, log, note]

end Crawl

namespace Walk

variable (walk : Walk) (setting : Setting) {crawl : Crawl Tally}

theorem step_tally (going : crawl.stopped = false) (elder : crawl.elder = none)
    (opened : crawl.desk.store.database.isOpen = true) :
    (walk.step setting crawl).crawl.desk.store =
      ⟨⟨crawl.desk.store.database.medium,
          crawl.desk.store.database.tables.upsertAll
            (Deed.handed (walk.deed? setting crawl).toList),
          !(walk.step setting crawl).crawl.stopped⟩,
        crawl.desk.store.emitted + (Deed.handed (walk.deed? setting crawl).toList).length⟩ := by
  have outcome := step_outcome walk setting crawl
  generalize walk.step setting crawl = turn at outcome
  have idles : ⟨⟨crawl.desk.store.database.medium, crawl.desk.store.database.tables,
      !crawl.stopped⟩, crawl.desk.store.emitted⟩ = crawl.desk.store := by
    rw [going, Bool.not_false, ← opened]
  cases outcome with
  | broken fetching panics =>
    rw [deed?_fetching setting crawl fetching]
    exact Crawl.request_tally setting.web _ going elder opened
  | opened fetching staged =>
    rw [deed?_fetching setting crawl fetching]
    exact Crawl.request_tally setting.web _ going elder opened
  | unopened notices fetching unstaged =>
    rw [deed?_fetching setting crawl fetching]
    exact Crawl.request_tally setting.web _ going elder opened
  | ending idle frames candidates =>
    have silent : walk.deed? setting crawl = none := by simp [deed?, idle, frames]
    rw [silent]
    exact idles.symm
  | @met location next idle meets =>
    obtain ⟨notices, noted⟩ := visit_note next location crawl
    rw [deed?_meets setting crawl idle meets]
    simp only [Turn.crawl, noted, Crawl.note_desk, Crawl.note_stopped]
    exact idles.symm
  | @handed frame outer entry rest later idle frames pending accepted =>
    have desk := Crawl.accept_tally accepted opened
    have still : later.stopped = false := by
      unfold Crawl.stopped
      rw [desk]
      exact going
    rw [deed?_entry setting crawl idle frames pending]
    simp only [Turn.crawl, desk, still, Bool.not_false, ← opened]
    rfl
  | @refused frame outer entry rest idle frames pending panics =>
    obtain ⟨other, taken, -⟩ := Crawl.accept_steady (Tally.steady _) entry
    rw [taken] at panics
    cases panics
  | told notices idle frames pending quiet =>
    rw [deed?_quiet setting crawl idle frames (pending_quiet pending quiet)]
    exact idles.symm
  | left notices idle frames pending reason =>
    rw [deed?_quiet setting crawl idle frames (by simp [pending])]
    exact idles.symm
  | read ended idle frames pending more going' next =>
    rw [deed?_quiet setting crawl idle frames (by simp [pending])]
    exact idles.symm

end Walk

namespace Job

variable (job : Job) (setting : Setting) {crawl : Crawl Tally} (phase : Phase)

def marks (job : Job) : Phase → Tables → Tables
  | .finishing _, tables => tables.mark job.root
  | _, tables => tables

theorem step_tally (going : crawl.stopped = false) (elder : crawl.elder = none)
    (opened : crawl.desk.store.database.isOpen = true) :
    (job.step setting phase crawl).2.desk.store =
      ⟨⟨crawl.desk.store.database.medium,
          job.marks phase (crawl.desk.store.database.tables.upsertAll
            (Deed.handed (job.deeds setting phase crawl))),
          !(job.step setting phase crawl).2.stopped⟩,
        crawl.desk.store.emitted +
          (Deed.handed (job.deeds setting phase crawl)).length⟩ := by
  have idles : ⟨⟨crawl.desk.store.database.medium, crawl.desk.store.database.tables,
      !crawl.stopped⟩, crawl.desk.store.emitted⟩ = crawl.desk.store := by
    rw [going, Bool.not_false, ← opened]
  cases phase with
  | asking =>
    simp only [step, deeds]
    split <;> exact idles.symm
  | entering =>
    simp only [step, deeds, Crawl.enter_store, Crawl.enter_stopped]
    exact idles.symm
  | gathering =>
    obtain ⟨notices, gathered⟩ := gather_note job setting crawl
    simp only [step, gathered, deeds, opening_handed, Crawl.note_desk, Crawl.note_stopped]
    split
    · exact Crawl.request_tally setting.web _ going elder opened
    · exact idles.symm
  | walking walk =>
    have kept := walk.step_tally setting going elder opened
    simp only [step, deeds]
    split
    · rename_i after later turn
      rwa [turn] at kept
    · rename_i visited later turn
      rwa [turn] at kept
    · rename_i later turn
      rwa [turn] at kept
  | closing visited =>
    simp only [step, deeds, going]
    exact idles.symm
  | finishing visited =>
    have still := (Crawl.finish_stopped crawl job.root).trans going
    simp only [step, deeds, Crawl.info, Crawl.note_desk, Crawl.note_stopped, still,
      Crawl.finish_tally job.root opened, Bool.not_false, ← opened]
    rfl
  | dropping panics => exact idles.symm
  | done => exact idles.symm
  | panicked => exact idles.symm

/-- Once the database is closed, nothing that a job does is seen in it. -/
theorem step_closed (shut : crawl.desk.store.database.isOpen = false) :
    (job.step setting phase crawl).2.desk.store.database = crawl.desk.store.database := by
  cases phase with
  | entering => simp only [step, Crawl.enter_store]
  | finishing visited =>
    rcases Crawl.finish_store crawl job.root with marked | ⟨-, same⟩
    · simp [RootStore.markResolved, Database.markResolved, Database.update, shut, Except.map]
        at marked
    · exact congrArg Tally.database same
  | dropping panics => rfl
  | _ => exact (step_drift job setting crawl rfl).1.store.closed_database shut

end Job

namespace Duty

def Placed (place : Place) : Duty → Prop
  | .resolving _ phase => phase.Placed place
  | .polling | .picking | .idle | .lost => True

def isSound : Duty → Bool
  | .resolving _ phase => phase.isSound
  | .lost => false
  | .polling | .picking | .idle => true

theorem over_idle {duty : Duty} (ended : duty.isOver = true) (unbroken : duty.isSound = true) :
    duty = .idle := by
  cases duty with
  | idle => rfl
  | lost => cases unbroken
  | _ => cases ended

end Duty

namespace Shift

/-- A worker in a sound web, over a disk that stays like the one at the start. -/
structure Sound (setting : Setting) (disk : Disk) (shift : Shift Tally) : Prop where
  unbroken : shift.duty.isSound = true
  placed : shift.duty.Placed setting.staging.place
  alike : disk.Alike setting.staging.place shift.crawl.disk
  elder : shift.crawl.elder = none

theorem Sound.step {setting : Setting} {disk : Disk} {shift : Shift Tally} (id : Nat)
    (sound : setting.web.Sound) (before : shift.Sound setting disk) :
    (shift.step setting id).Sound setting disk := by
  have outcome := step_outcome setting id shift
  generalize shift.step setting id = after at outcome
  cases outcome with
  | retired notices polling stopped => exact ⟨rfl, trivial, before.alike, before.elder⟩
  | looked polling going => exact ⟨rfl, trivial, before.alike, before.elder⟩
  | spent picking none => exact ⟨rfl, trivial, before.alike, before.elder⟩
  | took picking waiting => exact ⟨rfl, trivial, before.alike, before.elder⟩
  | returned resolving => exact ⟨rfl, trivial, before.alike, before.elder⟩
  | @worked job phase resolving more =>
    obtain ⟨unbroken, placed, alike, elder⟩ := before
    rw [resolving] at unbroken placed
    obtain ⟨still, inside⟩ := job.step_alike shift.crawl placed
    exact ⟨Job.step_sound sound (Tally.steady _) unbroken, inside, alike.trans still,
      Job.step_elder elder⟩
  | broke resolving =>
    have unbroken := before.unbroken
    rw [resolving] at unbroken
    cases unbroken
  | rested ended => exact before

theorem step_going {setting : Setting} {shift : Shift Tally} (id : Nat) (calm : setting.web.Calm) :
    (shift.step setting id).crawl.stopped = shift.crawl.stopped := by
  have outcome := step_outcome setting id shift
  generalize shift.step setting id = after at outcome
  cases outcome with
  | worked resolving more => exact Job.step_going calm (Tally.steady _)
  | _ => rfl

theorem step_opened {setting : Setting} {shift : Shift Tally} (id : Nat)
    (going : shift.crawl.stopped = false) (elder : shift.crawl.elder = none)
    (opened : shift.crawl.desk.store.database.isOpen = true)
    (still : (shift.step setting id).crawl.stopped = false) :
    (shift.step setting id).crawl.desk.store.database.isOpen = true := by
  have outcome := step_outcome setting id shift
  generalize shift.step setting id = after at outcome still
  cases outcome with
  | worked resolving more =>
    simp only at still ⊢
    rw [Job.step_tally _ setting _ going elder opened, still]
    rfl
  | _ => exact opened

end Shift

theorem Team.none_lost {team : Team Tally} (unbroken : ∀ duty ∈ team.duties, duty.isSound = true) :
    team.lost = 0 := by
  apply List.countP_eq_zero.mpr
  intro duty member
  have sound := unbroken duty member
  cases duty with
  | lost => cases sound
  | _ => exact Bool.false_ne_true

end Sitemaps
