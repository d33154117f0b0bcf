import Sitemaps.Proofs.Course
import Sitemaps.Proofs.Lockstep

/-!
A panic leaves nothing half-claimed. Guard, record and files are as they were before the call, and
a later call does what it would have done without.
-/

namespace Sitemaps

open Sitemap

/-- A record with a sink of its own beside it. -/
structure Attached (σ ι : Type) where
  record : σ
  sink : ι

namespace Attached

variable {σ ι : Type}

instance [RootStore σ] : RootStore (Attached σ ι) where
  isResolved both := RootStore.isResolved both.record
  markResolved both root :=
    (RootStore.markResolved both.record root).map ({ both with record := · })
  close both := (RootStore.close both.record).map ({ both with record := · })
  isClosed both := RootStore.isClosed both.record

instance [Sink ι] : Sink (Attached σ ι) where
  accept both page :=
    match Sink.accept both.sink page with
    | .panicked => .panicked
    | .kept sink notices stops => .kept { both with sink := sink } notices stops

end Attached

/-- Two sinks that take whatever comes alike: they panic together and ask for a stop together. -/
def Sink.Alike {ι : Type} [Sink ι] (one other : ι) : Prop :=
  ∃ same : ι → ι → Prop, same one other ∧
    ∀ one other, same one other → ∀ page, Takes same True (Sink.accept one page)
      (Sink.accept other page)

namespace Sink.Alike

variable {ι : Type} [Sink ι] {one other : ι}

theorem refl (sink : ι) : Alike sink sink := by
  refine ⟨Eq, rfl, ?_⟩
  rintro one _ rfl page
  cases Sink.accept one page with
  | panicked => exact .panicked
  | kept sink notices stops => exact .kept rfl fun _ => trivial

theorem taken (alike : Alike one other) (page : Entry) :
    Takes Alike True (Sink.accept one page) (Sink.accept other page) := by
  obtain ⟨same, start, kept⟩ := alike
  have taken := kept one other start page
  generalize Sink.accept one page = first at taken ⊢
  generalize Sink.accept other page = second at taken ⊢
  cases taken with
  | panicked => exact .panicked
  | kept still may => exact .kept ⟨same, still, kept⟩ may

end Sink.Alike

theorem Tally.alike (one other : Tally) : Sink.Alike one other :=
  ⟨fun _ _ => True, trivial, fun _ _ _ _ => .kept trivial fun _ => trivial⟩

theorem Answers.map {σ τ : Type} {like : σ → σ → Prop} {other : τ → τ → Prop} {f g : σ → τ}
    {one two : Except StoreFault σ} (answers : Answers like one two)
    (keeps : ∀ {a b}, like a b → other (f a) (g b)) : Answers other (one.map f) (two.map g) := by
  cases answers with
  | stores same => exact .stores (keeps same)
  | faults => exact .faults

/-- The crawl for a call with a sink of its own. -/
def Crawl.attach {σ ι : Type} (crawl : Crawl σ) (sink : ι) : Crawl (Attached σ ι) :=
  ⟨⟨crawl.desk.guard, ⟨crawl.desk.store, sink⟩⟩, crawl.elder, crawl.disk, crawl.journal⟩

theorem Desk.deactivate_claimed {before after : Guard} {root : Root}
    (unheld : root ∉ before.active) (active : after.active = root :: before.active)
    (finished : after.finished = before.finished) (stopped : after.stopped = before.stopped) :
    deactivate after root = before := by
  have others : ∀ other ∈ before.active, (other != root) = true := by
    intro other member
    rw [bne_iff_ne]
    rintro rfl
    exact unheld member
  obtain ⟨held, done, stop⟩ := before
  obtain ⟨_, _, _⟩ := after
  simp only at active finished stopped others
  subst active finished stopped
  simp only [deactivate, List.filter_cons, bne_self_eq_false, Bool.false_eq_true, if_false,
    List.filter_eq_self.mpr others]

/-- What a call leaves behind that is undone. -/
structure Crawl.Restored {σ : Type} [RootStore σ] [LawfulStore σ] (place : Place)
    (before after : Crawl σ) : Prop where
  guard : after.desk.guard = before.desk.guard
  elder : after.elder = before.elder
  store : LawfulStore.Alike before.desk.store after.desk.store
  files : after.disk.files = before.disk.files
  disk : before.disk.Alike place after.disk

namespace Job

variable {σ : Type} [RootStore σ] [Sink σ] (job : Job) (setting : Setting)

/-- A call that panics: on its way, or where it is asked for its explicit locations, whatever it
did to find them. -/
inductive Panics (crawl : Crawl σ) : Crawl σ → Prop
  | underway {after : Crawl σ} (ends : job.run setting crawl = (.panicked, after)) :
      Panics crawl after
  | gathering {asked later : Crawl σ} (reached : job.after setting crawl 2 = (.gathering, asked))
      (did : asked.Drift later) (disk : later.disk = asked.disk) :
      Panics crawl (job.runFrom setting (.dropping true) later).2

structure Claimed (before : Crawl σ) (files : List File) (crawl : Crawl σ) : Prop where
  free : (before.desk.isTaken job.root).1 = false
  drift : (before.enter job.root).2.Drift crawl
  files : crawl.disk.files = files ++ before.disk.files
  disk : before.disk.Alike setting.staging.place crawl.disk

/-- What there is to be undone if a call panics. -/
def Undoes (before crawl : Crawl σ) : Phase → Prop
  | .asking | .entering => crawl = before
  | .gathering | .dropping true => job.Claimed setting before [] crawl
  | .walking walk => job.Claimed setting before walk.files crawl ∧
    ∀ frame ∈ walk.frames, frame.file.directory = setting.staging.place
  | .panicked => ∃ last, job.Claimed setting before [] last ∧ crawl = last.drop job.root
  | .closing _ | .finishing _ | .dropping false | .done => True

variable {job setting} {before crawl later : Crawl σ} {files : List File} {phase : Phase}

theorem Claimed.drifted (claimed : job.Claimed setting before files crawl)
    (drift : crawl.Drift later) {left : List File}
    (same : later.disk.files = left ++ before.disk.files)
    (alike : crawl.disk.Alike setting.staging.place later.disk) :
    job.Claimed setting before left later :=
  ⟨claimed.free, claimed.drift.trans drift, same, claimed.disk.trans alike⟩

theorem claimed_enter (granted : (crawl.enter job.root).1 = true) :
    job.Claimed setting crawl [] (crawl.enter job.root).2 := by
  rcases crawl.enter_outcome job.root with ⟨-, refused, -⟩ | ⟨free, -, -⟩
  · rw [refused] at granted
    cases granted
  · have disk := (crawl.enter_rest job.root).2
    exact ⟨free, .refl _, by rw [disk]; rfl, by rw [disk]; exact .refl _ _⟩

theorem undoes_step (undoes : job.Undoes setting before crawl phase) :
    job.Undoes setting before (job.step setting phase crawl).2
      (job.step setting phase crawl).1 := by
  cases phase with
  | asking =>
    simp only [step]
    split
    · trivial
    · exact undoes
  | entering =>
    have same : crawl = before := undoes
    subst same
    simp only [step]
    split
    · rename_i granted
      exact claimed_enter granted
    · trivial
  | gathering =>
    have claimed : job.Claimed setting before [] crawl := undoes
    have disk := gather_disk job setting crawl
    have gathered := claimed.drifted (gather_drift job setting crawl) (disk ▸ claimed.files)
      (disk ▸ .refl _ _)
    simp only [step, gather_phase]
    split
    · exact gathered
    · exact ⟨gathered, List.forall_mem_nil _⟩
  | walking walk =>
    obtain ⟨claimed, placed⟩ := undoes
    have drift := Walk.step_drift walk setting crawl
    have files := Walk.step_files setting claimed.files
    obtain ⟨alike, laid⟩ := Walk.step_alike crawl placed
    simp only [step]
    split
    · rename_i after later turn
      rw [turn] at drift files alike
      exact ⟨claimed.drifted drift files alike, laid after later turn⟩
    · trivial
    · rename_i later turn
      rw [turn] at drift files alike
      exact claimed.drifted drift files alike
  | closing visited =>
    simp only [step]
    split <;> trivial
  | finishing visited => exact True.intro
  | dropping panics =>
    cases panics with
    | true => exact ⟨crawl, undoes, rfl⟩
    | false => exact True.intro
  | done => exact True.intro
  | panicked => exact undoes

variable [LawfulSink σ]

theorem Claimed.restored (claimed : job.Claimed setting before [] crawl)
    (alone : before.elder = none) (going : crawl.stopped = false) :
    before.Restored setting.staging.place (crawl.drop job.root) := by
  obtain ⟨free, drift, files, disk⟩ := claimed
  obtain ⟨elder, -⟩ := before.enter_rest job.root
  rw [alone] at elder
  refine ⟨?_, (drift.elder elder).trans alone.symm, ?_, files, disk⟩
  · have entered : (before.enter job.root).2.desk = before.desk.activate job.root := by
      rcases before.enter_outcome job.root with ⟨taken, -, -⟩ | ⟨-, -, active⟩
      · rw [free] at taken
        cases taken
      · exact active
    have unheld : job.root ∉ before.desk.guard.active := by
      intro held
      rw [(before.desk.isTaken_iff job.root).mpr (Or.inl held)] at free
      cases free
    have unstopped : before.stopped = false := by
      apply Bool.eq_false_iff.mpr
      intro stopped
      rw [drift.stopped ((before.enter_stopped job.root).trans stopped)] at going
      cases going
    have active := drift.active
    have finished := drift.finished
    rw [entered] at active finished
    rw [Crawl.drop_desk]
    exact Desk.deactivate_claimed unheld active finished (going.trans unstopped.symm)
  · have never : ¬ (crawl.stopped = true ∨ (before.enter job.root).2.elder ≠ none) := by
      rw [going, elder]
      simp
    have closed := drift.store.isClosed never
    have holds := drift.store.holds
    rw [before.enter_store] at closed
    simp only [before.enter_store] at holds
    exact ⟨closed, holds⟩

theorem Panics.restored (panics : job.Panics setting before later) (alone : before.elder = none)
    (going : later.stopped = false) : before.Restored setting.staging.place later := by
  have undone {last : Crawl σ} (claimed : job.Claimed setting before [] last)
      (same : later = last.drop job.root) : before.Restored setting.staging.place later := by
    subst same
    exact claimed.restored alone going
  cases panics with
  | underway ends =>
    obtain ⟨undoes, -⟩ := job.runFrom_keeps setting
      (fun phase crawl => job.Undoes setting before crawl phase) (fun _ _ => undoes_step)
      .asking before rfl
    have run : job.runFrom setting .asking before = (.panicked, later) := ends
    rw [run] at undoes
    obtain ⟨last, claimed, same⟩ := undoes
    exact undone claimed same
  | @gathering asked did_later reached did disk =>
    have undoes : job.Undoes setting before (job.after setting before 2).2
        (job.after setting before 2).1 :=
      job.after_keeps setting (fun phase crawl => job.Undoes setting before crawl phase)
        (fun _ _ => undoes_step) rfl 2
    rw [reached] at undoes
    have claimed : job.Claimed setting before [] asked := undoes
    have dropped : job.runFrom setting (.dropping true) did_later =
        (.panicked, did_later.drop job.root) := by
      rw [← job.runFrom_step]
      unfold Job.runFrom
      rfl
    refine undone (claimed.drifted did (disk ▸ claimed.files) (disk ▸ .refl _ _)) ?_
    rw [dropped]

end Job

section Retrials

variable {σ ι : Type} [RootStore σ] [LawfulStore σ] [Sink ι]

/-- Two calls under one setting, over records that hold the same and sinks that are alike, in a web
where every location always answers the same. -/
def Pairing.retrial (setting : Setting) (first second : Crawl (Attached σ ι))
    (steady : ∀ location count, setting.web.answer location count = setting.web.answer location 0)
    (closing : ∀ {one other : σ}, LawfulStore.Alike one other →
      Answers LawfulStore.Alike (RootStore.close one) (RootStore.close other)) :
    Pairing (Attached σ ι) where
  setting := setting
  narrow := setting.scope
  first := first
  second := second
  like one other := LawfulStore.Alike one.record other.record ∧ Sink.Alike one.sink other.sink
  told one other := LawfulStore.Alike one.record other.record
  stops := True
  within := .refl _
  answers location fetched := (steady location _).trans (steady location _).symm
  called _ _ _ := trivial
  shown same := same.1
  read same root := same.read root
  marked same root := (same.1.marked root).map id
  closed same _ := (closing same.1).map fun alike => ⟨alike, same.2⟩
  taken {one other} same entry := by
    have taken := same.2.taken entry
    simp only [Sink.accept]
    generalize Sink.accept one.sink entry = first at taken ⊢
    generalize Sink.accept other.sink entry = second at taken ⊢
    cases taken with
    | panicked => exact .panicked
    | kept still may => exact .kept ⟨same.1, still⟩ may
  skipped _ _ _ passes fails := by
    rw [passes] at fails
    cases fails

end Retrials

theorem Web.Calm.steady {web : Web} (calm : web.Calm) (constant : web.Constant) (location : String)
    (count : Nat) : web.answer location count = web.answer location 0 := by
  have result := constant location count
  obtain ⟨stops, panics⟩ := calm location count
  obtain ⟨still, also⟩ := calm location 0
  generalize web.answer location count = answer at result stops panics ⊢
  generalize web.answer location 0 = first at result still also ⊢
  obtain ⟨_, _, _⟩ := answer
  obtain ⟨_, _, _⟩ := first
  cases result
  cases stops.trans still.symm
  cases panics.trans also.symm
  rfl

namespace Job

variable {σ : Type} [RootStore σ] [Sink σ] [LawfulSink σ]

/-- A call that panicked while no stop was requested. Every root is in the state it was in before,
the record holds the same roots, the same files are there; and any later call, with a sink of its
own and in a web where every location always answers the same, fetches, hands over and marks what it
would have without the panic. -/
theorem panic_undone (job : Job) (setting : Setting) {crawl after : Crawl σ}
    (panics : job.Panics setting crawl after) (alone : crawl.elder = none)
    (going : after.stopped = false) :
    (∀ root, (after.desk.state root).1 = (crawl.desk.state root).1) ∧
    (∀ root, LawfulStore.holds after.desk.store root = LawfulStore.holds crawl.desk.store root) ∧
    RootStore.isClosed after.desk.store = RootStore.isClosed crawl.desk.store ∧
    after.disk.files = crawl.disk.files ∧
    ∀ {ι : Type} [Sink ι] (sink other : ι) (next : Job) (web : Web), Sink.Alike sink other →
      (∀ location count, web.answer location count = web.answer location 0) →
      (∀ {one other : σ}, LawfulStore.Alike one other →
        Answers LawfulStore.Alike (RootStore.close one) (RootStore.close other)) →
      let fresh := next.run { setting with web := web } (crawl.attach sink)
      let again := next.run { setting with web := web } (after.attach other)
      again.1 = fresh.1 ∧
      (∃ fetched, fresh.2.journal.fetched = crawl.journal.fetched ++ fetched ∧
        again.2.journal.fetched = after.journal.fetched ++ fetched) ∧
      (∃ accepted, fresh.2.journal.accepted = crawl.journal.accepted ++ accepted ∧
        again.2.journal.accepted = after.journal.accepted ++ accepted) ∧
      (∀ root, (again.2.desk.state root).1 = (fresh.2.desk.state root).1) ∧
      ∀ root, LawfulStore.holds again.2.desk.store.record root =
        LawfulStore.holds fresh.2.desk.store.record root := by
  have restored := panics.restored alone going
  refine ⟨fun root => Desk.state_same restored.guard (restored.store.read root),
    restored.store.holds, restored.store.closed, restored.files, ?_⟩
  intro ι _ sink other next web alike steady closing fresh again
  let pairing := Pairing.retrial { setting with web := web } (crawl.attach sink)
    (after.attach other) steady closing
  have start : pairing.Abreast [] .asking .asking pairing.first pairing.second :=
    pairing.start restored.guard restored.elder ⟨restored.store, alike⟩ restored.disk
  obtain ⟨ends, level⟩ := Pairing.run_abreast next start
  -- both scopes are the same, so nothing is left out
  have all : (next.credits pairing.setting pairing.first).filter pairing.keeps =
      next.credits pairing.setting pairing.first :=
    List.filter_eq_self.mpr (Pairing.creditsFrom_pass next start)
  have selected := level.selected
  rw [all] at selected
  exact ⟨ends, level.fetched, ⟨_, level.handed, selected⟩, fun root => level.state root,
    level.store.holds⟩

def nest : Setting := .ofTexts [
  ("http://a/i.xml", "<i><sitemap><loc>http://a/s.xml</loc></sitemap></i>"),
  ("http://a/s.xml", "<url><loc>http://a/p</loc></url>")]

def indexed : Job := ⟨⟨"http://a"⟩, ["http://a/i.xml"], true, false⟩

theorem panic_undone_nested :
    let crawl : Crawl (Listener MemoryStore) := .start ⟨⟨[], false⟩, 0, none, some 1⟩ .empty
    let sink : Listener Unit := ⟨(), 0, none, none⟩
    let after := (indexed.run nest crawl).2
    let again := indexed.run nest (after.attach sink)
    (indexed.run nest crawl).1 = .panicked ∧ after.stopped = false ∧
    after.journal.fetched = ["http://a/i.xml", "http://a/s.xml"] ∧ after.disk.files = [] ∧
    (∀ root, (after.desk.state root).1 = (crawl.desk.state root).1) ∧
    again.2.journal.fetched = after.journal.fetched ++ ["http://a/i.xml", "http://a/s.xml"] := by
  intro crawl sink after again
  have ran : indexed.run nest crawl = indexed.after nest crawl 19 :=
    run_after indexed _ (by decide +kernel)
  have told : (match (indexed.after nest crawl 19).1 with
      | .panicked => true
      | _ => false) = true := by decide +kernel
  have broke : (indexed.run nest crawl).1 = .panicked := by
    rw [ran]
    generalize (indexed.after nest crawl 19).1 = phase at told ⊢
    cases phase with
    | panicked => rfl
    | _ => cases told
  have going : after.stopped = false := by
    change (indexed.run nest crawl).2.stopped = false
    rw [ran]
    decide +kernel
  have asked : after.journal.fetched = ["http://a/i.xml", "http://a/s.xml"] := by
    change (indexed.run nest crawl).2.journal.fetched = _
    rw [ran]
    decide +kernel
  have panics : indexed.Panics nest crawl after := .underway (Prod.ext broke rfl)
  obtain ⟨states, -, -, files, later⟩ := panic_undone indexed nest panics rfl going
  have steady : ∀ location count, nest.web.answer location count = nest.web.answer location 0 :=
    (Web.ofTexts_calm _).steady (Web.ofTexts_constant _)
  have closing : ∀ {one other : Listener MemoryStore}, LawfulStore.Alike one other →
      Answers LawfulStore.Alike (RootStore.close one) (RootStore.close other) :=
    fun alike => .stores ⟨rfl, alike.holds⟩
  obtain ⟨-, ⟨fetched, fresh, also⟩, -⟩ :=
    later sink sink indexed nest.web (.refl sink) steady closing
  have first : indexed.run nest (crawl.attach sink) =
      indexed.after nest (crawl.attach sink) 27 := run_after indexed _ (by decide +kernel)
  have due : fetched = ["http://a/i.xml", "http://a/s.xml"] := by
    have found : (indexed.run nest (crawl.attach sink)).2.journal.fetched = fetched := fresh
    rw [← found, first]
    decide +kernel
  rw [due] at also
  exact ⟨broke, going, asked, files, states, also⟩

end Job

end Sitemaps
