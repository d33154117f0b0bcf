import Sitemaps.Proofs.Course

/-!
A stop and the roots that the record holds. Entering asks for the stop flag first and looks for the
root afterwards, under the lock; a stop raises the flag and closes the record without it. Nobody
else comes in while the lock is held, and of a stop only the closing of the record matters there,
which falls before the record is asked or after. So the locked part is one moment, and the flag
another.
-/

namespace Sitemaps

section Guarding

variable {σ : Type} [RootStore σ] [Sink σ] [lawful : LawfulSink σ]

/-- The record holds the root, and is open as long as no stop was requested. -/
structure Crawl.Vaults (root : Root) (crawl : Crawl σ) : Prop where
  elder : crawl.elder = none
  held : lawful.holds crawl.desk.store root = true
  opened : crawl.stopped = false → RootStore.isClosed crawl.desk.store = false

namespace Crawl.Vaults

variable {root : Root} {crawl after : Crawl σ}

theorem start (store : σ) (disk : Disk)
    (resolved : RootStore.isResolved store root = .ok true) :
    (Crawl.start store disk).Vaults root := by
  rw [lawful.read] at resolved
  split at resolved
  · cases resolved
  · rename_i opened
    exact ⟨rfl, Except.ok.inj resolved, fun _ => Bool.eq_false_iff.mpr opened⟩

theorem drift (vaults : crawl.Vaults root) (drift : crawl.Drift after) : after.Vaults root := by
  refine ⟨drift.elder vaults.elder, ?_, ?_⟩
  · rw [drift.store.holds]
    exact vaults.held
  · intro going
    have calm : crawl.stopped = false := by
      apply Bool.eq_false_iff.mpr
      intro stopped
      rw [drift.stopped stopped] at going
      cases going
    have never : ¬ (after.stopped = true ∨ crawl.elder ≠ none) := by simp [going, vaults.elder]
    rw [drift.store.isClosed never]
    exact vaults.opened calm

theorem finish (vaults : crawl.Vaults root) (other : Root) : (crawl.finish other).Vaults root := by
  have stopped : (crawl.finish other).stopped = crawl.stopped := crawl.finish_stopped other
  rcases crawl.finish_store other with marked | ⟨-, same⟩
  · obtain ⟨-, opened, holds⟩ := lawful.marked marked
    refine ⟨vaults.elder, ?_, fun _ => opened⟩
    rw [holds, vaults.held, Bool.or_true]
  · refine ⟨vaults.elder, ?_, ?_⟩
    · rw [same]
      exact vaults.held
    · rw [same, stopped]
      exact vaults.opened

theorem step (vaults : crawl.Vaults root) (job : Job) (setting : Setting) (phase : Phase) :
    (job.step setting phase crawl).2.Vaults root := by
  cases phase with
  | entering =>
    refine ⟨(crawl.enter_rest job.root).1.trans vaults.elder, ?_, ?_⟩
    · simp only [Job.step, Crawl.enter_store]
      exact vaults.held
    · simp only [Job.step, Crawl.enter_store, Crawl.enter_stopped]
      exact vaults.opened
  | finishing visited =>
    have finished := vaults.finish job.root
    exact ⟨finished.elder, finished.held, finished.opened⟩
  | dropping panics => exact ⟨vaults.elder, vaults.held, vaults.opened⟩
  | _ => exact vaults.drift (Job.step_drift job setting crawl rfl).1

end Crawl.Vaults

end Guarding

theorem Job.step_entering {σ : Type} [RootStore σ] [Sink σ] (job : Job) (setting : Setting)
    (phase : Phase) (crawl : Crawl σ) (entering : (job.step setting phase crawl).1 = .entering) :
    crawl.stopped = false ∧ (job.step setting phase crawl).2 = crawl := by
  cases phase with
  | asking =>
    simp only [step] at entering ⊢
    split at entering
    · cases entering
    · rename_i going
      exact ⟨Bool.eq_false_iff.mpr going, by simp [going]⟩
  | entering =>
    simp only [step] at entering
    split at entering <;> cases entering
  | gathering =>
    have gathered := gather_phase job setting crawl
    simp only [step] at entering
    rw [entering] at gathered
    split at gathered <;> cases gathered
  | walking walk =>
    simp only [step] at entering
    split at entering <;> cases entering
  | closing visited =>
    simp only [step] at entering
    split at entering <;> cases entering
  | finishing visited => cases entering
  | dropping panics => cases panics <;> cases entering
  | done => cases entering
  | panicked => cases entering

namespace Pool

variable {σ : Type}

/-- A call that found no stop flag and now looks for its root, under the lock. -/
def Enters (root : Root) (pool : Pool σ) (index : Nat) : Prop :=
  ∃ call, pool.calls[index]? = some call ∧ call.phase = .entering ∧ call.job.root = root

variable [RootStore σ] [Sink σ]

/-- The call gets the claim on its root when it acts next. -/
def Grants (root : Root) (pool : Pool σ) (index : Nat) : Prop :=
  pool.Enters root index ∧ ∃ call, (pool.act index).calls[index]? = some call ∧
    call.phase = .gathering

theorem Grants.claim {root : Root} {pool : Pool σ} {index : Nat} (grants : pool.Grants root index) :
    (pool.crawl.desk.claim root).1 = true := by
  obtain ⟨⟨call, found, phase, rfl⟩, after, now, gathering⟩ := grants
  have entered : (pool.crawl.enter call.job.root).1 = (pool.crawl.desk.claim call.job.root).1 := rfl
  cases granted : (pool.crawl.desk.claim call.job.root).1 with
  | true => rfl
  | false =>
    simp only [act, found, phase, Job.step, entered, granted] at now
    rw [set_self _ found] at now
    cases now
    cases gathering

theorem act_enters {root : Root} {pool : Pool σ} {index other : Nat}
    (enters : (pool.act other).Enters root index) :
    pool.Enters root index ∨ (pool.act other).crawl.stopped = false := by
  obtain ⟨call, found, entering, same⟩ := enters
  cases acting : pool.calls[other]? with
  | none =>
    simp only [act, acting] at found
    exact Or.inl ⟨call, found, entering, same⟩
  | some actor =>
    simp only [act, acting] at found ⊢
    rcases set_found found with ⟨rfl, rfl⟩ | ⟨-, before⟩
    · obtain ⟨going, unmoved⟩ := Job.step_entering _ _ _ _ entering
      right
      rw [unmoved]
      exact going
    · exact Or.inl ⟨call, before, entering, same⟩

theorem move_enters {root : Root} {pool : Pool σ} {index : Nat} (moment : Moment)
    (enters : (pool.move moment).Enters root index) :
    pool.Enters root index ∨ (pool.move moment).crawl.stopped = false := by
  cases moment with
  | act other => exact act_enters enters
  | raise => exact Or.inl enters
  | close => exact Or.inl enters

/-- A call that enters did so in some moment already in which no stop was requested. -/
theorem play_enters {root : Root} {index : Nat} (moments : List Moment) (pool : Pool σ)
    (outside : ¬ pool.Enters root index) (enters : (pool.play moments).Enters root index) :
    ∃ earlier later, moments = earlier ++ later ∧ (pool.play earlier).Enters root index ∧
      (pool.play earlier).crawl.stopped = false := by
  induction moments generalizing pool with
  | nil => exact absurd enters outside
  | cons moment rest ih =>
    by_cases now : (pool.move moment).Enters root index
    · refine ⟨[moment], rest, rfl, now, ?_⟩
      exact (move_enters moment now).resolve_left outside
    · obtain ⟨earlier, later, split, entered, going⟩ := ih (pool.move moment) now enters
      exact ⟨moment :: earlier, later, by rw [split]; rfl, entered, going⟩

omit [RootStore σ] [Sink σ] in
theorem gather_enters (calls : List (Setting × Job)) (store : σ) (disk : Disk) (root : Root)
    (index : Nat) : ¬ (gather calls store disk).Enters root index := by
  rintro ⟨call, found, entering, -⟩
  simp only [gather, List.getElem?_map, Option.map_eq_some_iff] at found
  obtain ⟨named, -, rfl⟩ := found
  cases entering

variable [lawful : LawfulSink σ]

theorem move_vaults {root : Root} (pool : Pool σ) (moment : Moment)
    (vaults : pool.crawl.Vaults root) : (pool.move moment).crawl.Vaults root := by
  cases moment with
  | act index =>
    simp only [move, act]
    split
    · exact vaults
    · exact vaults.step _ _ _
  | raise => exact vaults.drift (Crawl.raise_drift pool.crawl)
  | close => exact vaults.drift (Crawl.closeAfterStop_drift pool.crawl)

theorem grants_iff {root : Root} {pool : Pool σ} {index : Nat} (vaults : pool.crawl.Vaults root) :
    pool.Grants root index ↔ pool.Enters root index ∧
      RootStore.isClosed pool.crawl.desk.store = true ∧
      root ∉ pool.crawl.desk.guard.active ∧ root ∉ pool.crawl.desk.guard.finished := by
  have free : (pool.crawl.desk.isTaken root).1 = false ↔
      RootStore.isClosed pool.crawl.desk.store = true ∧
      root ∉ pool.crawl.desk.guard.active ∧ root ∉ pool.crawl.desk.guard.finished := by
    rw [Bool.eq_false_iff, ne_eq, Desk.isTaken_iff, Desk.recorded_eq, vaults.held]
    simp only [Bool.and_true, Bool.not_eq_true', not_or, Bool.not_eq_false]
    constructor
    · rintro ⟨unclaimed, unfinished, shut⟩
      exact ⟨shut, unclaimed, unfinished⟩
    · rintro ⟨shut, unclaimed, unfinished⟩
      exact ⟨unclaimed, unfinished, shut⟩
  rw [← free]
  constructor
  · intro grants
    refine ⟨grants.1, ?_⟩
    rcases pool.crawl.desk.claim_outcome root with ⟨-, refused, -⟩ | ⟨free, -, -⟩
    · rw [grants.claim] at refused
      cases refused
    · exact free
  · rintro ⟨⟨call, found, phase, rfl⟩, free⟩
    refine ⟨⟨call, found, phase, rfl⟩, { call with phase := .gathering }, ?_, rfl⟩
    rcases pool.crawl.enter_outcome call.job.root with ⟨taken, -, -⟩ | ⟨-, granted, -⟩
    · rw [free] at taken
      cases taken
    · simp only [act, found, phase, Job.step, granted]
      exact set_self _ found

/-- The claims on a root that the record held from the start. While the record is open there are
none, and it is closed only once a stop was requested. Then a claim goes to each call that asked for
the flag before it was raised, came to the lock after the record was closed, and found the root
neither claimed nor finished under this guard; and to no other. -/
theorem recorded_claims (calls : List (Setting × Job)) (store : σ) (disk : Disk)
    (moments : List Moment) (root : Root) (resolved : RootStore.isResolved store root = .ok true) :
    let start := gather calls store disk
    let now := start.play moments
    (∀ index, now.Grants root index ↔ now.Enters root index ∧
      RootStore.isClosed now.crawl.desk.store = true ∧
      root ∉ now.crawl.desk.guard.active ∧ root ∉ now.crawl.desk.guard.finished) ∧
    (RootStore.isClosed now.crawl.desk.store = true → now.crawl.stopped = true) ∧
    ∀ index, now.Enters root index → ∃ earlier later, moments = earlier ++ later ∧
      (start.play earlier).Enters root index ∧ (start.play earlier).crawl.stopped = false := by
  intro start now
  have vaults : now.crawl.Vaults root :=
    play_keeps (fun pool => pool.crawl.Vaults root) move_vaults moments start
      (.start store disk resolved)
  refine ⟨fun index => grants_iff vaults, ?_, ?_⟩
  · intro shut
    cases stopped : now.crawl.stopped with
    | true => rfl
    | false =>
      rw [vaults.opened stopped] at shut
      cases shut
  · intro index enters
    exact play_enters moments start (gather_enters calls store disk root index) enters

def visitors : List (Setting × Job) :=
  List.replicate 2 (.ofTexts [], ⟨⟨"http://a"⟩, [], false, true⟩)

def visited : Tally := ⟨⟨.memory, ⟨["http://a"], []⟩, true⟩, 0⟩

theorem recorded_claims_visitors :
    let root : Root := ⟨"http://a"⟩
    let start := gather visitors visited .empty
    let now := start.play [.act 0, .raise, .act 1, .close]
    RootStore.isResolved visited root = .ok true ∧
    ¬ (start.play [.act 0]).Grants root 0 ∧ now.Grants root 0 ∧ ¬ now.Grants root 1 := by
  intro root start now
  have resolved : RootStore.isResolved visited root = .ok true := rfl
  refine ⟨resolved, ?_, ?_, ?_⟩
  · intro grants
    have claims := (recorded_claims visitors visited .empty [.act 0] root resolved).1 0
    have opened : RootStore.isClosed (start.play [.act 0]).crawl.desk.store = false := rfl
    rw [opened] at claims
    cases (claims.mp grants).2.1
  · have claims := (recorded_claims visitors visited .empty
      [.act 0, .raise, .act 1, .close] root resolved).1 0
    apply claims.mpr
    exact ⟨⟨_, rfl, rfl, rfl⟩, rfl, by decide, by decide⟩
  · rintro ⟨⟨call, found, entering, -⟩, -⟩
    cases found
    cases entering

/-- A recorded root is claimed, and fetched from anew. -/
theorem visited_claimed :
    let root : Root := ⟨"http://a"⟩
    let start := gather visitors visited .empty
    let now := start.play [.act 0, .raise, .close]
    RootStore.isResolved visited root = .ok true ∧ now.Grants root 0 ∧
    ((now.act 0).act 0).crawl.journal.fetched = ["http://a/robots.txt"] := by
  intro root start now
  refine ⟨rfl, ⟨⟨_, rfl, rfl, rfl⟩, _, rfl, rfl⟩, by decide +kernel⟩

end Pool

end Sitemaps
