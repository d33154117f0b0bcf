import Sitemaps.Proofs.Phases

/-!
Histories of a guard: claims are granted, finished and dropped, a stop is requested, and the record
is marked, closed or changed by others. The guard's sets and the claims tell the same, so its
answers follow from what became of the claims.
-/

namespace Sitemaps

inductive Fate
  | held | finished | dropped
  deriving DecidableEq, Repr

structure Claim where
  root : Root
  fate : Fate
  deriving DecidableEq, Repr

/-- What can happen to a guard and its record. Claims go by their numbers, in the order in which
they were granted. -/
inductive Act (σ : Type) where
  | enter (root : Root)
  | finish (number : Nat)
  | drop (number : Nat)
  | shutdown
  | mark (root : Root)
  | close
  /-- The record fails, recovers, or is written by others. -/
  | turn (store : σ)

def Act.Records {σ : Type} [RootStore σ] (root : Root) : Act σ → Prop
  | .mark other => other = root
  | .turn store => RootStore.isResolved store root = .ok true
  | .enter _ | .finish _ | .drop _ | .shutdown | .close => False

/-- A guard with all claims that it granted. -/
structure Register (σ : Type) where
  desk : Desk σ
  claims : List Claim

namespace Register

variable {σ : Type}

def start (store : σ) : Register σ := ⟨⟨.fresh, store⟩, []⟩

def outstanding (register : Register σ) (root : Root) : Nat := register.claims.count ⟨root, .held⟩

def HasFinished (register : Register σ) (root : Root) : Prop := ⟨root, .finished⟩ ∈ register.claims

def withStore (register : Register σ) (store : σ) : Register σ :=
  { register with desk := { register.desk with store := store } }

def giveBack (register : Register σ) (number : Nat) (fate : Fate) (after : Root → Desk σ) :
    Register σ :=
  match register.claims[number]? with
  | some ⟨root, .held⟩ => ⟨after root, register.claims.set number ⟨root, fate⟩⟩
  | _ => register

variable [RootStore σ]

def perform (register : Register σ) : Act σ → Register σ
  | .enter root =>
    let (granted, desk, _) := register.desk.tryEnter root
    ⟨desk, if granted then register.claims ++ [⟨root, .held⟩] else register.claims⟩
  | .finish number => register.giveBack number .finished fun root => (register.desk.finish root).1
  | .drop number => register.giveBack number .dropped fun root => (register.desk.drop root).1
  | .shutdown => { register with desk := register.desk.shutdown.1 }
  | .mark root =>
    register.withStore ((RootStore.markResolved register.desk.store root).toOption.getD
      register.desk.store)
  | .close =>
    register.withStore ((RootStore.close register.desk.store).toOption.getD register.desk.store)
  | .turn store => register.withStore store

def play (acts : List (Act σ)) (register : Register σ) : Register σ := acts.foldl perform register

theorem play_keeps (kept : Register σ → Prop)
    (step : ∀ register act, kept register → kept (register.perform act)) (acts : List (Act σ))
    (register : Register σ) (start : kept register) : kept (register.play acts) := by
  induction acts generalizing register with
  | nil => exact start
  | cons act rest ih => exact ih (register.perform act) (step register act start)

/-- Every way in which an act changes the claims. -/
inductive Outcome (register : Register σ) : Register σ → Prop
  | still {desk : Desk σ} (active : desk.guard.active = register.desk.guard.active)
      (finished : desk.guard.finished = register.desk.guard.finished) :
      Outcome register ⟨desk, register.claims⟩
  | granted {root : Root} (free : (register.desk.isTaken root).1 = false) :
      Outcome register ⟨register.desk.activate root, register.claims ++ [⟨root, .held⟩]⟩
  | gaveBack {number : Nat} {root : Root} {fate : Fate} {desk : Desk σ}
      (found : register.claims[number]? = some ⟨root, .held⟩) (unheld : fate ≠ .held)
      (active : ∀ other, other ∈ desk.guard.active ↔
        other ∈ register.desk.guard.active ∧ other ≠ root)
      (finished : ∀ other, other ∈ desk.guard.finished ↔
        other ∈ register.desk.guard.finished ∨ fate = .finished ∧ other = root) :
      Outcome register ⟨desk, register.claims.set number ⟨root, fate⟩⟩

end Register

namespace Desk

variable {σ : Type} [RootStore σ] (desk : Desk σ) (root : Root)

theorem tryEnter_outcome :
    (desk.tryEnter root).1 = false ∧ (desk.tryEnter root).2.1 = desk ∧
        (desk.guard.stopped = true ∨ (desk.isTaken root).1 = true) ∨
      (desk.tryEnter root).1 = true ∧ (desk.tryEnter root).2.1 = desk.activate root ∧
        desk.guard.stopped = false ∧ (desk.isTaken root).1 = false := by
  unfold tryEnter
  split
  · rename_i stopped
    exact Or.inl ⟨rfl, rfl, Or.inl stopped⟩
  · rename_i going
    rcases desk.claim_outcome root with ⟨taken, refused, same⟩ | ⟨free, granted, active⟩
    · exact Or.inl ⟨refused, same, Or.inr taken⟩
    · exact Or.inr ⟨granted, active, Bool.eq_false_iff.mpr going, free⟩

theorem tryEnter_granted : (desk.tryEnter root).1 = true ↔
    desk.guard.stopped = false ∧ (desk.isTaken root).1 = false := by
  rcases desk.tryEnter_outcome root with ⟨refused, -, stopped | taken⟩ | ⟨granted, -, free⟩
  · simp [refused, stopped]
  · simp [refused, taken]
  · simp [granted, free]

theorem state_active : (desk.state root).1 = .active ↔ root ∈ desk.guard.active := by
  unfold state
  split
  · rename_i active
    simpa using active
  · rename_i inactive
    rw [List.contains_iff_mem] at inactive
    simp only [inactive, iff_false]
    split
    · decide
    · split
      · decide
      · dsimp only
        split <;> decide

theorem state_finished (inactive : root ∉ desk.guard.active)
    (finished : root ∈ desk.guard.finished) : (desk.state root).1 = .resolved := by
  simp [state, inactive, finished]

theorem state_free (free : (desk.isTaken root).1 = false) :
    (desk.state root).1 = .unresolved := by
  have untaken := mt (desk.isTaken_iff root).mpr (by simp [free])
  simp only [not_or, Bool.not_eq_true] at untaken
  obtain ⟨inactive, unfinished, unrecorded⟩ := untaken
  simp only [state, List.contains_iff_mem, inactive, unfinished, unrecorded, if_false,
    Bool.false_eq_true]
  split <;> rfl

theorem drop_free (unfinished : root ∉ desk.guard.finished)
    (untold : RootStore.isResolved desk.store root ≠ .ok true) :
    ((desk.drop root).1.isTaken root).1 = false := by
  rw [← Bool.not_eq_true, isTaken_iff, recorded_iff]
  rintro (active | finished | told)
  · exact (mem_deactivate.mp active).2 rfl
  · exact unfinished finished
  · exact untold told

end Desk

namespace Register

variable {σ : Type} [RootStore σ]

theorem perform_outcome (register : Register σ) (act : Act σ) :
    register.Outcome (register.perform act) := by
  cases act with
  | enter root =>
    rcases register.desk.tryEnter_outcome root with ⟨refused, same, -⟩ | ⟨granted, active, -, free⟩
    · simp only [perform, refused, same]
      exact .still rfl rfl
    · simp only [perform, granted, active]
      exact .granted free
  | finish number =>
    simp only [perform, giveBack]
    split
    · rename_i root found
      refine .gaveBack found (by decide) ?_ ?_
      · intro other
        rw [Desk.finish_guard, Desk.mem_deactivate]
      · intro other
        rw [Desk.finish_guard]
        simp [Desk.deactivate, or_comm]
    · exact .still rfl rfl
  | drop number =>
    simp only [perform, giveBack]
    split
    · rename_i root found
      exact .gaveBack found (by decide) (fun other => Desk.mem_deactivate)
        (fun other => by simp [Desk.drop, Desk.deactivate])
    · exact .still rfl rfl
  | shutdown =>
    have guard := register.desk.shutdown_guard
    exact .still (by rw [guard]) (by rw [guard])
  | mark root => exact .still rfl rfl
  | close => exact .still rfl rfl
  | turn store => exact .still rfl rfl

omit [RootStore σ] in
theorem count_set {claims : List Claim} {number : Nat} {before : Claim} (after claim : Claim)
    (found : claims[number]? = some before) :
    (claims.set number after).count claim + (if before = claim then 1 else 0) =
      claims.count claim + if after = claim then 1 else 0 := by
  obtain ⟨bound, rfl⟩ := List.getElem?_eq_some_iff.mp found
  have within : (if claims[number] = claim then 1 else 0) ≤ claims.count claim := by
    split
    · rename_i same
      exact List.count_pos_iff.mpr (same ▸ List.getElem_mem bound)
    · exact Nat.zero_le _
  rw [List.count_set bound]
  simp only [beq_iff_eq]
  omega

/-- The guard's sets and the claims tell the same. -/
structure Kept (register : Register σ) : Prop where
  active : ∀ root, root ∈ register.desk.guard.active ↔ ⟨root, .held⟩ ∈ register.claims
  finished : ∀ root, root ∈ register.desk.guard.finished ↔ register.HasFinished root
  single : ∀ root, register.outstanding root ≤ 1
  apart : ∀ root, ⟨root, .held⟩ ∈ register.claims → ¬ register.HasFinished root

omit [RootStore σ] in
theorem start_kept (store : σ) : (start store).Kept where
  active root := by simp [start, Guard.fresh]
  finished root := by simp [start, Guard.fresh, HasFinished]
  single root := Nat.zero_le 1
  apart root held := by cases held

section Change

variable {register : Register σ} {desk : Desk σ} {number : Nat} {root : Root} {fate : Fate}

theorem Kept.grant (kept : register.Kept) (free : (register.desk.isTaken root).1 = false) :
    (⟨register.desk.activate root, register.claims ++ [⟨root, .held⟩]⟩ : Register σ).Kept := by
  have untaken := mt (Desk.isTaken_iff register.desk root).mpr (by simp [free])
  have unheld : ⟨root, .held⟩ ∉ register.claims :=
    fun held => untaken (Or.inl ((kept.active root).mpr held))
  have unfinished : ¬ register.HasFinished root :=
    fun finished => untaken (Or.inr (Or.inl ((kept.finished root).mpr finished)))
  refine ⟨?_, ?_, ?_, ?_⟩
  · intro other
    simp [Desk.activate, kept.active other, or_comm]
  · intro other
    simpa [Desk.activate, HasFinished] using kept.finished other
  · intro other
    have single := kept.single other
    simp only [outstanding, List.count_append, List.count_singleton, beq_iff_eq,
      Claim.mk.injEq, and_true] at single ⊢
    split
    · rename_i same
      have none : register.claims.count ⟨other, .held⟩ = 0 :=
        same ▸ List.count_eq_zero_of_not_mem unheld
      omega
    · exact single
  · intro other held finished
    simp only [HasFinished, List.mem_append, List.mem_singleton, Claim.mk.injEq, reduceCtorEq,
      and_false, or_false, and_true] at held finished
    rcases held with held | rfl
    · exact kept.apart other held finished
    · exact unfinished finished

omit [RootStore σ] in
theorem Kept.held_set (kept : register.Kept)
    (found : register.claims[number]? = some ⟨root, .held⟩) (unheld : fate ≠ .held) (other : Root) :
    (⟨other, .held⟩ : Claim) ∈ register.claims.set number ⟨root, fate⟩ ↔
      ⟨other, .held⟩ ∈ register.claims ∧ other ≠ root := by
  have count := count_set ⟨root, fate⟩ ⟨other, .held⟩ found
  have before := kept.single other
  simp only [outstanding, Claim.mk.injEq, unheld, and_false, if_false, and_true] at count before
  rw [← List.count_pos_iff, ← List.count_pos_iff]
  split at count
  · rename_i same
    subst same
    simp only [ne_eq, not_true_eq_false, and_false, iff_false]
    omega
  · rename_i apart
    simp only [ne_eq, Ne.symm apart, not_false_eq_true, and_true]
    omega

omit [RootStore σ] in
theorem finished_set (found : register.claims[number]? = some ⟨root, .held⟩) (other : Root) :
    (⟨other, .finished⟩ : Claim) ∈ register.claims.set number ⟨root, fate⟩ ↔
      register.HasFinished other ∨ fate = .finished ∧ other = root := by
  have count := count_set ⟨root, fate⟩ ⟨other, .finished⟩ found
  simp only [Claim.mk.injEq, reduceCtorEq, and_false, if_false] at count
  rw [HasFinished, ← List.count_pos_iff, ← List.count_pos_iff]
  split at count
  · rename_i same
    obtain ⟨rfl, rfl⟩ := same
    simp only [and_self, or_true, iff_true]
    omega
  · rename_i apart
    have other_fate : ¬ (fate = .finished ∧ other = root) := fun same => apart ⟨same.2.symm, same.1⟩
    simp only [other_fate, or_false]
    omega

omit [RootStore σ] in
theorem Kept.giveBack (kept : register.Kept)
    (found : register.claims[number]? = some ⟨root, .held⟩) (unheld : fate ≠ .held)
    (active : ∀ other, other ∈ desk.guard.active ↔
      other ∈ register.desk.guard.active ∧ other ≠ root)
    (finished : ∀ other, other ∈ desk.guard.finished ↔
      other ∈ register.desk.guard.finished ∨ fate = .finished ∧ other = root) :
    (⟨desk, register.claims.set number ⟨root, fate⟩⟩ : Register σ).Kept := by
  refine ⟨?_, ?_, ?_, ?_⟩
  · intro other
    rw [active, kept.held_set found unheld, kept.active]
  · intro other
    rw [finished, kept.finished]
    exact (finished_set found other).symm
  · intro other
    have count := count_set ⟨root, fate⟩ ⟨other, .held⟩ found
    have before := kept.single other
    simp only [outstanding, Claim.mk.injEq, unheld, and_false, if_false] at count before ⊢
    omega
  · intro other still finished
    obtain ⟨before, apart⟩ := (kept.held_set found unheld other).mp still
    rcases (finished_set found other).mp finished with finished | ⟨-, same⟩
    · exact kept.apart other before finished
    · exact apart same

end Change

theorem perform_kept (register : Register σ) (act : Act σ) (kept : register.Kept) :
    (register.perform act).Kept := by
  have outcome := register.perform_outcome act
  generalize register.perform act = after at outcome
  cases outcome with
  | still active finished =>
    exact ⟨fun root => active ▸ kept.active root, fun root => finished ▸ kept.finished root,
      kept.single, kept.apart⟩
  | granted free => exact kept.grant free
  | gaveBack found unheld active finished => exact kept.giveBack found unheld active finished

theorem play_kept (store : σ) (acts : List (Act σ)) : ((start store).play acts).Kept :=
  play_keeps Kept perform_kept acts (start store) (start_kept store)

theorem perform_stopped (register : Register σ) (act : Act σ) :
    (register.perform act).desk.guard.stopped = true ↔
      act = .shutdown ∨ register.desk.guard.stopped = true := by
  cases act with
  | enter root =>
    rcases register.desk.tryEnter_outcome root with ⟨-, same, -⟩ | ⟨-, active, -⟩
    · simp [perform, same]
    · simp [perform, active, Desk.activate]
  | finish number =>
    simp only [perform, giveBack, reduceCtorEq, false_or]
    split
    · rw [Desk.finish_guard]
      rfl
    · rfl
  | drop number =>
    simp only [perform, giveBack, reduceCtorEq, false_or]
    split <;> rfl
  | shutdown => simp [perform, register.desk.shutdown_guard]
  | mark root => simp [perform, withStore]
  | close => simp [perform, withStore]
  | turn store => simp [perform, withStore]

theorem play_stopped (register : Register σ) (acts : List (Act σ)) :
    (register.play acts).desk.guard.stopped = true ↔
      .shutdown ∈ acts ∨ register.desk.guard.stopped = true := by
  induction acts generalizing register with
  | nil => simp [play]
  | cons act rest ih =>
    refine (ih (register.perform act)).trans ?_
    rw [perform_stopped, List.mem_cons, or_left_comm, ← or_assoc, @eq_comm _ act]

theorem perform_finished {register : Register σ} {root : Root} (act : Act σ)
    (finished : register.HasFinished root) : (register.perform act).HasFinished root := by
  have outcome := register.perform_outcome act
  generalize register.perform act = after at outcome
  cases outcome with
  | still active done => exact finished
  | granted free => exact List.mem_append_left _ finished
  | gaveBack found unheld active done => exact (finished_set found root).mpr (Or.inl finished)

section Answers

variable {register : Register σ} {root : Root}

theorem Kept.free (kept : register.Kept) : (register.desk.isTaken root).1 = false ↔
    register.outstanding root = 0 ∧ ¬ register.HasFinished root ∧
      RootStore.isResolved register.desk.store root ≠ .ok true := by
  rw [← Bool.not_eq_true, Desk.isTaken_iff, kept.active, kept.finished, Desk.recorded_iff,
    ← List.count_pos_iff]
  simp only [not_or, Nat.not_lt, Nat.le_zero]
  rfl

end Answers

section Untold

variable [LawfulStore σ] {store after : σ} {root other : Root}

theorem untold_mark (apart : other ≠ root) (untold : RootStore.isResolved store root ≠ .ok true)
    (marked : RootStore.markResolved store other = .ok after) :
    RootStore.isResolved after root ≠ .ok true := by
  obtain ⟨before, now, holds⟩ := LawfulStore.marked marked
  rw [LawfulStore.read, before] at untold
  rw [LawfulStore.read, now, holds]
  simpa [Ne.symm apart] using untold

theorem untold_close (closed : RootStore.close store = .ok after) :
    RootStore.isResolved after root ≠ .ok true := by
  rw [LawfulStore.read, (LawfulStore.closed closed).1]
  simp

variable {register : Register σ} {number : Nat}

theorem perform_untold (kept : register.Kept) (act : Act σ) (silent : ¬ act.Records root)
    (untold : RootStore.isResolved register.desk.store root ≠ .ok true)
    (still : (register.perform act).claims[number]? = some ⟨root, .held⟩) :
    RootStore.isResolved (register.perform act).desk.store root ≠ .ok true := by
  have after := register.perform_kept act kept
  cases act with
  | enter other =>
    rcases register.desk.tryEnter_outcome other with ⟨-, same, -⟩ | ⟨-, active, -⟩
    · simpa only [perform, same] using untold
    · simp only [perform, active]
      exact untold
  | finish ended =>
    have held : ⟨root, .held⟩ ∈ (register.perform (.finish ended)).claims :=
      List.mem_of_getElem? still
    have unfinished := after.apart root held
    simp only [perform, giveBack] at unfinished ⊢
    split at unfinished
    · rename_i other found
      have apart : other ≠ root := by
        rintro rfl
        obtain ⟨bound, -⟩ := List.getElem?_eq_some_iff.mp found
        exact unfinished (List.mem_of_getElem? (List.getElem?_set_self bound))
      rcases register.desk.finish_store other with marked | ⟨-, same⟩
      · exact untold_mark apart untold marked
      · simpa only [same] using untold
    · exact untold
  | drop ended =>
    simp only [perform, giveBack]
    split <;> exact untold
  | shutdown =>
    rcases register.desk.shutdown_store with same | closed
    · simpa only [perform, same] using untold
    · exact untold_close closed
  | mark other =>
    simp only [perform, withStore]
    cases marked : RootStore.markResolved register.desk.store other with
    | ok store => exact untold_mark silent untold marked
    | error fault => exact untold
  | close =>
    simp only [perform, withStore]
    cases closed : RootStore.close register.desk.store with
    | ok store => exact untold_close closed
    | error fault => exact untold
  | turn store => exact silent

omit [LawfulStore σ] in
theorem perform_earlier (register : Register σ) (root : Root) (act : Act σ)
    (bound : number < register.claims.length) :
    number < (register.perform act).claims.length ∧
      ((register.perform act).claims[number]? = some ⟨root, .held⟩ →
        register.claims[number]? = some ⟨root, .held⟩) := by
  have outcome := register.perform_outcome act
  generalize register.perform act = after at outcome
  cases outcome with
  | still active finished => exact ⟨bound, id⟩
  | granted free =>
    refine ⟨?_, fun held => ?_⟩
    · rw [List.length_append]
      exact Nat.lt_add_right _ bound
    · rwa [List.getElem?_append_left bound] at held
  | @gaveBack ended other fate desk found unheld active finished =>
    refine ⟨by rwa [List.length_set], fun held => ?_⟩
    by_cases here : ended = number
    · subst here
      rw [List.getElem?_set_self bound, Option.some.injEq, Claim.mk.injEq] at held
      exact absurd held.2 unheld
    · rwa [List.getElem?_set_ne here] at held

theorem play_untold (kept : register.Kept) (bound : number < register.claims.length)
    (untold : register.claims[number]? = some ⟨root, .held⟩ →
      RootStore.isResolved register.desk.store root ≠ .ok true)
    (acts : List (Act σ)) (silent : ∀ act ∈ acts, ¬ act.Records root)
    (still : (register.play acts).claims[number]? = some ⟨root, .held⟩) :
    RootStore.isResolved (register.play acts).desk.store root ≠ .ok true := by
  induction acts generalizing register with
  | nil => exact untold still
  | cons act rest ih =>
    obtain ⟨longer, earlier⟩ := register.perform_earlier root act bound
    refine ih (register.perform_kept act kept) longer (fun now => ?_)
      (fun other member => silent other (List.mem_cons_of_mem _ member)) still
    exact perform_untold kept act (silent act List.mem_cons_self) (untold (earlier now)) now

end Untold

theorem play_append (first second : List (Act σ)) (register : Register σ) :
    register.play (first ++ second) = (register.play first).play second :=
  List.foldl_append

/-- The answers of a guard after any history, from what became of its claims. -/
theorem guard_contract (store : σ) (acts : List (Act σ)) (root : Root) :
    let now := (start store).play acts
    ((now.desk.state root).1 = .active ↔ now.outstanding root = 1) ∧
    now.outstanding root ≤ 1 ∧
    ((now.desk.tryEnter root).1 = true ↔ .shutdown ∉ acts ∧ now.outstanding root = 0 ∧
      ¬ now.HasFinished root ∧ RootStore.isResolved now.desk.store root ≠ .ok true) ∧
    (now.HasFinished root → ∀ later, ((now.play later).desk.state root).1 = .resolved ∧
      ((now.play later).desk.tryEnter root).1 = false) ∧
    ∀ [LawfulStore σ] (between : List (Act σ)),
      let last := (now.perform (.enter root)).play between
      (now.desk.tryEnter root).1 = true →
      last.claims[now.claims.length]? = some ⟨root, .held⟩ →
      (∀ act ∈ between, ¬ act.Records root) →
      ((last.perform (.drop now.claims.length)).desk.state root).1 = (now.desk.state root).1 := by
  intro now
  have kept : now.Kept := play_kept store acts
  have stopped := (start store).play_stopped acts
  refine ⟨?_, kept.single root, ?_, ?_, ?_⟩
  · have single := kept.single root
    rw [Desk.state_active, kept.active, ← List.count_pos_iff]
    unfold outstanding at single ⊢
    omega
  · rw [Desk.tryEnter_granted, kept.free, ← Bool.not_eq_true, stopped]
    simp [start, Guard.fresh]
  · intro finished later
    have still : (now.play later).HasFinished root :=
      play_keeps (HasFinished · root) (fun _ act => perform_finished act) later now finished
    have kept : (now.play later).Kept := by
      rw [← play_append]
      exact play_kept store (acts ++ later)
    have inactive : root ∉ (now.play later).desk.guard.active :=
      fun active => kept.apart root ((kept.active root).mp active) still
    refine ⟨Desk.state_finished _ root inactive ((kept.finished root).mpr still), ?_⟩
    rw [← Bool.not_eq_true, Desk.tryEnter_granted, kept.free]
    exact fun granted => granted.2.2.1 still
  · intro lawful between last granted held silent
    obtain ⟨-, free⟩ := (now.desk.tryEnter_granted root).mp granted
    have entered : now.perform (.enter root) =
        ⟨now.desk.activate root, now.claims ++ [⟨root, .held⟩]⟩ := by
      rcases now.desk.tryEnter_outcome root with ⟨refused, -⟩ | ⟨-, active, -⟩
      · rw [granted] at refused
        cases refused
      · simp only [perform, granted, active, if_true]
    have taken : (now.perform (.enter root)).Kept := now.perform_kept _ kept
    have bound : now.claims.length < (now.perform (.enter root)).claims.length := by
      simp [entered]
    have untold : RootStore.isResolved last.desk.store root ≠ .ok true := by
      refine play_untold taken bound (fun _ => ?_) between silent held
      rw [entered]
      exact (kept.free.mp free).2.2
    have unfinished : root ∉ last.desk.guard.finished := by
      have kept : last.Kept := play_keeps Kept perform_kept between _ taken
      rw [kept.finished]
      exact kept.apart root (List.mem_of_getElem? held)
    have dropped : (last.perform (.drop now.claims.length)).desk = (last.desk.drop root).1 := by
      simp only [perform, giveBack, held]
    rw [dropped, Desk.state_free _ root (last.desk.drop_free root unfinished untold),
      Desk.state_free _ root free]

theorem guard_contract_pair :
    let store : MemoryStore := ⟨[], false⟩
    let acts : List (Act MemoryStore) := [.enter ⟨"http://a"⟩, .finish 0]
    let between : List (Act MemoryStore) := [.mark ⟨"http://a"⟩, .enter ⟨"http://b"⟩, .close]
    let now := (start store).play acts
    let last := (now.perform (.enter ⟨"http://b"⟩)).play between
    (now.HasFinished ⟨"http://a"⟩ ∧
      ((now.play [.shutdown, .close]).desk.state ⟨"http://a"⟩).1 = .resolved ∧
      ((now.play [.shutdown, .close]).desk.tryEnter ⟨"http://a"⟩).1 = false) ∧
    (now.desk.tryEnter ⟨"http://b"⟩).1 = true ∧
    last.claims[now.claims.length]? = some ⟨⟨"http://b"⟩, .held⟩ ∧
    (∀ act ∈ between, ¬ act.Records ⟨"http://b"⟩) ∧
    ((last.perform (.drop now.claims.length)).desk.state ⟨"http://b"⟩).1 =
      (now.desk.state ⟨"http://b"⟩).1 := by
  intro store acts between now last
  have finished : now.HasFinished ⟨"http://a"⟩ := by unfold HasFinished; decide
  have granted : (now.desk.tryEnter ⟨"http://b"⟩).1 = true := by decide
  have held : last.claims[now.claims.length]? = some ⟨⟨"http://b"⟩, .held⟩ := by decide
  have silent : ∀ act ∈ between, ¬ act.Records ⟨"http://b"⟩ := by
    simp [between, Act.Records]
  obtain ⟨-, -, -, resolved, -⟩ := guard_contract store acts ⟨"http://a"⟩
  obtain ⟨-, -, -, -, restored⟩ := guard_contract store acts ⟨"http://b"⟩
  exact ⟨⟨finished, resolved finished [.shutdown, .close]⟩, granted, held, silent,
    restored between granted held silent⟩

end Register

end Sitemaps
