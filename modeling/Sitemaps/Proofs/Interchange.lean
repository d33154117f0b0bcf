import Sitemaps.Proofs.Histories

/-!
Demands made of a guard and of the record behind it, with the replies to them. Records of two kinds
that answer single demands alike stay alike, so no sequence of demands tells them apart; a record in
memory and an open database with the same roots are such a pair.
-/

namespace Sitemaps

/-- A demand from outside. Claims go by their numbers, in the order in which they were granted. -/
inductive Demand
  | enter (root : Root)
  | finish (number : Nat)
  | drop (number : Nat)
  | state (root : Root)
  | shutdown
  | isResolved (root : Root)
  | mark (root : Root)
  | close
  deriving DecidableEq, Repr

inductive Said
  /-- The number of the claim, if one is granted. -/
  | claim (number : Option Nat)
  /-- Whether a claim with this number was still held. -/
  | held (held : Bool)
  | state (state : RootState)
  | nothing
  | resolved (result : Except StoreFault Bool)
  | done (result : Except StoreFault Unit)
  deriving Repr

/-- What a demand says, what it reports, and what shows from outside once it returned. -/
structure Reply where
  said : Said
  notices : List Notice
  stopped : Bool
  closed : Bool
  deriving Repr

namespace Register

variable {σ : Type} [RootStore σ]

def after (register : Register σ) : Demand → Register σ
  | .enter root => register.perform (.enter root)
  | .finish number => register.perform (.finish number)
  | .drop number => register.perform (.drop number)
  | .shutdown => register.perform .shutdown
  | .mark root => register.perform (.mark root)
  | .close => register.perform .close
  | .state _ | .isResolved _ => register

def handBack (register : Register σ) (number : Nat) (notices : Root → List Notice) :
    Said × List Notice :=
  match register.claims[number]? with
  | some ⟨root, .held⟩ => (.held true, notices root)
  | _ => (.held false, [])

def say (register : Register σ) : Demand → Said × List Notice
  | .enter root =>
    let (granted, _, notices) := register.desk.tryEnter root
    (.claim (if granted then some register.claims.length else none), notices)
  | .finish number => register.handBack number fun root => (register.desk.finish root).2
  | .drop number => register.handBack number fun root => (register.desk.drop root).2
  | .state root => ((register.desk.state root).map .state id)
  | .shutdown => (.nothing, register.desk.shutdown.2)
  | .isResolved root => (.resolved (RootStore.isResolved register.desk.store root), [])
  | .mark root => (.done ((RootStore.markResolved register.desk.store root).map fun _ => ()), [])
  | .close => (.done ((RootStore.close register.desk.store).map fun _ => ()), [])

def reply (register : Register σ) (demand : Demand) : Reply :=
  let (said, notices) := register.say demand
  let later := register.after demand
  ⟨said, notices, later.desk.guard.stopped, RootStore.isClosed later.desk.store⟩

def replies (register : Register σ) : List Demand → List Reply
  | [] => []
  | demand :: rest => register.reply demand :: (register.after demand).replies rest

end Register

section Matching

variable {σ τ : Type}

inductive Results (like : σ → τ → Prop) : Except StoreFault σ → Except StoreFault τ → Prop
  | stores {one : σ} {other : τ} (same : like one other) : Results like (.ok one) (.ok other)
  | faults (fault : StoreFault) : Results like (.error fault) (.error fault)

/-- A likeness of records that no single demand tells apart, and that every demand keeps. -/
structure Matching [RootStore σ] [RootStore τ] (like : σ → τ → Prop) : Prop where
  closed : ∀ {one other}, like one other → RootStore.isClosed one = RootStore.isClosed other
  read : ∀ {one other}, like one other → ∀ root,
    RootStore.isResolved one root = RootStore.isResolved other root
  mark : ∀ {one other}, like one other → ∀ root,
    Results like (RootStore.markResolved one root) (RootStore.markResolved other root)
  close : ∀ {one other}, like one other → Results like (RootStore.close one) (RootStore.close other)

namespace Results

variable {like : σ → τ → Prop} {one : Except StoreFault σ} {other : Except StoreFault τ}

theorem map_unit (results : Results like one other) :
    one.map (fun _ => ()) = other.map (fun _ => ()) := by
  cases results with
  | stores same => rfl
  | faults fault => rfl

theorem getD (results : Results like one other) {before : σ} {also : τ} (same : like before also) :
    like (one.toOption.getD before) (other.toOption.getD also) := by
  cases results with
  | stores same => exact same
  | faults fault => exact same

end Results

structure Desk.Like (like : σ → τ → Prop) (one : Desk σ) (other : Desk τ) : Prop where
  guard : one.guard = other.guard
  store : like one.store other.store

variable [RootStore σ] [RootStore τ] {like : σ → τ → Prop} (fits : Matching like)

namespace Desk.Like

variable {one : Desk σ} {other : Desk τ} (desks : Desk.Like like one other) (root : Root)

include fits desks

theorem recorded : one.recorded root = other.recorded root := by
  unfold Desk.recorded
  rw [fits.read desks.store root]

theorem state : one.state root = other.state root := by
  unfold Desk.state
  rw [desks.guard, desks.recorded fits root]

theorem tryEnter : (one.tryEnter root).1 = (other.tryEnter root).1 ∧
    (one.tryEnter root).2.2 = (other.tryEnter root).2.2 ∧
    Desk.Like like (one.tryEnter root).2.1 (other.tryEnter root).2.1 := by
  have taken : one.isTaken root = other.isTaken root := by
    unfold Desk.isTaken
    rw [desks.guard, desks.recorded fits root]
  unfold Desk.tryEnter Desk.claim
  rw [desks.guard, taken]
  split
  · exact ⟨rfl, rfl, desks⟩
  · dsimp only
    split
    · exact ⟨rfl, rfl, desks⟩
    · refine ⟨rfl, rfl, ⟨?_, desks.store⟩⟩
      simp only [Desk.activate, desks.guard]

theorem finish : (one.finish root).2 = (other.finish root).2 ∧
    Desk.Like like (one.finish root).1 (other.finish root).1 := by
  have results := fits.mark desks.store root
  unfold Desk.finish
  rw [desks.guard]
  generalize RootStore.markResolved one.store root = first at results ⊢
  generalize RootStore.markResolved other.store root = second at results ⊢
  cases results with
  | stores same => exact ⟨rfl, rfl, same⟩
  | faults fault => exact ⟨rfl, rfl, desks.store⟩

theorem shutdown : one.shutdown.2 = other.shutdown.2 ∧
    Desk.Like like one.shutdown.1 other.shutdown.1 := by
  have results := fits.close desks.store
  unfold Desk.shutdown Desk.closeStore Desk.raise
  rw [desks.guard]
  split
  · exact ⟨rfl, desks⟩
  · dsimp only
    generalize RootStore.close one.store = first at results ⊢
    generalize RootStore.close other.store = second at results ⊢
    cases results with
    | stores same => exact ⟨rfl, rfl, same⟩
    | faults fault => exact ⟨rfl, rfl, desks.store⟩

omit fits [RootStore σ] [RootStore τ] in
theorem drop : (one.drop root).2 = (other.drop root).2 ∧
    Desk.Like like (one.drop root).1 (other.drop root).1 := by
  unfold Desk.drop
  rw [desks.guard]
  exact ⟨rfl, rfl, desks.store⟩

end Desk.Like

structure Register.Like (like : σ → τ → Prop) (one : Register σ) (other : Register τ) : Prop where
  desks : one.desk.Like like other.desk
  claims : one.claims = other.claims

namespace Register.Like

variable {one : Register σ} {other : Register τ} (registers : Register.Like like one other)

include registers

omit [RootStore σ] [RootStore τ] in
theorem giveBack (number : Nat) (fate : Fate) {first : Root → Desk σ} {second : Root → Desk τ}
    (both : ∀ root, (first root).Like like (second root)) :
    Register.Like like (one.giveBack number fate first) (other.giveBack number fate second) := by
  unfold Register.giveBack
  rw [registers.claims]
  split
  · exact ⟨both _, rfl⟩
  · exact registers

omit [RootStore σ] [RootStore τ] in
theorem handBack (number : Nat) {first second : Root → List Notice}
    (both : ∀ root, first root = second root) :
    one.handBack number first = other.handBack number second := by
  unfold Register.handBack
  rw [registers.claims]
  split
  · rw [both]
  · rfl

include fits

theorem after (demand : Demand) : Register.Like like (one.after demand) (other.after demand) := by
  have desks := registers.desks
  cases demand with
  | enter root =>
    obtain ⟨granted, -, entered⟩ := desks.tryEnter fits root
    refine ⟨entered, ?_⟩
    simp only [Register.after, Register.perform, granted, registers.claims]
  | finish number => exact registers.giveBack number _ fun root => (desks.finish fits root).2
  | drop number => exact registers.giveBack number _ fun root => (desks.drop root).2
  | shutdown => exact ⟨(desks.shutdown fits).2, registers.claims⟩
  | mark root =>
    exact ⟨⟨desks.guard, (fits.mark desks.store root).getD desks.store⟩, registers.claims⟩
  | close =>
    exact ⟨⟨desks.guard, (fits.close desks.store).getD desks.store⟩, registers.claims⟩
  | state root => exact registers
  | isResolved root => exact registers

theorem say (demand : Demand) : one.say demand = other.say demand := by
  have desks := registers.desks
  cases demand with
  | enter root =>
    obtain ⟨granted, notices, -⟩ := desks.tryEnter fits root
    simp only [Register.say, granted, notices, registers.claims]
  | finish number => exact registers.handBack number fun root => (desks.finish fits root).1
  | drop number => exact registers.handBack number fun root => (desks.drop root).1
  | state root => simp only [Register.say, desks.state fits root]
  | shutdown => simp only [Register.say, (desks.shutdown fits).1]
  | isResolved root => simp only [Register.say, fits.read desks.store root]
  | mark root => simp only [Register.say, (fits.mark desks.store root).map_unit]
  | close => simp only [Register.say, (fits.close desks.store).map_unit]

theorem reply (demand : Demand) : one.reply demand = other.reply demand := by
  have later := registers.after fits demand
  simp only [Register.reply, registers.say fits demand, later.desks.guard,
    fits.closed later.desks.store]

theorem replies (demands : List Demand) : one.replies demands = other.replies demands := by
  induction demands generalizing one other with
  | nil => rfl
  | cons demand rest ih =>
    simp only [Register.replies]
    rw [registers.reply fits demand, ih (registers.after fits demand)]

end Register.Like

end Matching

/-- A record in memory and a database that hold the same roots, both open or both closed. -/
structure MemoryStore.Mirrors (store : MemoryStore) (database : Database) : Prop where
  closed : store.closed = !database.isOpen
  roots : ∀ root, root ∈ store.resolved ↔ root.text ∈ database.tables.roots

namespace MemoryStore.Mirrors

theorem read {store : MemoryStore} {database : Database} (mirrors : store.Mirrors database)
    (root : Root) : RootStore.isResolved store root = RootStore.isResolved database root := by
  simp only [RootStore.isResolved, MemoryStore.isResolved, Database.isResolved, Database.query,
    mirrors.closed]
  cases database.isOpen with
  | false => rfl
  | true => simp [List.contains_eq_mem, mirrors.roots root]

theorem mark {store : MemoryStore} {database : Database} (mirrors : store.Mirrors database)
    (root : Root) : Results MemoryStore.Mirrors (RootStore.markResolved store root)
      (RootStore.markResolved database root) := by
  simp only [RootStore.markResolved, MemoryStore.markResolved, Database.markResolved,
    Database.update, mirrors.closed]
  cases opened : database.isOpen with
  | false => exact .faults .closed
  | true =>
    refine .stores ⟨rfl, fun other => ?_⟩
    have texts : other = root ↔ other.text = root.text := by
      cases other
      cases root
      simp
    simp only [List.mem_insert_iff, Tables.mark, Database.mem_insertRoot, mirrors.roots, texts]

theorem matching : Matching MemoryStore.Mirrors where
  closed mirrors := mirrors.closed
  read := read
  mark := mark
  close mirrors := .stores ⟨rfl, mirrors.roots⟩

end MemoryStore.Mirrors

namespace Register

/-- A guard over a record in memory and one over an open database with the same roots give the same
reply to every demand of any sequence. -/
theorem records_interchangeable (resolved : List Root) (database : Database)
    (opened : database.isOpen = true)
    (same : ∀ root, root ∈ resolved ↔ root.text ∈ database.tables.roots) (demands : List Demand) :
    (start (⟨resolved, false⟩ : MemoryStore)).replies demands =
      (start database).replies demands := by
  have mirrors : (⟨resolved, false⟩ : MemoryStore).Mirrors database := ⟨by rw [opened]; rfl, same⟩
  have registers : Register.Like MemoryStore.Mirrors (start ⟨resolved, false⟩) (start database) :=
    ⟨⟨rfl, mirrors⟩, rfl⟩
  exact registers.replies MemoryStore.Mirrors.matching demands

theorem records_interchangeable_shut :
    let database : Database := ⟨.memory, ⟨["http://a"], []⟩, true⟩
    let demands : List Demand := [.enter ⟨"http://a"⟩, .enter ⟨"http://b"⟩, .finish 0, .finish 0,
      .isResolved ⟨"http://b"⟩, .close, .mark ⟨"http://c"⟩, .enter ⟨"http://a"⟩,
      .state ⟨"http://a"⟩, .drop 1, .shutdown, .close, .state ⟨"http://b"⟩, .enter ⟨"http://c"⟩]
    database.isOpen = true ∧
      (∀ root : Root, root ∈ [⟨"http://a"⟩] ↔ root.text ∈ database.tables.roots) ∧
      (start (⟨[⟨"http://a"⟩], false⟩ : MemoryStore)).replies demands =
        (start database).replies demands := by
  intro database demands
  have same : ∀ root : Root, root ∈ [⟨"http://a"⟩] ↔ root.text ∈ database.tables.roots := by
    rintro ⟨text⟩
    simp [database]
  exact ⟨rfl, same, records_interchangeable [⟨"http://a"⟩] database rfl same demands⟩

end Register

end Sitemaps
