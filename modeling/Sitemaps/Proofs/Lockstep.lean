import Mathlib.Data.List.Forall2
import Sitemaps.Proofs.Alone
import Sitemaps.Proofs.Scopes
import Sitemaps.Proofs.Staging

/-!
Two runs of a job in lockstep. They may differ in scope, in what was fetched before, in the stores
as far as it does not show, and in the files of open documents. Every step of one is matched by a
step of the other; where an entry is out of the narrower scope, the second run tells so while the
first one hands it over.
-/

namespace Sitemaps

open Sitemap

inductive Answers {σ : Type} (like : σ → σ → Prop) :
    Except StoreFault σ → Except StoreFault σ → Prop
  | stores {first second : σ} (same : like first second) : Answers like (.ok first) (.ok second)
  | faults {first second : StoreFault} : Answers like (.error first) (.error second)

structure LawfulStore.Alike {σ : Type} [RootStore σ] [lawful : LawfulStore σ] (one other : σ) :
    Prop where
  closed : RootStore.isClosed other = RootStore.isClosed one
  holds : ∀ root, lawful.holds other root = lawful.holds one root

namespace LawfulStore.Alike

variable {σ : Type} [RootStore σ] [lawful : LawfulStore σ] {one other : σ}

theorem refl (store : σ) : Alike store store := ⟨rfl, fun _ => rfl⟩

theorem symm (alike : Alike one other) : Alike other one :=
  ⟨alike.closed.symm, fun root => (alike.holds root).symm⟩

theorem trans {third : σ} (first : Alike one other) (second : Alike other third) :
    Alike one third :=
  ⟨second.closed.trans first.closed, fun root => (second.holds root).trans (first.holds root)⟩

theorem read (alike : Alike one other) (root : Root) :
    RootStore.isResolved one root = RootStore.isResolved other root := by
  rw [lawful.read, lawful.read, alike.closed, alike.holds]

theorem marked (alike : Alike one other) (root : Root) :
    Answers Alike (RootStore.markResolved one root) (RootStore.markResolved other root) := by
  have shut := alike.closed
  cases made : RootStore.markResolved one root with
  | ok after =>
    obtain ⟨before, opened, holds⟩ := lawful.marked made
    cases also : RootStore.markResolved other root with
    | ok later =>
      obtain ⟨-, also_opened, also_holds⟩ := lawful.marked also
      refine .stores ⟨by rw [also_opened, opened], fun root => ?_⟩
      rw [also_holds, holds, alike.holds]
    | error fault =>
      rw [lawful.unmarked also, before] at shut
      cases shut
  | error fault =>
    cases also : RootStore.markResolved other root with
    | ok later =>
      rw [lawful.unmarked made, (lawful.marked also).1] at shut
      cases shut
    | error fault => exact .faults

end LawfulStore.Alike

theorem LawfulSink.alike {σ : Type} [RootStore σ] [Sink σ] [lawful : LawfulSink σ] {store after : σ}
    {page : Entry} {notices : List Notice} {stop : Bool}
    (kept : Sink.accept store page = .kept after notices stop) : LawfulStore.Alike store after :=
  ⟨(lawful.kept kept).1, (lawful.kept kept).2⟩

inductive Takes {σ : Type} (like : σ → σ → Prop) (stops : Prop) :
    Acceptance σ → Acceptance σ → Prop
  | kept {first second : σ} {notices others : List Notice} {stop : Bool} (same : like first second)
      (may : stop = true → stops) :
      Takes like stops (.kept first notices stop) (.kept second others stop)
  | panicked : Takes like stops .panicked .panicked

section Credits

variable {σ : Type} [RootStore σ] [Sink σ]

def Crawl.credit? (crawl : Crawl σ) (location : String) : Finding → Option (String × Entry)
  | .entry page => if (crawl.accept page).isSome then some (location, page) else none
  | _ => none

def Walk.credit? (walk : Walk) (crawl : Crawl σ) : Option (String × Entry) :=
  match walk.fetching, walk.frames with
  | none, frame :: _ => frame.pending.head?.bind (crawl.credit? frame.document.location)
  | _, _ => none

end Credits

theorem Desk.shutdown_guards {σ : Type} [RootStore σ] {one other : Desk σ}
    (guard : other.guard = one.guard) : other.shutdown.1.guard = one.shutdown.1.guard := by
  rw [shutdown_guard, shutdown_guard, guard]

section Readings

variable {σ : Type} [RootStore σ] {one other : Desk σ} {root : Root}

theorem Desk.recorded_same
    (read : RootStore.isResolved one.store root = RootStore.isResolved other.store root) :
    (other.recorded root).1 = (one.recorded root).1 := by
  unfold Desk.recorded
  rw [read]

theorem Desk.state_same (guard : other.guard = one.guard)
    (read : RootStore.isResolved one.store root = RootStore.isResolved other.store root) :
    (other.state root).1 = (one.state root).1 := by
  have recorded := recorded_same read
  unfold Desk.state
  rw [guard]
  split
  · rfl
  · split
    · rfl
    · split
      · rfl
      · simp only [recorded]

end Readings

def Phase.isWalking : Phase → Bool
  | .walking _ => true
  | _ => false

/-- What two runs have in common. -/
structure Pairing (σ : Type) [RootStore σ] [Sink σ] where
  setting : Setting
  /-- The scope of the second run. -/
  narrow : Scope
  first : Crawl σ
  second : Crawl σ
  /-- How the stores are alike as long as entries are taken. -/
  like : σ → σ → Prop
  /-- How they are alike in the end. -/
  told : σ → σ → Prop
  stops : Prop
  within : narrow.Within setting.scope
  answers : ∀ location fetched,
    setting.web.answer location ((first.journal.fetched ++ fetched).count location) =
      setting.web.answer location ((second.journal.fetched ++ fetched).count location)
  called : ∀ location count, (setting.web.answer location count).stops = true → stops
  shown : ∀ {one other}, like one other → told one other
  read : ∀ {one other}, told one other → ∀ root,
    RootStore.isResolved one root = RootStore.isResolved other root
  marked : ∀ {one other}, like one other → ∀ root,
    Answers told (RootStore.markResolved one root) (RootStore.markResolved other root)
  closed : ∀ {one other}, like one other → stops →
    Answers like (RootStore.close one) (RootStore.close other)
  taken : ∀ {one other}, like one other → ∀ entry,
    Takes like stops (Sink.accept one entry) (Sink.accept other entry)
  /-- An entry that the second run leaves out does not show in the first one either. -/
  skipped : ∀ {one other}, like one other → ∀ (page : Entry) location,
    setting.scope.passes page.reference location = true →
    narrow.passes page.reference location = false →
    ∃ after notices, Sink.accept one page = .kept after notices false ∧ like after other

namespace Pairing

variable {σ : Type} [RootStore σ] [Sink σ] (pairing : Pairing σ)

def narrowed : Setting := { pairing.setting with scope := pairing.narrow }

def keeps (credit : String × Entry) : Bool := pairing.narrow.passes credit.2.reference credit.1

/-- The two crawls, after the first one handed some entries over. -/
structure Level (same : σ → σ → Prop) (credits : List (String × Entry)) (first second : Crawl σ) :
    Prop where
  guard : second.desk.guard = first.desk.guard
  elder : second.elder = first.elder
  store : same first.desk.store second.desk.store
  disk : first.disk.Alike pairing.setting.staging.place second.disk
  fetched : ∃ fetched, first.journal.fetched = pairing.first.journal.fetched ++ fetched ∧
    second.journal.fetched = pairing.second.journal.fetched ++ fetched
  handed : first.journal.accepted = pairing.first.journal.accepted ++ credits.map (·.2)
  selected : second.journal.accepted =
    pairing.second.journal.accepted ++ (credits.filter pairing.keeps).map (·.2)

abbrev Beside (credits : List (String × Entry)) (first second : Crawl σ) : Prop :=
  pairing.Level pairing.like credits first second

section Levels

variable {pairing} {same : σ → σ → Prop} {credits : List (String × Entry)} {first second : Crawl σ}

theorem Level.note (level : pairing.Level same credits first second)
    (notices others : List Notice) :
    pairing.Level same credits (first.note notices) (second.note others) where
  guard := level.guard
  elder := level.elder
  store := level.store
  disk := level.disk
  fetched := by simpa using level.fetched
  handed := by simpa using level.handed
  selected := by simpa using level.selected

theorem Level.log (level : pairing.Level same credits first second) {event : Event}
    (unasked : Journal.fetched [event] = []) (unheard : Journal.accepted [event] = []) :
    pairing.Level same credits (first.log event) (second.log event) := by
  have fetched (journal : Journal) : Journal.fetched (event :: journal) = journal.fetched := by
    simpa [Journal.fetched] using unasked
  have accepted (journal : Journal) : Journal.accepted (event :: journal) = journal.accepted := by
    simpa [Journal.accepted] using unheard
  refine ⟨level.guard, level.elder, level.store, level.disk, ?_, ?_, ?_⟩
  · simpa only [Crawl.log, fetched] using level.fetched
  · simpa only [Crawl.log, accepted] using level.handed
  · simpa only [Crawl.log, accepted] using level.selected

theorem Level.moved (level : pairing.Level same credits first second) {still : σ → σ → Prop}
    {one other : Desk σ} (guard : other.guard = one.guard) (store : still one.store other.store) :
    pairing.Level still credits { first with desk := one } { second with desk := other } :=
  ⟨guard, level.elder, store, level.disk, level.fetched, level.handed, level.selected⟩

theorem Level.stored (level : pairing.Level same credits first second) {disk drive : Disk}
    (alike : disk.Alike pairing.setting.staging.place drive) :
    pairing.Level same credits { first with disk := disk } { second with disk := drive } :=
  ⟨level.guard, level.elder, level.store, alike, level.fetched, level.handed, level.selected⟩

theorem Level.drop (level : pairing.Level same credits first second) (root : Root) :
    pairing.Level same credits (first.drop root) (second.drop root) := by
  have guard : (second.drop root).desk.guard = (first.drop root).desk.guard := by
    rw [Crawl.drop_desk, Crawl.drop_desk, level.guard]
  have dropped : pairing.Level same credits
      ({ first with desk := (first.drop root).desk }.log (.dropped root))
      ({ second with desk := (second.drop root).desk }.log (.dropped root)) :=
    (level.moved guard level.store).log rfl rfl
  exact dropped.note _ _

theorem Level.told (level : pairing.Level pairing.like credits first second) :
    pairing.Level pairing.told credits first second :=
  level.moved level.guard (pairing.shown level.store)

end Levels

section Crawls

variable {pairing} {credits : List (String × Entry)} {first second : Crawl σ}

theorem Beside.stopped (beside : pairing.Beside credits first second) :
    second.stopped = first.stopped :=
  congrArg Guard.stopped beside.guard

theorem shutdown_like {one other : Desk σ} (guard : other.guard = one.guard)
    (same : pairing.like one.store other.store) (may : pairing.stops) :
    pairing.like one.shutdown.1.store other.shutdown.1.store := by
  have closed := pairing.closed same may
  unfold Desk.shutdown
  rw [guard]
  split
  · exact same
  · simp only [Desk.raise, Desk.closeStore]
    generalize RootStore.close one.store = first at closed
    generalize RootStore.close other.store = second at closed
    cases closed with
    | stores still => exact still
    | faults => exact same

theorem Beside.shutdown (beside : pairing.Beside credits first second) (may : pairing.stops) :
    pairing.Beside credits first.shutdown second.shutdown := by
  have guard := Desk.shutdown_guards beside.guard
  have store := shutdown_like beside.guard beside.store may
  exact (beside.moved guard store).note _ _

theorem Beside.stopFromOutside (beside : pairing.Beside credits first second)
    (may : pairing.stops) :
    pairing.Beside credits first.stopFromOutside second.stopFromOutside := by
  unfold Crawl.stopFromOutside
  rw [beside.elder]
  cases first.elder with
  | none => exact beside.shutdown may
  | some guard =>
    apply Level.note
    refine ⟨beside.guard, ?_, ?_, beside.disk, beside.fetched, beside.handed, beside.selected⟩
    · exact congrArg some (Desk.shutdown_guards rfl)
    · exact shutdown_like rfl beside.store may

theorem Beside.request (beside : pairing.Beside credits first second) (location : String) :
    (second.request pairing.setting.web location).1 =
        (first.request pairing.setting.web location).1 ∧
      pairing.Beside credits (first.request pairing.setting.web location).2
        (second.request pairing.setting.web location).2 := by
  obtain ⟨fetched, before, other⟩ := beside.fetched
  have answers : pairing.setting.web.answer location (second.journal.requests location) =
      pairing.setting.web.answer location (first.journal.requests location) := by
    rw [Journal.requests_eq, Journal.requests_eq, before, other]
    exact (pairing.answers location fetched).symm
  have asked : pairing.Beside credits (first.log (.fetched location))
      (second.log (.fetched location)) := by
    refine ⟨beside.guard, beside.elder, beside.store, beside.disk, ?_, ?_, ?_⟩
    · refine ⟨fetched ++ [location], ?_, ?_⟩
      · simp [Crawl.log, Journal.fetched_cons, before]
      · simp [Crawl.log, Journal.fetched_cons, other]
    · simpa [Crawl.log, Journal.accepted_cons] using beside.handed
    · simpa [Crawl.log, Journal.accepted_cons] using beside.selected
  unfold Crawl.request
  simp only [answers, true_and]
  split
  · rename_i stop
    exact asked.stopFromOutside (pairing.called location _ stop)
  · exact asked

theorem Beside.accept (beside : pairing.Beside credits first second) {location : String}
    {page : Entry} (keeps : pairing.keeps (location, page) = true) :
    first.accept page = none ∧ second.accept page = none ∨
      ∃ later other, first.accept page = some later ∧ second.accept page = some other ∧
        pairing.Beside (credits ++ [(location, page)]) later other := by
  have taken := pairing.taken beside.store page
  unfold Crawl.accept
  generalize Sink.accept first.desk.store page = one at taken
  generalize Sink.accept second.desk.store page = two at taken
  cases taken with
  | panicked => exact Or.inl ⟨rfl, rfl⟩
  | @kept store other notices others stop same may =>
    right
    have kept : pairing.Beside (credits ++ [(location, page)])
        (({ first with desk := { first.desk with store := store } }.log
          (.accepted page)).note notices)
        (({ second with desk := { second.desk with store := other } }.log
          (.accepted page)).note others) := by
      apply Level.note
      refine ⟨beside.guard, beside.elder, same, beside.disk, ?_, ?_, ?_⟩
      · simpa [Crawl.log, Journal.fetched_cons] using beside.fetched
      · simp [Crawl.log, Journal.accepted_cons, beside.handed]
      · simp [Crawl.log, Journal.accepted_cons, beside.selected, keeps]
    refine ⟨_, _, rfl, rfl, ?_⟩
    split
    · rename_i stops
      exact kept.shutdown (may stops)
    · exact kept

theorem Beside.skip (beside : pairing.Beside credits first second) {location : String}
    {page : Entry} (passes : pairing.setting.scope.passes page.reference location = true)
    (leaves : pairing.keeps (location, page) = false) :
    ∃ later, first.accept page = some later ∧
      pairing.Beside (credits ++ [(location, page)]) later second := by
  obtain ⟨store, notices, kept, same⟩ := pairing.skipped beside.store page location passes leaves
  have noted : pairing.Beside (credits ++ [(location, page)])
      (({ first with desk := { first.desk with store := store } }.log
        (.accepted page)).note notices) (second.note []) := by
    apply Level.note
    refine ⟨beside.guard, beside.elder, same, beside.disk, ?_, ?_, ?_⟩
    · simpa [Crawl.log, Journal.fetched_cons] using beside.fetched
    · simp [Crawl.log, Journal.accepted_cons, beside.handed]
    · simp [beside.selected, leaves]
  refine ⟨_, ?_, noted⟩
  unfold Crawl.accept
  rw [kept]
  rfl

end Crawls

structure Frames (first second : Frame) : Prop where
  twin : Document.Twin pairing.setting.scope pairing.narrow first.document second.document
  pending : second.pending =
    first.pending.map (Finding.judge pairing.narrow first.document.location)
  passing : ∀ page, .entry page ∈ first.pending →
    pairing.setting.scope.passes page.reference first.document.location = true
  ended : second.ended = first.ended
  placed : first.file.directory = pairing.setting.staging.place
  laid : second.file.directory = pairing.setting.staging.place

structure Walks (first second : Walk) : Prop where
  candidates : second.candidates = first.candidates
  visited : second.visited = first.visited
  fetching : second.fetching = first.fetching
  frames : List.Forall₂ pairing.Frames first.frames second.frames

inductive Turns (credits : List (String × Entry)) : Turn σ → Turn σ → Prop
  | onward {first second : Walk} {one other : Crawl σ} (walks : pairing.Walks first second)
      (beside : pairing.Beside credits one other) :
      Turns credits (.onward first one) (.onward second other)
  | finished {visited : List String} {one other : Crawl σ}
      (beside : pairing.Beside credits one other) :
      Turns credits (.finished visited one) (.finished visited other)
  | panicked {one other : Crawl σ} (beside : pairing.Beside credits one other) :
      Turns credits (.panicked one) (.panicked other)

section Steps

variable {pairing} {credits : List (String × Entry)} {first second : Walk} {one other : Crawl σ}

theorem Walks.start (candidates : List String) :
    pairing.Walks (.start candidates) (.start candidates) :=
  ⟨rfl, rfl, rfl, .nil⟩

theorem Frames.within {inner outer : List Frame}
    (frames : List.Forall₂ pairing.Frames inner outer) :
    (∀ frame ∈ inner, frame.file.directory = pairing.setting.staging.place) ∧
      ∀ frame ∈ outer, frame.file.directory = pairing.setting.staging.place := by
  induction frames with
  | nil => exact ⟨List.forall_mem_nil _, List.forall_mem_nil _⟩
  | cons both _ ih =>
    constructor
    · intro frame member
      rcases List.mem_cons.mp member with rfl | member
      · exact both.placed
      · exact ih.1 frame member
    · intro frame member
      rcases List.mem_cons.mp member with rfl | member
      · exact both.laid
      · exact ih.2 frame member

theorem Walks.unwind (walks : pairing.Walks first second)
    (beside : pairing.Beside credits one other) :
    pairing.Beside credits (first.unwind one) (second.unwind other) := by
  obtain ⟨placed, laid⟩ := Frames.within walks.frames
  have alike := ((first.unwind_alike placed).symm.trans beside.disk).trans
    (second.unwind_alike laid)
  exact beside.stored alike

theorem Walks.visit (walks : pairing.Walks first second)
    (beside : pairing.Beside credits one other) (location : String) :
    pairing.Walks (first.visit location one).1 (second.visit location other).1 ∧
      pairing.Beside credits (first.visit location one).2 (second.visit location other).2 := by
  unfold Walk.visit
  rw [walks.visited, beside.stopped]
  split
  · exact ⟨walks, beside⟩
  · split
    · exact ⟨walks, beside.note _ _⟩
    · exact ⟨⟨walks.candidates, rfl, rfl, walks.frames⟩, beside.note _ _⟩

theorem Walks.descend (walks : pairing.Walks first second) (location : String) {file stored : File}
    (content : stored.content = file.content)
    (placed : file.directory = pairing.setting.staging.place)
    (laid : stored.directory = pairing.setting.staging.place) :
    pairing.Walks (first.descend pairing.setting location file)
      (second.descend pairing.narrowed location stored) := by
  refine ⟨walks.candidates, walks.visited, walks.fetching, .cons ?_ walks.frames⟩
  refine ⟨?_, rfl, fun _ member => absurd member List.not_mem_nil, rfl, placed, laid⟩
  rw [content]
  exact Document.ofBytes_twin _ _ location file.content none

theorem Walks.fetch (walks : pairing.Walks first second)
    (beside : pairing.Beside credits one other) (location : String) :
    pairing.Turns credits (first.fetch pairing.setting location one)
      (second.fetch pairing.narrowed location other) := by
  obtain ⟨result, asked⟩ := beside.request location
  unfold Walk.fetch
  rw [show pairing.narrowed.web = pairing.setting.web from rfl,
    show pairing.narrowed.staging = pairing.setting.staging from rfl]
  generalize one.request pairing.setting.web location = question at result asked ⊢
  generalize other.request pairing.setting.web location = again at result asked ⊢
  obtain ⟨answer, one⟩ := question
  obtain ⟨other_answer, other⟩ := again
  simp only at result asked
  subst result
  cases other_answer with
  | none => exact .panicked (walks.unwind asked)
  | some answer =>
    simp only
    have content := pairing.setting.staging.stage_content asked.disk location answer
    have placed := fun file (staged : (pairing.setting.staging.stage one.disk location answer).1 =
      .file file) => pairing.setting.staging.stage_placed staged
    have laid := fun file (staged : (pairing.setting.staging.stage other.disk location answer).1 =
      .file file) => pairing.setting.staging.stage_placed staged
    have alike := ((pairing.setting.staging.stage_alike one.disk location answer).symm.trans
      asked.disk).trans (pairing.setting.staging.stage_alike other.disk location answer)
    generalize pairing.setting.staging.stage one.disk location answer = here
      at content placed alike ⊢
    generalize pairing.setting.staging.stage other.disk location answer = there
      at content laid alike ⊢
    obtain ⟨staged, disk⟩ := here
    obtain ⟨stored, drive⟩ := there
    have moved : pairing.Beside credits { one with disk := disk } { other with disk := drive } :=
      asked.stored alike
    cases staged with
    | file file =>
      cases stored with
      | file stored =>
        have same : stored.content = file.content := (Option.some.inj content).symm
        exact .onward (walks.descend location same (placed file rfl) (laid stored rfl)) moved
      | absent => cases content
      | failed fault => cases content
    | absent =>
      cases stored with
      | file stored => cases content
      | absent => exact .onward walks (moved.note _ _)
      | failed fault => exact .onward walks (moved.note _ _)
    | failed fault =>
      cases stored with
      | file stored => cases content
      | absent => exact .onward walks (moved.note _ _)
      | failed fault => exact .onward walks (moved.note _ _)

theorem Walks.deliver (walks : pairing.Walks first second)
    (beside : pairing.Beside credits one other) (location : String) (finding : Finding)
    (passing : ∀ page, finding = .entry page →
      pairing.setting.scope.passes page.reference location = true) :
    pairing.Turns (credits ++ (one.credit? location finding).toList)
      (first.deliver location finding one)
      (second.deliver location (finding.judge pairing.narrow location) other) := by
  cases finding with
  | entry page =>
    by_cases keeps : pairing.narrow.passes page.reference location = true
    · simp only [Finding.judge, keeps, if_true, Walk.deliver, Crawl.credit?]
      rcases beside.accept keeps with ⟨refused, also⟩ | ⟨later, then_, accepted, also, kept⟩
      · simp only [refused, also, Option.isSome_none, Bool.false_eq_true, if_false,
          Option.toList_none, List.append_nil]
        exact .panicked (walks.unwind beside)
      · simp only [accepted, also, Option.isSome_some, if_true, Option.toList_some]
        exact .onward walks kept
    · have leaves : pairing.keeps (location, page) = false := Bool.eq_false_iff.mpr keeps
      obtain ⟨later, accepted, skipped⟩ := beside.skip (passing page rfl) leaves
      simp only [Finding.judge, keeps, Walk.deliver, Crawl.credit?, accepted, Option.isSome_some,
        if_true, Option.toList_some]
      exact .onward walks (skipped.note [] _)
  | child child =>
    simp only [Crawl.credit?, Option.toList_none, List.append_nil]
    obtain ⟨visits, visited⟩ := walks.visit beside child
    exact .onward visits visited
  | badDate value | badPriority value | outOfScope value =>
    simp only [Crawl.credit?, Option.toList_none, List.append_nil]
    exact .onward walks (beside.note _ _)

theorem Walks.leave (walks : pairing.Walks first second)
    (beside : pairing.Beside credits one other) {file stored : File}
    (placed : file.directory = pairing.setting.staging.place)
    (laid : stored.directory = pairing.setting.staging.place) :
    pairing.Turns credits (first.leave file one) (second.leave stored other) := by
  have alike := ((one.disk.alike_delete placed).symm.trans beside.disk).trans
    (other.disk.alike_delete laid)
  exact .onward walks (beside.stored alike)

theorem Walks.read (walks : pairing.Walks first second)
    (beside : pairing.Beside credits one other) {inner also : Frame} {outer rest : List Frame}
    (frame : pairing.Frames inner also) (frames : List.Forall₂ pairing.Frames outer rest) :
    pairing.Turns credits (first.read inner outer one) (second.read also rest other) := by
  have left : pairing.Walks { first with frames := outer } { second with frames := rest } :=
    ⟨walks.candidates, walks.visited, walks.fetching, frames⟩
  have next := frame.twin.next pairing.within
  have passing : ∀ page, .entry page ∈ inner.document.next.findings →
      pairing.setting.scope.passes page.reference inner.document.location = true :=
    fun page found => frame.twin.passing found
  -- the open documents once the next event is read
  have turned {ended : Bool} {found told : Document × List Finding}
      (agree : Document.Agree pairing.setting.scope pairing.narrow inner.document.location found
        told)
      (passes : ∀ page, .entry page ∈ found.2 →
        pairing.setting.scope.passes page.reference inner.document.location = true) :
      pairing.Turns credits
        (.onward { first with frames := ⟨found.1, inner.file, found.2, ended⟩ :: outer } one)
        (.onward { second with frames := ⟨told.1, also.file, told.2, ended⟩ :: rest } other) := by
    rw [← agree.located] at passes
    have judged := agree.judged
    rw [← agree.located] at judged
    exact .onward ⟨walks.candidates, walks.visited, walks.fetching,
      .cons ⟨agree.twin, judged, passes, rfl, frame.placed, frame.laid⟩ frames⟩ beside
  unfold Walk.read
  dsimp only
  rw [beside.stopped]
  split
  · exact left.leave (beside.note _ _) frame.placed frame.laid
  · generalize inner.document.next = event at next passing ⊢
    generalize also.document.next = echo at next ⊢
    cases next with
    | failed => exact left.leave (beside.note _ _) frame.placed frame.laid
    | finished agree => exact turned agree passing
    | onward agree => exact turned agree passing

theorem Walks.step (walks : pairing.Walks first second)
    (beside : pairing.Beside credits one other) :
    pairing.Turns (credits ++ (first.credit? one).toList) (first.step pairing.setting one)
      (second.step pairing.narrowed other) := by
  obtain ⟨_, _, _, inner⟩ := first
  obtain ⟨candidates, visited, fetching, also⟩ := second
  obtain ⟨rfl, rfl, rfl, frames⟩ := walks
  dsimp only at frames ⊢
  cases fetching with
  | some location =>
    have attempted : pairing.Walks ⟨candidates, location :: visited, none, inner⟩
        ⟨candidates, location :: visited, none, also⟩ := ⟨rfl, rfl, rfl, frames⟩
    simp only [Walk.credit?, Option.toList_none, List.append_nil]
    exact attempted.fetch beside location
  | none =>
    cases frames with
    | nil =>
      simp only [Walk.credit?, Option.toList_none, List.append_nil]
      cases candidates with
      | nil => exact .finished beside
      | cons location rest =>
        have walks : pairing.Walks ⟨rest, visited, none, []⟩ ⟨rest, visited, none, []⟩ :=
          ⟨rfl, rfl, rfl, .nil⟩
        obtain ⟨visits, visited⟩ := walks.visit beside location
        exact .onward visits visited
    | @cons inner also outer rest frame frames =>
      have located : also.document.location = inner.document.location := by
        rw [frame.twin.same]
        rfl
      have pending := frame.pending
      have passing := frame.passing
      cases due : inner.pending with
      | nil =>
        rw [due] at pending
        simp only [Walk.credit?, Walk.step, due, pending, List.map_nil, List.head?_nil,
          Option.bind_none, Option.toList_none, List.append_nil, frame.ended]
        split
        · have left : pairing.Walks ⟨candidates, visited, none, outer⟩
              ⟨candidates, visited, none, rest⟩ := ⟨rfl, rfl, rfl, frames⟩
          exact left.leave (beside.note _ _) frame.placed frame.laid
        · have walks : pairing.Walks ⟨candidates, visited, none, inner :: outer⟩
              ⟨candidates, visited, none, also :: rest⟩ := ⟨rfl, rfl, rfl, .cons frame frames⟩
          exact walks.read beside frame frames
      | cons finding findings =>
        rw [due] at pending passing
        simp only [Walk.credit?, Walk.step, due, pending, List.map_cons, List.head?_cons,
          Option.bind_some, located]
        generalize told : findings.map (Finding.judge pairing.narrow inner.document.location) = left
        have popped : pairing.Frames { inner with pending := findings }
            { also with pending := left } :=
          ⟨frame.twin, told.symm, fun page member => passing page (List.mem_cons_of_mem _ member),
            frame.ended, frame.placed, frame.laid⟩
        have walks : pairing.Walks
            ⟨candidates, visited, none, { inner with pending := findings } :: outer⟩
            ⟨candidates, visited, none, { also with pending := left } :: rest⟩ :=
          ⟨rfl, rfl, rfl, .cons popped frames⟩
        exact walks.deliver beside inner.document.location finding
          fun page same => passing page (same ▸ List.mem_cons_self)

theorem Walks.credit_passes (walks : pairing.Walks first second) {credit : String × Entry}
    (due : first.credit? one = some credit) :
    pairing.setting.scope.passes credit.2.reference credit.1 = true := by
  obtain ⟨_, _, fetching, inner⟩ := first
  obtain ⟨_, _, _, outer⟩ := second
  obtain ⟨-, -, -, frames⟩ := walks
  dsimp only at frames
  unfold Walk.credit? at due
  cases fetching with
  | some location => cases due
  | none =>
    cases frames with
    | nil => cases due
    | @cons inner _ _ _ frame _ =>
      obtain ⟨finding, head, told⟩ := Option.bind_eq_some_iff.mp due
      have pending : finding ∈ inner.pending := List.mem_of_head? head
      cases finding with
      | entry page =>
        obtain ⟨-, rfl⟩ := Option.ite_some_none_eq_some.mp told
        exact frame.passing page pending
      | _ => cases told

end Steps

section Claims

variable {pairing} {credits : List (String × Entry)} {one other : Crawl σ} (root : Root)

theorem Level.state (level : pairing.Level pairing.told credits one other) :
    (other.desk.state root).1 = (one.desk.state root).1 :=
  Desk.state_same level.guard (pairing.read level.store root)

theorem Beside.isTaken (beside : pairing.Beside credits one other) :
    (other.desk.isTaken root).1 = (one.desk.isTaken root).1 := by
  unfold Desk.isTaken
  rw [beside.guard]
  split
  · rfl
  · exact Desk.recorded_same (pairing.read (pairing.shown beside.store) root)

theorem Beside.enter (beside : pairing.Beside credits one other) :
    (other.enter root).1 = (one.enter root).1 ∧
      pairing.Beside credits (one.enter root).2 (other.enter root).2 := by
  have taken := beside.isTaken root
  unfold Crawl.enter Desk.claim
  simp only [taken]
  split
  · exact ⟨rfl, beside.note _ _⟩
  · refine ⟨rfl, ?_⟩
    have active : (other.desk.activate root).guard = (one.desk.activate root).guard := by
      simp only [Desk.activate, beside.guard]
    exact ((beside.moved active beside.store).note _ _).log rfl rfl

theorem Beside.finish (beside : pairing.Beside credits one other) :
    pairing.Level pairing.told credits (one.finish root) (other.finish root) := by
  have guard : (other.finish root).desk.guard = (one.finish root).desk.guard := by
    rw [Crawl.finish_guard, Crawl.finish_guard, beside.guard]
  have store : pairing.told (one.finish root).desk.store (other.finish root).desk.store := by
    have marked := pairing.marked beside.store root
    rcases one.finish_store root with made | ⟨⟨fault, failed⟩, same⟩
    · rcases other.finish_store root with also | ⟨⟨fault, failed⟩, -⟩
      · rw [made, also] at marked
        cases marked with
        | stores still => exact still
      · rw [made, failed] at marked
        cases marked
    · rcases other.finish_store root with also | ⟨-, still⟩
      · rw [failed, also] at marked
        cases marked
      · rw [same, still]
        exact pairing.shown beside.store
  have finished : pairing.Level pairing.told credits
      ({ one with desk := (one.finish root).desk }.log (.finished root))
      ({ other with desk := (other.finish root).desk }.log (.finished root)) :=
    (beside.moved guard store).log rfl rfl
  exact finished.note _ _

end Claims

inductive Phases : Phase → Phase → Prop
  | walking {first second : Walk} (walks : pairing.Walks first second) :
      Phases (.walking first) (.walking second)
  | same {phase : Phase} (still : phase.isWalking = false) : Phases phase phase

/-- The two runs between two steps. -/
structure Abreast (credits : List (String × Entry)) (phase also : Phase) (one other : Crawl σ) :
    Prop where
  phases : pairing.Phases phase also
  beside : phase.isOver = false → pairing.Beside credits one other
  told : pairing.Level pairing.told credits one other

end Pairing

namespace Job

variable {σ : Type} [RootStore σ] [Sink σ] (job : Job)

def credit? (phase : Phase) (crawl : Crawl σ) : Option (String × Entry) :=
  match phase with
  | .walking walk => walk.credit? crawl
  | _ => none

/-- The entries that a job hands over from a phase on, each with the location of the document that
declared it. -/
def creditsFrom (setting : Setting) (phase : Phase) (crawl : Crawl σ) : List (String × Entry) :=
  if _more : phase.isOver = false then
    let next := job.step setting phase crawl
    (credit? phase crawl).toList ++ creditsFrom setting next.1 next.2
  else []
  termination_by (phase.rank, phase.work setting.web)
  decreasing_by
    rcases step_shorter job setting phase crawl _more with lower | ⟨same, less⟩
    · exact Prod.Lex.left _ _ lower
    · rw [same]
      exact Prod.Lex.right _ less.lex

def credits (setting : Setting) (crawl : Crawl σ) : List (String × Entry) :=
  job.creditsFrom setting .asking crawl

end Job

namespace Pairing

variable {σ : Type} [RootStore σ] [Sink σ] {pairing : Pairing σ} {credits : List (String × Entry)}
  {one other : Crawl σ} (job : Job)

theorem Level.abreast {phase also : Phase} (level : pairing.Level pairing.like credits one other)
    (phases : pairing.Phases phase also) : pairing.Abreast credits phase also one other :=
  ⟨phases, fun _ => level, level.told⟩

theorem Level.ended {phase also : Phase} (level : pairing.Level pairing.told credits one other)
    (phases : pairing.Phases phase also) (halted : phase.isOver = true) :
    pairing.Abreast credits phase also one other := by
  refine ⟨phases, fun more => ?_, level⟩
  rw [halted] at more
  cases more

theorem setOut_abreast (beside : pairing.Beside credits one other) (explicit : List String) :
    pairing.Abreast credits (job.setOut pairing.setting explicit one).1
      (job.setOut pairing.narrowed explicit other).1 (job.setOut pairing.setting explicit one).2
      (job.setOut pairing.narrowed explicit other).2 := by
  obtain ⟨notices, out⟩ := job.setOut_note pairing.setting one explicit
  obtain ⟨others, also⟩ := job.setOut_note pairing.narrowed other explicit
  rw [out, also]
  exact (beside.note notices others).abreast (.walking (.start _))

theorem gather_abreast (beside : pairing.Beside credits one other) :
    pairing.Abreast credits (job.gather pairing.setting one).1
      (job.gather pairing.narrowed other).1 (job.gather pairing.setting one).2
      (job.gather pairing.narrowed other).2 := by
  unfold Job.gather
  split
  · obtain ⟨result, asked⟩ := beside.request (Robots.location job.root)
    unfold Robots.fetch
    rw [show pairing.narrowed.web = pairing.setting.web from rfl]
    generalize one.request pairing.setting.web (Robots.location job.root) = question
      at result asked ⊢
    generalize other.request pairing.setting.web (Robots.location job.root) = again
      at result asked ⊢
    obtain ⟨_, one⟩ := question
    obtain ⟨answer, other⟩ := again
    simp only at result asked
    subst result
    cases answer with
    | none => exact asked.abreast (.same rfl)
    | some answer => exact setOut_abreast job (asked.note _ _) _
  · exact setOut_abreast job beside job.given

theorem step_abreast {phase also : Phase} (abreast : pairing.Abreast credits phase also one other) :
    let next := job.step pairing.setting phase one
    let then_ := job.step pairing.narrowed also other
    pairing.Abreast (credits ++ (Job.credit? phase one).toList) next.1 then_.1 next.2 then_.2 := by
  obtain ⟨phases, beside, told⟩ := abreast
  cases phases with
  | @walking first second walks =>
    have turns := walks.step (beside rfl)
    simp only [Job.step, Job.credit?]
    generalize first.step pairing.setting one = turn at turns ⊢
    generalize second.step pairing.narrowed other = also at turns ⊢
    cases turns with
    | onward walks beside => exact beside.abreast (.walking walks)
    | finished beside => exact beside.abreast (.same rfl)
    | panicked beside => exact beside.abreast (.same rfl)
  | @same phase still =>
    have silent : (Job.credit? phase one).toList = [] := by
      cases phase with
      | walking walk => cases still
      | _ => rfl
    rw [silent, List.append_nil]
    cases phase with
    | asking =>
      have beside := beside rfl
      simp only [Job.step, beside.stopped]
      split
      · exact (beside.note _ _).abreast (.same rfl)
      · exact beside.abreast (.same rfl)
    | entering =>
      obtain ⟨granted, entered⟩ := (beside rfl).enter job.root
      simp only [Job.step, granted]
      split
      · exact entered.abreast (.same rfl)
      · exact entered.abreast (.same rfl)
    | gathering => exact gather_abreast job (beside rfl)
    | walking walk => cases still
    | closing visited =>
      have beside := beside rfl
      simp only [Job.step, beside.stopped]
      split
      · exact (beside.note _ _).abreast (.same rfl)
      · exact beside.abreast (.same rfl)
    | finishing visited => exact (((beside rfl).finish job.root).note _ _).ended (.same rfl) rfl
    | dropping panics =>
      cases panics <;> exact (told.drop job.root).ended (.same rfl) rfl
    | done => exact told.ended (.same rfl) rfl
    | panicked => exact told.ended (.same rfl) rfl

theorem Phases.isOver {phase also : Phase} (phases : pairing.Phases phase also) :
    also.isOver = phase.isOver := by
  cases phases with
  | walking walks => rfl
  | same still => rfl

theorem runFrom_abreast {phase also : Phase}
    (abreast : pairing.Abreast credits phase also one other) :
    let last := job.runFrom pairing.setting phase one
    let end_ := job.runFrom pairing.narrowed also other
    pairing.Abreast (credits ++ job.creditsFrom pairing.setting phase one) last.1 end_.1
      last.2 end_.2 := by
  fun_induction job.creditsFrom pairing.setting phase one generalizing credits also other with
  | case1 phase one more next =>
    rename_i ih
    have rest := ih (step_abreast job abreast)
    rw [Job.runFrom_step, Job.runFrom_step, List.append_assoc] at rest
    exact rest
  | case2 phase one closed =>
    have ended : phase.isOver = true := by simpa using closed
    have also_ended := abreast.phases.isOver.trans ended
    simp only [List.append_nil]
    unfold Job.runFrom
    simp only [ended, also_ended, Bool.true_eq_false, dite_false]
    exact abreast

theorem creditsFrom_pass {phase also : Phase}
    (abreast : pairing.Abreast credits phase also one other) :
    ∀ credit ∈ job.creditsFrom pairing.setting phase one,
      pairing.setting.scope.passes credit.2.reference credit.1 = true := by
  fun_induction job.creditsFrom pairing.setting phase one generalizing credits also other with
  | case1 phase one more next =>
    rename_i ih
    intro credit member
    rcases List.mem_append.mp member with due | later
    · rw [Option.mem_toList] at due
      obtain ⟨phases, -, -⟩ := abreast
      cases phases with
      | walking walks => exact walks.credit_passes due
      | same still =>
        cases phase with
        | walking walk => cases still
        | _ => cases due
    · exact ih (step_abreast job abreast) credit later
  | case2 phase one closed => exact List.forall_mem_nil _

theorem start (pairing : Pairing σ) (guard : pairing.second.desk.guard = pairing.first.desk.guard)
    (elder : pairing.second.elder = pairing.first.elder)
    (store : pairing.like pairing.first.desk.store pairing.second.desk.store)
    (disk : pairing.first.disk.Alike pairing.setting.staging.place pairing.second.disk) :
    pairing.Abreast [] .asking .asking pairing.first pairing.second := by
  have beside : pairing.Beside [] pairing.first pairing.second :=
    ⟨guard, elder, store, disk, ⟨[], by simp⟩, by simp, by simp⟩
  exact beside.abreast (.same rfl)

theorem run_abreast (start : pairing.Abreast [] .asking .asking pairing.first pairing.second) :
    let last := job.run pairing.setting pairing.first
    let end_ := job.run pairing.narrowed pairing.second
    end_.1 = last.1 ∧ pairing.Level pairing.told (job.credits pairing.setting pairing.first)
      last.2 end_.2 := by
  have abreast := runFrom_abreast job start
  have halted := (job.runFrom_keeps pairing.setting (fun _ _ => True) (fun _ _ _ => trivial)
    .asking pairing.first trivial).2
  obtain ⟨phases, -, told⟩ := abreast
  refine ⟨?_, told⟩
  unfold Job.run
  generalize (job.runFrom pairing.setting .asking pairing.first).1 = last at phases halted ⊢
  generalize (job.runFrom pairing.narrowed .asking pairing.second).1 = end_ at phases ⊢
  cases phases with
  | walking walks => cases halted
  | same still => rfl

end Pairing

end Sitemaps
