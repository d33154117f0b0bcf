import Sitemaps.Proofs.Alone
import Sitemaps.Proofs.Nesting
import Sitemaps.Proofs.Staging

/-!
A stop is final. It can come only with an answer or from whoever takes an entry, and what the walk
was about to do then was the only thing it was about to do; from then on it just leaves its
documents.
-/

namespace Sitemaps

def Frame.owes (frame : Frame) : Nat := frame.pending.countP Sitemap.Finding.handsOn

/-- One location was fetched, or one entry was handed over. -/
def Crawl.Calls {σ : Type} (before after : Crawl σ) : Prop :=
  (∃ location, after.journal.fetched = before.journal.fetched ++ [location] ∧
    after.journal.accepted = before.journal.accepted) ∨
  ∃ entry, after.journal.fetched = before.journal.fetched ∧
    after.journal.accepted = before.journal.accepted ++ [entry]

namespace Walk

structure Quiet (walk : Walk) : Prop where
  idle : walk.fetching = none
  still : ∀ frame ∈ walk.frames, frame.owes = 0

/-- One thing at most is about to be fetched or handed on, and the innermost document is its source.
-/
structure Orderly (walk : Walk) : Prop where
  balanced : ∀ frame ∈ walk.frames, frame.ended = false → frame.document.Balanced
  single : ∀ frame outer, walk.frames = frame :: outer →
    frame.owes + walk.fetching.toList.length ≤ 1
  outer : ∀ frame outer, walk.frames = frame :: outer → ∀ other ∈ outer, other.owes = 0

variable {walk : Walk}

theorem start_quiet (candidates : List String) : (start candidates).Quiet := by
  refine ⟨rfl, ?_⟩
  intro frame member
  cases member

theorem Quiet.orderly (quiet : walk.Quiet)
    (balanced : ∀ frame ∈ walk.frames, frame.ended = false → frame.document.Balanced) :
    walk.Orderly where
  balanced := balanced
  single frame outer frames := by
    rw [quiet.still frame (frames ▸ List.mem_cons_self), quiet.idle]
    exact Nat.zero_le 1
  outer frame outer frames other member :=
    quiet.still other (frames ▸ List.mem_cons_of_mem _ member)

theorem Quiet.visit (quiet : walk.Quiet) {σ : Type} (location : String) (crawl : Crawl σ)
    (balanced : ∀ frame ∈ walk.frames, frame.ended = false → frame.document.Balanced) :
    (walk.visit location crawl).1.Orderly := by
  unfold Walk.visit
  split
  · exact quiet.orderly balanced
  · split
    · exact quiet.orderly balanced
    · refine ⟨balanced, ?_, (quiet.orderly balanced).outer⟩
      intro frame outer frames
      rw [quiet.still frame (frames ▸ List.mem_cons_self)]
      exact Nat.le_refl 1

theorem Orderly.attempt (orderly : walk.Orderly) {location : String}
    (fetching : walk.fetching = some location) : (walk.attempt location).Quiet := by
  refine ⟨rfl, ?_⟩
  intro frame member
  cases frames : walk.frames with
  | nil =>
    rw [Walk.attempt, frames] at member
    cases member
  | cons first outer =>
    rw [Walk.attempt, frames] at member
    rcases List.mem_cons.mp member with rfl | inside
    · have single := orderly.single frame outer frames
      simp only [fetching, Option.toList_some, List.length_singleton] at single
      omega
    · exact orderly.outer first outer frames frame inside

theorem Orderly.handed (orderly : walk.Orderly) (idle : walk.fetching = none) {frame : Frame}
    {outer : List Frame} {finding : Sitemap.Finding} {rest : List Sitemap.Finding}
    (frames : walk.frames = frame :: outer) (pending : frame.pending = finding :: rest)
    (hands : finding.handsOn = true) :
    ({ walk with frames := { frame with pending := rest } :: outer } : Walk).Quiet := by
  refine ⟨idle, ?_⟩
  intro other member
  rcases List.mem_cons.mp member with rfl | inside
  · have single := orderly.single frame outer frames
    simp only [Frame.owes, pending, List.countP_cons, hands, if_true] at single ⊢
    omega
  · exact orderly.outer frame outer frames other inside

theorem Orderly.meets (orderly : walk.Orderly) (idle : walk.fetching = none) {location : String}
    {next : Walk} (meets : walk.Meets location next) : next.Quiet := by
  cases meets with
  | candidate outermost candidates =>
    refine ⟨idle, ?_⟩
    intro frame member
    rw [outermost] at member
    cases member
  | child frames pending => exact orderly.handed idle frames pending rfl

theorem balanced_pending {frame : Frame} {outer : List Frame} (rest : List Sitemap.Finding)
    (balanced : ∀ other ∈ frame :: outer, other.ended = false → other.document.Balanced) :
    ∀ other ∈ { frame with pending := rest } :: outer,
      other.ended = false → other.document.Balanced := by
  intro other member
  rcases List.mem_cons.mp member with rfl | inside
  · exact balanced frame List.mem_cons_self
  · exact balanced other (List.mem_cons_of_mem _ inside)

theorem Meets.balanced {location : String} {next : Walk} (meets : walk.Meets location next)
    (balanced : ∀ frame ∈ walk.frames, frame.ended = false → frame.document.Balanced) :
    ∀ frame ∈ next.frames, frame.ended = false → frame.document.Balanced := by
  cases meets with
  | candidate outermost candidates => exact balanced
  | child frames pending =>
    rw [frames] at balanced
    exact balanced_pending _ balanced

section Step

variable {σ : Type} [RootStore σ] [Sink σ] {after : Walk} {setting : Setting}
  {crawl later : Crawl σ}

theorem step_orderly (orderly : walk.Orderly)
    (turn : walk.step setting crawl = .onward after later) : after.Orderly := by
  have outcome := step_outcome walk setting crawl
  rw [turn] at outcome
  cases outcome with
  | @opened location file fetching staged =>
    have quiet := orderly.attempt fetching
    refine Quiet.orderly ⟨rfl, ?_⟩ ?_
    · intro frame member
      rcases List.mem_cons.mp member with rfl | inside
      · rfl
      · exact quiet.still frame inside
    · intro frame member
      rcases List.mem_cons.mp member with rfl | inside
      · exact fun _ => Sitemap.Document.ofBytes_balanced location setting.scope file.content none
      · exact orderly.balanced frame inside
  | unopened notices fetching unstaged =>
    exact (orderly.attempt fetching).orderly orderly.balanced
  | met idle meets =>
    exact (orderly.meets idle meets).visit _ crawl (meets.balanced orderly.balanced)
  | handed idle frames pending accepted =>
    have balanced := orderly.balanced
    rw [frames] at balanced
    exact (orderly.handed idle frames pending rfl).orderly (balanced_pending _ balanced)
  | @told frame outer finding rest notices idle frames pending quiet =>
    have balanced := orderly.balanced
    rw [frames] at balanced
    refine ⟨balanced_pending _ balanced, ?_, ?_⟩
    · intro first others same
      cases same
      have single := orderly.single frame outer frames
      simpa [Frame.owes, pending, quiet] using single
    · intro first others same
      cases same
      exact orderly.outer frame outer frames
  | @left frame outer notices idle frames pending reason =>
    have quiet : ({ walk with frames := outer } : Walk).Quiet :=
      ⟨idle, orderly.outer frame outer frames⟩
    apply quiet.orderly
    intro other member
    exact orderly.balanced other (frames ▸ List.mem_cons_of_mem _ member)
  | @read frame outer document findings ended idle frames pending more going next =>
    have before := orderly.balanced frame (frames ▸ List.mem_cons_self) more
    have read : findings.countP Sitemap.Finding.handsOn ≤ 1 ∧
        (ended = false → document.Balanced) := by
      cases ended with
      | true => exact ⟨Sitemap.Document.finished_single next, nofun⟩
      | false =>
        have balanced := Sitemap.Document.next_balanced before next
        exact ⟨balanced.2, fun _ => balanced.1⟩
    refine ⟨?_, ?_, ?_⟩
    · intro other member
      rcases List.mem_cons.mp member with rfl | inside
      · exact read.2
      · exact orderly.balanced other (frames ▸ List.mem_cons_of_mem _ inside)
    · intro first others same
      cases same
      simpa [Frame.owes, idle] using read.1
    · intro first others same
      cases same
      exact orderly.outer frame outer frames

theorem step_calls {deed : Deed} (turn : walk.step setting crawl = .onward after later)
    (did : walk.deed? setting crawl = some deed) : crawl.Calls later := by
  have journal := step_journal turn
  rw [did] at journal
  cases deed with
  | attempt location found =>
    exact Or.inl ⟨location, journal.1, journal.2.trans (List.append_nil _)⟩
  | hand entry => exact Or.inr ⟨entry, journal.1.trans (List.append_nil _), journal.2⟩

/-- A stop raised in a step came with a deed, and with that all is done. -/
theorem step_stops (orderly : walk.Orderly) (going : crawl.stopped = false)
    (turn : walk.step setting crawl = .onward after later) (stopped : later.stopped = true) :
    after.Quiet ∧ crawl.Calls later := by
  have outcome := step_outcome walk setting crawl
  rw [turn] at outcome
  cases outcome with
  | @opened location file fetching staged =>
    have quiet := orderly.attempt fetching
    refine ⟨⟨rfl, ?_⟩, step_calls turn (deed?_fetching setting crawl fetching)⟩
    intro frame member
    rcases List.mem_cons.mp member with rfl | inside
    · rfl
    · exact quiet.still frame inside
  | @unopened location notices fetching unstaged =>
    exact ⟨orderly.attempt fetching, step_calls turn (deed?_fetching setting crawl fetching)⟩
  | @handed frame outer entry rest later idle frames pending accepted =>
    exact ⟨orderly.handed idle frames pending rfl,
      step_calls turn (deed?_entry setting crawl idle frames pending)⟩
  | @met location next idle meets =>
    obtain ⟨notices, noted⟩ := visit_note next location crawl
    rw [noted, Crawl.note_stopped, going] at stopped
    cases stopped
  | told notices idle frames pending quiet =>
    rw [Crawl.note_stopped, going] at stopped
    cases stopped
  | left notices idle frames pending reason =>
    have stopped : crawl.stopped = true := stopped
    rw [going] at stopped
    cases stopped
  | read ended idle frames pending more going' next =>
    rw [going] at stopped
    cases stopped

theorem step_breaks (going : crawl.stopped = false)
    (turn : walk.step setting crawl = .panicked later) (stopped : later.stopped = true) :
    crawl.Calls later := by
  have outcome := step_outcome walk setting crawl
  rw [turn] at outcome
  cases outcome with
  | @broken location fetching panics =>
    exact Or.inl ⟨location, Crawl.request_fetched crawl setting.web location,
      Crawl.request_accepted crawl setting.web location⟩
  | refused idle frames pending panics =>
    have stopped : crawl.stopped = true := stopped
    rw [going] at stopped
    cases stopped

theorem step_quiet (setting : Setting) (quiet : walk.Quiet) (stopped : crawl.stopped = true) :
    match walk.step setting crawl with
    | .onward after later => after.Quiet ∧ later.journal.fetched = crawl.journal.fetched ∧
        later.journal.accepted = crawl.journal.accepted
    | .finished _ later => later = crawl
    | .panicked _ => False := by
  have owing : ∀ {frame : Frame} {outer : List Frame} {finding : Sitemap.Finding}
      {rest : List Sitemap.Finding}, walk.frames = frame :: outer →
      frame.pending = finding :: rest → finding.handsOn = true → False := by
    intro frame outer finding rest frames pending hands
    have owes := quiet.still frame (frames ▸ List.mem_cons_self)
    simp [Frame.owes, pending, hands] at owes
  have outcome := step_outcome walk setting crawl
  generalize walk.step setting crawl = turn at outcome
  cases outcome with
  | broken fetching panics =>
    rw [quiet.idle] at fetching
    cases fetching
  | opened fetching staged =>
    rw [quiet.idle] at fetching
    cases fetching
  | unopened notices fetching unstaged =>
    rw [quiet.idle] at fetching
    cases fetching
  | ending idle frames candidates => rfl
  | @met location next idle meets =>
    obtain ⟨notices, noted⟩ := visit_note next location crawl
    simp only [visit_stopped next location crawl stopped, noted, Crawl.note_journal,
      Journal.fetched_note, Journal.accepted_note, and_true]
    cases meets with
    | candidate outermost candidates => exact ⟨quiet.idle, quiet.still⟩
    | child frames pending => exact (owing frames pending rfl).elim
  | handed idle frames pending accepted => exact (owing frames pending rfl).elim
  | refused idle frames pending panics => exact owing frames pending rfl
  | @told frame outer finding rest notices idle frames pending still =>
    refine ⟨⟨quiet.idle, ?_⟩, Journal.fetched_note _ _, Journal.accepted_note _ _⟩
    intro other member
    rcases List.mem_cons.mp member with rfl | inside
    · have owes := quiet.still frame (frames ▸ List.mem_cons_self)
      simpa [Frame.owes, pending, still] using owes
    · exact quiet.still other (frames ▸ List.mem_cons_of_mem _ inside)
  | @left frame outer notices idle frames pending reason =>
    refine ⟨⟨quiet.idle, ?_⟩, Journal.fetched_note _ _, Journal.accepted_note _ _⟩
    intro other member
    exact quiet.still other (frames ▸ List.mem_cons_of_mem _ member)
  | read ended idle frames pending more going next =>
    rw [stopped] at going
    cases going

end Step

end Walk

/-- A crawl with some files more than an earlier one, and with the same roots in its record. -/
structure Crawl.Beside {σ : Type} [RootStore σ] [LawfulStore σ] (before : Crawl σ)
    (files : List File) (after : Crawl σ) : Prop where
  files : after.disk.files = files ++ before.disk.files
  holds : ∀ root, LawfulStore.holds after.desk.store root =
    LawfulStore.holds before.desk.store root

namespace Job

variable {σ : Type} [RootStore σ] (job : Job)

section Stages

variable [LawfulStore σ]

def Heading (before crawl : Crawl σ) : Phase → Prop
  | .asking | .entering => before.Beside [] crawl
  | .gathering => before.Beside [] crawl ∧ job.root ∉ crawl.desk.guard.finished
  | .walking walk =>
    before.Beside walk.files crawl ∧ job.root ∉ crawl.desk.guard.finished ∧ walk.Orderly
  | _ => True

/-- Since the stop, nothing was fetched, handed over or recorded. -/
structure Halted (before reached : Crawl σ) (files : List File) (crawl : Crawl σ) : Prop where
  beside : before.Beside files crawl
  stopped : crawl.stopped = true
  fetched : crawl.journal.fetched = reached.journal.fetched
  accepted : crawl.journal.accepted = reached.journal.accepted
  unfinished : job.root ∉ crawl.desk.guard.finished

def Halting (before reached crawl : Crawl σ) : Phase → Prop
  | .walking walk => walk.Quiet ∧ job.Halted before reached walk.files crawl
  | .closing _ | .dropping _ => job.Halted before reached [] crawl
  | .done | .panicked =>
    job.Halted before reached [] crawl ∧ job.root ∉ crawl.desk.guard.active
  | .asking | .entering | .gathering | .finishing _ => False

end Stages

section Gather

variable {job} {setting : Setting} {crawl : Crawl σ}

theorem gather_stops (going : crawl.stopped = false)
    (stopped : (job.gather setting crawl).2.stopped = true) :
    crawl.Calls (job.gather setting crawl).2 := by
  obtain ⟨notices, gathered⟩ := gather_note job setting crawl
  rw [gathered] at stopped ⊢
  split
  · refine Or.inl ⟨Robots.location job.root, ?_, ?_⟩
    · rw [Crawl.note_journal, Journal.fetched_note]
      exact Crawl.request_fetched crawl setting.web _
    · rw [Crawl.note_journal, Journal.accepted_note]
      exact Crawl.request_accepted crawl setting.web _
  · rename_i given
    rw [if_neg given, Crawl.note_stopped, going] at stopped
    cases stopped

end Gather

variable [Sink σ] [LawfulSink σ] {job} {setting : Setting} {before reached crawl later : Crawl σ}
  {files : List File} {phase : Phase}

theorem drift_beside (beside : before.Beside files crawl) (drift : crawl.Drift later)
    {left : List File} (same : later.disk.files = left ++ before.disk.files) :
    before.Beside left later :=
  ⟨same, fun root => (drift.store.holds root).trans (beside.holds root)⟩

theorem heading_step (heading : job.Heading before crawl phase) :
    job.Heading before (job.step setting phase crawl).2 (job.step setting phase crawl).1 := by
  cases phase with
  | asking =>
    simp only [step]
    split
    · trivial
    · exact heading
  | entering =>
    simp only [step]
    split
    · rename_i granted
      have beside : before.Beside [] crawl := heading
      have store := Crawl.enter_store crawl job.root
      obtain ⟨-, disk⟩ := Crawl.enter_rest crawl job.root
      refine ⟨⟨disk ▸ beside.files, fun root => store ▸ beside.holds root⟩, ?_⟩
      rcases Crawl.enter_outcome crawl job.root with ⟨-, refused, -⟩ | ⟨free, -, desk⟩
      · rw [refused] at granted
        cases granted
      · rw [desk]
        intro finished
        have known := (Desk.isTaken_iff crawl.desk job.root).mpr (Or.inr (Or.inl finished))
        rw [free] at known
        cases known
    · trivial
  | gathering =>
    obtain ⟨beside, unfinished⟩ := heading
    have drift := gather_drift job setting crawl
    simp only [step, gather_phase]
    split
    · trivial
    · refine ⟨drift_beside beside drift ?_, drift.finished ▸ unfinished, ?_⟩
      · rw [gather_disk]
        exact beside.files
      · apply (Walk.start_quiet _).orderly
        intro frame member
        cases member
  | walking walk =>
    obtain ⟨beside, unfinished, orderly⟩ := heading
    have drift := Walk.step_drift walk setting crawl
    have files := Walk.step_files setting beside.files
    simp only [step]
    split
    · rename_i after later turn
      rw [turn] at drift files
      exact ⟨drift_beside beside drift files, drift.finished ▸ unfinished,
        Walk.step_orderly orderly turn⟩
    · trivial
    · trivial
  | closing visited =>
    simp only [step]
    split <;> trivial
  | finishing visited => exact True.intro
  | dropping panics => cases panics <;> exact True.intro
  | done => exact True.intro
  | panicked => exact True.intro

theorem heading_stops (heading : job.Heading before crawl phase) (going : crawl.stopped = false)
    (stopped : (job.step setting phase crawl).2.stopped = true) :
    job.Halting before (job.step setting phase crawl).2 (job.step setting phase crawl).2
        (job.step setting phase crawl).1 ∧
      crawl.Calls (job.step setting phase crawl).2 := by
  have quiet : ∀ later : Crawl σ, later.stopped = crawl.stopped →
      later.stopped = true → False := by
    intro later same stopped
    rw [same, going] at stopped
    cases stopped
  cases phase with
  | asking =>
    simp only [step, going] at stopped
    exact (quiet _ rfl stopped).elim
  | entering => exact (quiet _ (Crawl.enter_stopped crawl job.root) stopped).elim
  | gathering =>
    obtain ⟨beside, unfinished⟩ := heading
    have drift := gather_drift job setting crawl
    have halted : job.Halted before (job.gather setting crawl).2 []
        (job.gather setting crawl).2 := by
      refine ⟨drift_beside beside drift ?_, stopped, rfl, rfl, drift.finished ▸ unfinished⟩
      rw [gather_disk]
      exact beside.files
    refine ⟨?_, gather_stops going stopped⟩
    simp only [step, gather_phase]
    split
    · exact halted
    · exact ⟨Walk.start_quiet _, halted⟩
  | walking walk =>
    obtain ⟨beside, unfinished, orderly⟩ := heading
    have drift := Walk.step_drift walk setting crawl
    have files := Walk.step_files setting beside.files
    simp only [step] at stopped ⊢
    split at stopped
    · rename_i after later turn
      rw [turn] at drift files
      obtain ⟨still, calls⟩ := Walk.step_stops orderly going turn stopped
      exact ⟨⟨still, drift_beside beside drift files, stopped, rfl, rfl,
        drift.finished ▸ unfinished⟩, calls⟩
    · rename_i visited later turn
      obtain ⟨same, -⟩ := Walk.step_ending turn
      exact (quiet _ (congrArg Crawl.stopped same) stopped).elim
    · rename_i later turn
      rw [turn] at drift files
      exact ⟨⟨drift_beside beside drift files, stopped, rfl, rfl,
        drift.finished ▸ unfinished⟩, Walk.step_breaks going turn stopped⟩
  | closing visited =>
    simp only [step, going] at stopped
    exact (quiet _ rfl stopped).elim
  | finishing visited => exact (quiet _ (Crawl.finish_stopped crawl job.root) stopped).elim
  | dropping panics => exact (quiet _ rfl stopped).elim
  | done => exact (quiet _ rfl stopped).elim
  | panicked => exact (quiet _ rfl stopped).elim

theorem drop_halted (halted : job.Halted before reached [] crawl) :
    job.Halted before reached [] (crawl.drop job.root) ∧
      job.root ∉ (crawl.drop job.root).desk.guard.active := by
  refine ⟨⟨⟨halted.beside.files, halted.beside.holds⟩, halted.stopped, ?_, ?_,
    halted.unfinished⟩, ?_⟩
  · simp [Crawl.drop, Crawl.log, Journal.fetched_cons, halted.fetched]
  · simp [Crawl.drop, Crawl.log, Journal.accepted_cons, halted.accepted]
  · rw [Crawl.drop_desk, Desk.mem_deactivate]
    exact fun member => member.2 rfl

theorem halting_step (halting : job.Halting before reached crawl phase) :
    job.Halting before reached (job.step setting phase crawl).2
      (job.step setting phase crawl).1 := by
  cases phase with
  | walking walk =>
    obtain ⟨quiet, halted⟩ := halting
    have drift := Walk.step_drift walk setting crawl
    have files := Walk.step_files setting halted.beside.files
    have silent := Walk.step_quiet setting quiet halted.stopped
    simp only [step]
    split
    · rename_i after later turn
      rw [turn] at drift files silent
      obtain ⟨still, fetched, accepted⟩ := silent
      exact ⟨still, drift_beside halted.beside drift files, drift.stopped halted.stopped,
        fetched.trans halted.fetched, accepted.trans halted.accepted,
        drift.finished ▸ halted.unfinished⟩
    · rename_i visited later turn
      rw [turn] at files silent
      simp only at silent
      subst silent
      exact ⟨⟨files, halted.beside.holds⟩, halted.stopped, halted.fetched, halted.accepted,
        halted.unfinished⟩
    · rename_i later turn
      rw [turn] at silent
      exact silent.elim
  | closing visited =>
    have halted : job.Halted before reached [] crawl := halting
    simp only [step, halted.stopped, if_true]
    exact ⟨⟨halted.beside.files, halted.beside.holds⟩, halted.stopped,
      (Journal.fetched_note _ _).trans halted.fetched,
      (Journal.accepted_note _ _).trans halted.accepted, halted.unfinished⟩
  | dropping panics => cases panics <;> exact drop_halted halting
  | done => exact halting
  | panicked => exact halting
  | asking => cases halting
  | entering => cases halting
  | gathering => cases halting
  | finishing visited => cases halting

theorem halted_state (halted : job.Halted before reached files crawl)
    (inactive : job.root ∉ crawl.desk.guard.active) :
    (crawl.desk.state job.root).1 = .unresolved := by
  have stopped : crawl.desk.guard.stopped = true := halted.stopped
  simp [Desk.state, inactive, halted.unfinished, stopped]

/-- Once a stop is raised, which happens in the midst of a fetch or while an entry is taken, a job
fetches nothing more and hands nothing more over. It cleans up and leaves its root unresolved. -/
theorem stop_is_final (job : Job) (setting : Setting) (crawl : Crawl σ) (n : Nat)
    (going : (job.after setting crawl n).2.stopped = false)
    (stopped : (job.after setting crawl (n + 1)).2.stopped = true) :
    let reached := (job.after setting crawl (n + 1)).2
    let last := (job.run setting crawl).2
    (job.after setting crawl n).2.Calls reached ∧
    last.journal.fetched = reached.journal.fetched ∧
    last.journal.accepted = reached.journal.accepted ∧
    last.disk.files = crawl.disk.files ∧
    (∀ root, LawfulStore.holds last.desk.store root = LawfulStore.holds crawl.desk.store root) ∧
    (last.desk.state job.root).1 = .unresolved := by
  intro reached last
  have heading : job.Heading crawl (job.after setting crawl n).2 (job.after setting crawl n).1 :=
    after_keeps job setting (fun phase later => job.Heading crawl later phase)
      (fun _ _ => heading_step) ⟨rfl, fun _ => rfl⟩ n
  obtain ⟨halting, calls⟩ := heading_stops heading going stopped
  obtain ⟨halting, ended⟩ := run_keeps job setting
    (fun phase later => job.Halting crawl reached later phase) (fun _ _ => halting_step) crawl
    (n + 1) halting
  have halted : job.Halted crawl reached [] last ∧ job.root ∉ last.desk.guard.active := by
    cases phase : (job.run setting crawl).1 with
    | done =>
      rw [phase] at halting
      exact halting
    | panicked =>
      rw [phase] at halting
      exact halting
    | _ =>
      rw [phase] at ended
      cases ended
  exact ⟨calls, halted.1.fetched, halted.1.accepted, halted.1.beside.files, halted.1.beside.holds,
    halted_state halted.1 halted.2⟩

def twoPages : Setting := .ofTexts [("http://a/s.xml",
  "<u><url><loc>http://a/p</loc></url><url><loc>http://a/q</loc></url></u>")]

def visitor : Job := ⟨⟨"http://a"⟩, ["http://a/s.xml"], true, false⟩

def impatient : Crawl (Listener MemoryStore) := .start ⟨⟨[], false⟩, 0, some 1, none⟩ .empty

theorem stop_is_final_impatient :
    (visitor.after twoPages impatient 11).2.stopped = false ∧
    (visitor.after twoPages impatient 12).2.stopped = true ∧
    (visitor.run twoPages impatient).2.journal.accepted =
      (visitor.after twoPages impatient 12).2.journal.accepted ∧
    (visitor.run twoPages impatient).2.disk.files = impatient.disk.files ∧
    ((visitor.run twoPages impatient).2.desk.state visitor.root).1 = .unresolved := by
  have going : (visitor.after twoPages impatient 11).2.stopped = false := by decide +kernel
  have stopped : (visitor.after twoPages impatient 12).2.stopped = true := by decide +kernel
  obtain ⟨-, -, accepted, files, -, state⟩ :=
    stop_is_final visitor twoPages impatient 11 going stopped
  exact ⟨going, stopped, accepted, files, state⟩

end Job

end Sitemaps
