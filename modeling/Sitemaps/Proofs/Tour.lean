import Sitemaps.Proofs.Agenda
import Sitemaps.Proofs.Turns

/-!
A step of a walk is a step of its agenda as long as no stop is requested, whatever other walks do in
between. What it does to the rest is a drift, and its deeds stand in the journal.
-/

namespace Sitemaps

def Turn.crawl {σ : Type} : Turn σ → Crawl σ
  | .onward _ crawl | .finished _ crawl | .panicked crawl => crawl

namespace Walk

section Visit

variable {σ : Type} (walk : Walk) (location : String) (crawl : Crawl σ)

theorem visit_note : ∃ notices, (walk.visit location crawl).2 = crawl.note notices := by
  unfold visit
  split
  · exact ⟨[], rfl⟩
  · split
    · exact ⟨_, rfl⟩
    · exact ⟨_, rfl⟩

theorem visit_frames : (walk.visit location crawl).1.frames = walk.frames := by
  unfold visit
  split
  · rfl
  · split <;> rfl

theorem visit_walk (going : crawl.stopped = false) :
    (walk.visit location crawl).1 =
      if location ∈ walk.visited then walk else { walk with fetching := some location } := by
  unfold visit
  by_cases known : location ∈ walk.visited <;> simp [known, going]

theorem visit_stopped (stopped : crawl.stopped = true) : (walk.visit location crawl).1 = walk := by
  unfold visit
  split
  · rfl
  · rfl

end Visit

def agenda (walk : Walk) : Agenda :=
  ⟨walk.candidates, walk.frames.flatMap Frame.ahead, walk.fetching, walk.visited⟩

theorem Meets.draws {walk next : Walk} {location : String} (meets : walk.Meets location next) :
    walk.agenda.Draws location next.agenda := by
  cases meets with
  | candidate outermost candidates =>
    exact .candidate candidates
  | child frames pending =>
    apply Agenda.Draws.child
    simp [agenda, frames, Frame.ahead, pending]

theorem Meets.visited {walk next : Walk} {location : String} (meets : walk.Meets location next) :
    next.visited = walk.visited := by
  cases meets <;> rfl

variable {σ : Type}

def deed? (walk : Walk) (setting : Setting) (crawl : Crawl σ) : Option Deed :=
  match walk.fetching, walk.frames with
  | some location, _ => some (.attempt location (setting.announced location crawl))
  | none, [] => none
  | none, frame :: _ =>
    match frame.pending with
    | .entry entry :: _ => some (.hand entry)
    | _ => none

section Deeds

variable {walk : Walk} (setting : Setting) (crawl : Crawl σ)

theorem deed?_fetching {location : String} (fetching : walk.fetching = some location) :
    walk.deed? setting crawl = some (.attempt location (setting.announced location crawl)) := by
  simp [deed?, fetching]

theorem deed?_entry {frame : Frame} {outer : List Frame} {entry : Sitemap.Entry}
    {rest : List Sitemap.Finding} (idle : walk.fetching = none)
    (frames : walk.frames = frame :: outer) (pending : frame.pending = .entry entry :: rest) :
    walk.deed? setting crawl = some (.hand entry) := by
  simp [deed?, idle, frames, pending]

theorem deed?_quiet {frame : Frame} {outer : List Frame} (idle : walk.fetching = none)
    (frames : walk.frames = frame :: outer)
    (quiet : ∀ entry rest, frame.pending ≠ .entry entry :: rest) :
    walk.deed? setting crawl = none := by
  unfold deed?
  rw [idle, frames]
  dsimp only
  split
  · rename_i entry rest pending
    exact absurd pending (quiet entry rest)
  · rfl

theorem pending_quiet {pending rest : List Sitemap.Finding} {finding : Sitemap.Finding}
    (first : pending = finding :: rest) (quiet : finding.handsOn = false) :
    ∀ entry others, pending ≠ .entry entry :: others := by
  rintro entry others same
  rw [first] at same
  cases same
  cases quiet

theorem deed?_meets {location : String} {next : Walk} (idle : walk.fetching = none)
    (meets : walk.Meets location next) : walk.deed? setting crawl = none := by
  cases meets with
  | candidate outermost candidates => simp [deed?, idle, outermost]
  | child frames pending =>
    exact deed?_quiet setting crawl idle frames (by simp [pending])

end Deeds

variable [RootStore σ] [Sink σ] {walk after : Walk} {setting : Setting} {crawl later : Crawl σ}

/-- As long as no stop is requested, a step either gets on within the documents at hand or is the
next one of the search, if the locations announce what the search takes them to. -/
theorem step_next {announces : String → List Sitemap.Finding}
    (told : ∀ location, setting.announced location crawl = announces location)
    (turn : walk.step setting crawl = .onward after later) (going : crawl.stopped = false) :
    walk.deed? setting crawl = none ∧ after.agenda = walk.agenda ∨
      walk.agenda.next announces = some (walk.deed? setting crawl, after.agenda) := by
  have outcome := step_outcome walk setting crawl
  rw [turn] at outcome
  cases outcome with
  | @opened location file fetching staged =>
    right
    have found : (Sitemap.parse location setting.scope file.content none none).findings =
        announces location := by
      rw [← told]
      unfold Setting.announced
      rw [staged]
    rw [deed?_fetching setting crawl fetching, told]
    simp only [Agenda.next, agenda, fetching, attempt, descend, List.flatMap_cons]
    rw [← found]
    rfl
  | @unopened location notices fetching unstaged =>
    right
    have found : announces location = [] := by
      rw [← told]
      unfold Setting.announced
      split
      · rename_i file staged
        exact absurd staged (unstaged file)
      · rfl
      · rfl
    rw [deed?_fetching setting crawl fetching, told, found]
    simp [Agenda.next, agenda, fetching, attempt, found]
  | @met location next idle meets =>
    right
    rw [deed?_meets setting crawl idle meets, visit_walk next location crawl going]
    have turned : (if location ∈ next.visited then next
        else { next with fetching := some location }).agenda = next.agenda.turnTo location := by
      unfold Agenda.turnTo
      split <;> simp_all [agenda]
    rw [turned]
    cases meets with
    | candidate outermost candidates => simp [Agenda.next, agenda, idle, outermost, candidates]
    | child frames pending => simp [Agenda.next, agenda, idle, frames, Frame.ahead, pending]
  | handed idle frames pending accepted =>
    right
    rw [deed?_entry setting crawl idle frames pending]
    simp [Agenda.next, agenda, idle, frames, Frame.ahead, pending]
  | @told frame outer finding rest notices idle frames pending quiet =>
    right
    rw [deed?_quiet setting crawl idle frames (pending_quiet pending quiet)]
    cases finding with
    | child location => cases quiet
    | entry entry => cases quiet
    | _ => simp [Agenda.next, agenda, idle, frames, Frame.ahead, pending]
  | @left frame outer notices idle frames pending reason =>
    refine Or.inl ⟨deed?_quiet setting crawl idle frames (by simp [pending]), ?_⟩
    have nothing : frame.ahead = [] := by
      unfold Frame.ahead
      rcases reason with ended | stopped | ⟨fault, failed⟩
      · simp [pending, ended]
      · rw [going] at stopped
        cases stopped
      · simp [pending, Sitemap.Document.ahead_failed failed]
    simp [agenda, frames, nothing]
  | @read frame outer document findings ended idle frames pending more going' next =>
    refine Or.inl ⟨deed?_quiet setting crawl idle frames (by simp [pending]), ?_⟩
    have kept : (⟨document, frame.file, findings, ended⟩ : Frame).ahead = frame.ahead := by
      unfold Frame.ahead
      cases ended with
      | true => simp [pending, more, Sitemap.Document.ahead_finished next]
      | false => simp [pending, more, Sitemap.Document.ahead_onward next]
    simp [agenda, frames, kept]

theorem step_agenda (turn : walk.step setting crawl = .onward after later)
    (going : crawl.stopped = false) :
    walk.agenda.Step (walk.deed? setting crawl) after.agenda := by
  rcases step_next (fun _ => rfl) turn going with ⟨silent, same⟩ | stepped
  · rw [silent, same]
    exact .rest
  · exact Agenda.next_step stepped

theorem answered_drift (setting : Setting) (location : String) (crawl : Crawl σ) :
    crawl.Drift (setting.answered location crawl) :=
  (Crawl.request_drift crawl setting.web location).trans (.of_desk rfl rfl (List.suffix_refl _))

theorem step_drift (walk : Walk) (setting : Setting) (crawl : Crawl σ) :
    crawl.Drift (walk.step setting crawl).crawl := by
  have outcome := step_outcome walk setting crawl
  generalize walk.step setting crawl = turn at outcome
  cases outcome with
  | broken fetching panics =>
    exact (Crawl.request_drift crawl setting.web _).trans (.of_desk rfl rfl (List.suffix_refl _))
  | opened fetching staged => exact answered_drift setting _ crawl
  | unopened notices fetching unstaged =>
    exact (answered_drift setting _ crawl).trans (.note _ notices)
  | ending idle frames candidates => exact .refl crawl
  | @met location next idle meets =>
    obtain ⟨notices, noted⟩ := visit_note next location crawl
    simp only [Turn.crawl, noted]
    exact .note crawl notices
  | handed idle frames pending accepted => exact Crawl.accept_drift accepted
  | refused idle frames pending panics => exact .of_desk rfl rfl (List.suffix_refl _)
  | told notices idle frames pending quiet => exact .note crawl notices
  | left notices idle frames pending reason => exact .of_desk rfl rfl (List.suffix_append _ _)
  | read ended idle frames pending more going next => exact .refl crawl

theorem step_journal (turn : walk.step setting crawl = .onward after later) :
    later.journal.fetched =
        crawl.journal.fetched ++ Deed.attempted (walk.deed? setting crawl).toList ∧
      later.journal.accepted =
        crawl.journal.accepted ++ Deed.handed (walk.deed? setting crawl).toList := by
  have outcome := step_outcome walk setting crawl
  rw [turn] at outcome
  cases outcome with
  | opened fetching staged =>
    rw [deed?_fetching setting crawl fetching]
    refine ⟨Crawl.request_fetched crawl setting.web _, ?_⟩
    rw [show Deed.handed _ = [] from rfl, List.append_nil]
    exact Crawl.request_accepted crawl setting.web _
  | unopened notices fetching unstaged =>
    rw [deed?_fetching setting crawl fetching]
    rw [Crawl.note_journal, Journal.fetched_note, Journal.accepted_note]
    refine ⟨Crawl.request_fetched crawl setting.web _, ?_⟩
    rw [show Deed.handed _ = [] from rfl, List.append_nil]
    exact Crawl.request_accepted crawl setting.web _
  | @met location next idle meets =>
    obtain ⟨notices, noted⟩ := visit_note next location crawl
    rw [deed?_meets setting crawl idle meets, noted]
    simp [Deed.attempted, Deed.handed]
  | handed idle frames pending accepted =>
    rw [deed?_entry setting crawl idle frames pending, Crawl.accept_fetched accepted,
      Crawl.accept_accepted accepted]
    exact ⟨(List.append_nil _).symm, rfl⟩
  | @told frame outer finding rest notices idle frames pending quiet =>
    rw [deed?_quiet setting crawl idle frames (pending_quiet pending quiet)]
    simp [Deed.attempted, Deed.handed]
  | left notices idle frames pending reason =>
    rw [deed?_quiet setting crawl idle frames (by simp [pending])]
    simp [Deed.attempted, Deed.handed]
  | read ended idle frames pending more going next =>
    rw [deed?_quiet setting crawl idle frames (by simp [pending])]
    simp [Deed.attempted, Deed.handed]

theorem step_accepts {entry : Sitemap.Entry} (turn : walk.step setting crawl = .onward after later)
    (hands : walk.deed? setting crawl = some (.hand entry)) : crawl.accept entry = some later := by
  have outcome := step_outcome walk setting crawl
  rw [turn] at outcome
  cases outcome with
  | opened fetching staged =>
    rw [deed?_fetching setting crawl fetching] at hands
    cases hands
  | unopened notices fetching unstaged =>
    rw [deed?_fetching setting crawl fetching] at hands
    cases hands
  | met idle meets =>
    rw [deed?_meets setting crawl idle meets] at hands
    cases hands
  | handed idle frames pending accepted =>
    rw [deed?_entry setting crawl idle frames pending] at hands
    cases hands
    exact accepted
  | told notices idle frames pending quiet =>
    rw [deed?_quiet setting crawl idle frames (pending_quiet pending quiet)] at hands
    cases hands
  | left notices idle frames pending reason =>
    rw [deed?_quiet setting crawl idle frames (by simp [pending])] at hands
    cases hands
  | read ended idle frames pending more going next =>
    rw [deed?_quiet setting crawl idle frames (by simp [pending])] at hands
    cases hands

section Ending

variable {visited : List String}

theorem step_ending (turn : walk.step setting crawl = .finished visited later) :
    later = crawl ∧ walk.fetching = none ∧ walk.frames = [] ∧ walk.candidates = [] := by
  have outcome := step_outcome walk setting crawl
  rw [turn] at outcome
  cases outcome with
  | ending idle frames candidates => exact ⟨rfl, idle, frames, candidates⟩

theorem ending_settles {candidates : List String} {deeds : List Deed}
    (turn : walk.step setting crawl = .finished visited later)
    (covers : walk.agenda.Covers candidates deeds) : Deed.Settles candidates deeds := by
  obtain ⟨-, idle, frames, tried⟩ := step_ending turn
  have read : walk.agenda.ahead = [] := by simp [agenda, frames]
  exact covers.settles idle tried read

end Ending

end Walk

end Sitemaps
