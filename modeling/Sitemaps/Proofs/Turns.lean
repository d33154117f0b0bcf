import Sitemaps.Proofs.Effects
import Sitemaps.Proofs.Findings

/-!
Every way in which a walk can turn, said once. What holds of all steps of a walk is shown by these
cases.
-/

namespace Sitemaps

def Web.ofTexts (texts : List (String × String)) : Web :=
  .ofTable (texts.map fun text =>
    (text.1, [{ result := .ok ⟨200, none, text.2.toList.map (·.val.toUInt8), none⟩ }]))

namespace Setting

def ofTexts (texts : List (String × String)) : Setting :=
  ⟨.ofTexts texts, ⟨["tmp"], "tmp"⟩, .lenient, []⟩

variable {σ : Type} (setting : Setting) (location : String) (crawl : Crawl σ)

def received : Staged × Disk :=
  setting.staging.stage crawl.disk location
    (setting.web.answer location (crawl.journal.requests location)).result

/-- What the document announces that a location would give now, read to its end. -/
def announced : List Sitemap.Finding :=
  match (setting.received location crawl).1 with
  | .file file => (Sitemap.parse location setting.scope file.content none none).findings
  | .absent | .failed _ => []

/-- The crawl after the answer for a location came in and was staged. -/
def answered [RootStore σ] : Crawl σ :=
  { (crawl.request setting.web location).2 with disk := (setting.received location crawl).2 }

end Setting

/-- What is left of an open document to be delivered, if nobody stops it. -/
def Frame.ahead (frame : Frame) : List Sitemap.Finding :=
  frame.pending ++ if frame.ended then [] else frame.document.ahead

namespace Walk

inductive Meets (walk : Walk) (location : String) : Walk → Prop
  | candidate {rest : List String} (outermost : walk.frames = [])
      (candidates : walk.candidates = location :: rest) :
      Meets walk location { walk with candidates := rest }
  | child {frame : Frame} {outer : List Frame} {rest : List Sitemap.Finding}
      (frames : walk.frames = frame :: outer) (pending : frame.pending = .child location :: rest) :
      Meets walk location { walk with frames := { frame with pending := rest } :: outer }

variable {σ : Type} [RootStore σ] [Sink σ]

inductive Outcome (walk : Walk) (setting : Setting) (crawl : Crawl σ) : Turn σ → Prop
  | broken {location : String} (fetching : walk.fetching = some location)
      (panics : (crawl.request setting.web location).1 = none) :
      Outcome walk setting crawl
        (.panicked ((walk.attempt location).unwind (crawl.request setting.web location).2))
  | opened {location : String} {file : File} (fetching : walk.fetching = some location)
      (staged : (setting.received location crawl).1 = .file file) :
      Outcome walk setting crawl
        (.onward ((walk.attempt location).descend setting location file)
          (setting.answered location crawl))
  | unopened {location : String} (notices : List Notice) (fetching : walk.fetching = some location)
      (unstaged : ∀ file, (setting.received location crawl).1 ≠ .file file) :
      Outcome walk setting crawl
        (.onward (walk.attempt location) ((setting.answered location crawl).note notices))
  | ending (idle : walk.fetching = none) (frames : walk.frames = [])
      (candidates : walk.candidates = []) :
      Outcome walk setting crawl (.finished walk.visited crawl)
  | met {location : String} {next : Walk} (idle : walk.fetching = none)
      (meets : walk.Meets location next) :
      Outcome walk setting crawl
        (.onward (next.visit location crawl).1 (next.visit location crawl).2)
  | handed {frame : Frame} {outer : List Frame} {entry : Sitemap.Entry}
      {rest : List Sitemap.Finding} {later : Crawl σ} (idle : walk.fetching = none)
      (frames : walk.frames = frame :: outer) (pending : frame.pending = .entry entry :: rest)
      (accepted : crawl.accept entry = some later) :
      Outcome walk setting crawl
        (.onward { walk with frames := { frame with pending := rest } :: outer } later)
  | refused {frame : Frame} {outer : List Frame} {entry : Sitemap.Entry}
      {rest : List Sitemap.Finding} (idle : walk.fetching = none)
      (frames : walk.frames = frame :: outer) (pending : frame.pending = .entry entry :: rest)
      (panics : crawl.accept entry = none) :
      Outcome walk setting crawl
        (.panicked ({ walk with frames := { frame with pending := rest } :: outer }.unwind crawl))
  | told {frame : Frame} {outer : List Frame} {finding : Sitemap.Finding}
      {rest : List Sitemap.Finding} (notices : List Notice) (idle : walk.fetching = none)
      (frames : walk.frames = frame :: outer) (pending : frame.pending = finding :: rest)
      (quiet : finding.handsOn = false) :
      Outcome walk setting crawl
        (.onward { walk with frames := { frame with pending := rest } :: outer }
          (crawl.note notices))
  | left {frame : Frame} {outer : List Frame} (notices : List Notice)
      (idle : walk.fetching = none) (frames : walk.frames = frame :: outer)
      (pending : frame.pending = [])
      (reason : frame.ended = true ∨ crawl.stopped = true ∨
        ∃ fault, frame.document.next = .failed fault) :
      Outcome walk setting crawl
        (.onward { walk with frames := outer }
          { crawl.note notices with disk := crawl.disk.delete frame.file })
  | read {frame : Frame} {outer : List Frame} {document : Sitemap.Document}
      {findings : List Sitemap.Finding} (ended : Bool) (idle : walk.fetching = none)
      (frames : walk.frames = frame :: outer) (pending : frame.pending = [])
      (more : frame.ended = false) (going : crawl.stopped = false)
      (next : frame.document.next =
        if ended then .finished document findings else .onward document findings) :
      Outcome walk setting crawl
        (.onward { walk with frames := ⟨document, frame.file, findings, ended⟩ :: outer } crawl)

theorem fetch_outcome (walk : Walk) (setting : Setting) (location : String) (crawl : Crawl σ)
    (fetching : walk.fetching = some location) :
    walk.Outcome setting crawl ((walk.attempt location).fetch setting location crawl) := by
  unfold fetch
  split
  · rename_i later asked
    have same : later = (crawl.request setting.web location).2 := by rw [asked]
    rw [same]
    exact .broken fetching (by rw [asked])
  · rename_i result later asked
    have same : later = (crawl.request setting.web location).2 := by rw [asked]
    have staged : setting.staging.stage later.disk location result =
        setting.received location crawl := by
      rw [same, Crawl.request_disk, request_result location crawl later asked]
      rfl
    simp only [staged]
    have answered : { later with disk := (setting.received location crawl).2 } =
        setting.answered location crawl := by rw [same]; rfl
    rw [answered]
    split
    · rename_i file opened
      exact .opened fetching opened
    · rename_i absent
      exact .unopened _ fetching (by simp [absent])
    · rename_i fault failed
      exact .unopened _ fetching (by simp [failed])

theorem read_outcome {walk : Walk} {frame : Frame} {outer : List Frame} (setting : Setting)
    (crawl : Crawl σ) (idle : walk.fetching = none) (frames : walk.frames = frame :: outer)
    (pending : frame.pending = []) (more : frame.ended = false) :
    walk.Outcome setting crawl (walk.read frame outer crawl) := by
  unfold read
  dsimp only
  split
  · rename_i stopped
    exact .left _ idle frames pending (Or.inr (Or.inl stopped))
  · rename_i going
    have going : crawl.stopped = false := Bool.eq_false_iff.mpr going
    split
    · rename_i fault failed
      exact .left _ idle frames pending (Or.inr (Or.inr ⟨fault, failed⟩))
    · rename_i document findings next
      exact .read true idle frames pending more going next
    · rename_i document findings next
      exact .read false idle frames pending more going next

theorem step_outcome (walk : Walk) (setting : Setting) (crawl : Crawl σ) :
    walk.Outcome setting crawl (walk.step setting crawl) := by
  unfold step
  split
  · rename_i location fetching
    exact fetch_outcome walk setting location crawl fetching
  · rename_i idle frames candidates
    exact .ending idle frames candidates
  · rename_i location rest idle frames candidates
    exact .met idle (.candidate frames candidates)
  · rename_i frame outer idle frames
    split
    · rename_i finding rest pending
      cases finding with
      | child location => exact .met idle (.child frames pending)
      | entry entry =>
        simp only [deliver]
        split
        · rename_i panics
          exact .refused idle frames pending panics
        · rename_i later accepted
          exact .handed idle frames pending accepted
      | badDate value => exact .told _ idle frames pending rfl
      | badPriority value => exact .told _ idle frames pending rfl
      | outOfScope reference => exact .told _ idle frames pending rfl
    · rename_i pending
      split
      · rename_i ended
        exact .left _ idle frames pending (Or.inl ended)
      · rename_i more
        exact read_outcome setting crawl idle frames pending (Bool.eq_false_iff.mpr more)

end Walk

end Sitemaps
