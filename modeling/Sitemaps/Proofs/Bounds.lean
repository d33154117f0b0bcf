import Mathlib.Data.List.Dedup
import Mathlib.Data.List.Perm.Subperm
import Sitemaps.Proofs.Reachability
import Sitemaps.Proofs.Scopes

/-!
What a resolution costs at most, however documents announce one another. Open documents are of
different locations that bear documents, so they are nested no deeper than there are such; and every
fetch is of a candidate or of what one of them announces, each fetched once.
-/

namespace Sitemaps

open Sitemap

namespace Sitemap.Document

theorem stop_location (document : Document) (tag : Tag) :
    (document.stop tag).1.location = document.location := by
  cases tag with
  | url =>
    simp only [stop, closeEntry]
    split
    · rfl
    · split <;> rfl
  | _ => rfl

theorem handle_location (document : Document) (event : Xml.Event) :
    (document.handle event).1.location = document.location := by
  have flushed := (flush_plain document).2.2.1
  have started : ∀ tag, (document.flush.1.start tag).location = document.location := by
    intro tag
    cases tag <;> exact flushed
  cases event with
  | text content => rfl
  | aside => rfl
  | opening name => exact started _
  | closing name => exact (stop_location _ _).trans flushed
  | single name => exact (stop_location _ _).trans (started _)

theorem next_location {document after : Document} {findings : List Finding}
    (step : document.next = .onward after findings ∨ document.next = .finished after findings) :
    after.location = document.location := by
  cases read : document.reader.next with
  | error fault => simp [next_failed read] at step
  | ok found =>
    cases found with
    | none =>
      simp only [next_finished read, reduceCtorEq, false_or, Step.finished.injEq] at step
      rw [← step.1]
      exact (flush_plain document).2.2.1
    | some pair =>
      obtain ⟨event, reader⟩ := pair
      simp only [next_onward read, reduceCtorEq, or_false, Step.onward.injEq] at step
      rw [← step.1]
      exact handle_location _ event

end Sitemap.Document

namespace Walk

def documents (walk : Walk) : List String := walk.frames.map (·.document.location)

theorem visit_cases {σ : Type} (walk : Walk) (location : String) (crawl : Crawl σ) :
    (walk.visit location crawl).1 = walk ∨ location ∉ walk.visited ∧
      (walk.visit location crawl).1 = { walk with fetching := some location } := by
  cases stopped : crawl.stopped with
  | true => exact Or.inl (visit_stopped walk location crawl stopped)
  | false =>
    rw [visit_walk walk location crawl stopped]
    split
    · exact Or.inl rfl
    · rename_i fresh
      exact Or.inr ⟨fresh, rfl⟩

theorem Meets.documents {walk next : Walk} {location : String} (meets : walk.Meets location next) :
    next.documents = walk.documents := by
  cases meets with
  | candidate outermost candidates => rfl
  | child frames pending => simp [Walk.documents, frames]

theorem Meets.fetching {walk next : Walk} {location : String} (meets : walk.Meets location next) :
    next.fetching = walk.fetching := by
  cases meets <;> rfl

theorem due_frames {walk : Walk} {frames : List Frame} {other : String}
    (fewer : ∀ finding ∈ frames.flatMap Frame.ahead, finding ∈ walk.frames.flatMap Frame.ahead)
    (due : ({ walk with frames := frames } : Walk).agenda.Due other) : walk.agenda.Due other := by
  rcases due with visited | fetches | candidate | ahead
  · exact Or.inl visited
  · exact Or.inr (Or.inl fetches)
  · exact Or.inr (Or.inr (Or.inl candidate))
  · exact Or.inr (Or.inr (Or.inr (fewer _ ahead)))

section Steps

variable {σ : Type} [RootStore σ] [Sink σ] {walk after : Walk} {setting : Setting}
  {crawl later : Crawl σ}

theorem step_documents (turn : walk.step setting crawl = .onward after later) :
    after.documents = walk.documents ∨
    (∃ location file, walk.fetching = some location ∧
      (setting.received location crawl).1 = .file file ∧
      after.documents = location :: walk.documents) ∨
    ∃ location, walk.documents = location :: after.documents := by
  have outcome := step_outcome walk setting crawl
  rw [turn] at outcome
  cases outcome with
  | @opened location file fetching staged =>
    exact Or.inr (Or.inl ⟨location, file, fetching, staged, rfl⟩)
  | unopened notices fetching unstaged => exact Or.inl rfl
  | @met location next idle meets =>
    left
    rw [documents, visit_frames]
    exact meets.documents
  | handed idle frames pending accepted => exact Or.inl (by simp [documents, frames])
  | told notices idle frames pending quiet => exact Or.inl (by simp [documents, frames])
  | @left frame outer notices idle frames pending reason =>
    exact Or.inr (Or.inr ⟨frame.document.location, by simp [documents, frames]⟩)
  | @read frame outer document findings ended idle frames pending more going next =>
    have turned : frame.document.next = .onward document findings ∨
        frame.document.next = .finished document findings := by
      cases ended with
      | true => exact Or.inr next
      | false => exact Or.inl next
    have same := Document.next_location turned
    exact Or.inl (by simp [documents, frames, same])

theorem step_visited (turn : walk.step setting crawl = .onward after later) :
    after.visited = Deed.attempted (walk.deed? setting crawl).toList ++ walk.visited ∧
      ((walk.fetching.toList ++ walk.visited).Nodup →
        (after.fetching.toList ++ after.visited).Nodup) := by
  have outcome := step_outcome walk setting crawl
  rw [turn] at outcome
  cases outcome with
  | opened fetching staged =>
    rw [deed?_fetching setting crawl fetching, fetching]
    exact ⟨rfl, id⟩
  | unopened notices fetching unstaged =>
    rw [deed?_fetching setting crawl fetching, fetching]
    exact ⟨rfl, id⟩
  | @met location next idle meets =>
    have visited := meets.visited
    have still : next.fetching = none := meets.fetching.trans idle
    rw [deed?_meets setting crawl idle meets, idle]
    rcases visit_cases next location crawl with unmoved | ⟨fresh, turned⟩
    · rw [unmoved, visited, still]
      exact ⟨rfl, id⟩
    · rw [turned, ← visited]
      exact ⟨rfl, fun distinct => List.nodup_cons.mpr ⟨fresh, distinct⟩⟩
  | handed idle frames pending accepted =>
    rw [deed?_entry setting crawl idle frames pending]
    exact ⟨rfl, id⟩
  | told notices idle frames pending quiet =>
    rw [deed?_quiet setting crawl idle frames (pending_quiet pending quiet)]
    exact ⟨rfl, id⟩
  | left notices idle frames pending reason =>
    rw [deed?_quiet setting crawl idle frames (by simp [pending])]
    exact ⟨rfl, id⟩
  | read ended idle frames pending more going next =>
    rw [deed?_quiet setting crawl idle frames (by simp [pending])]
    exact ⟨rfl, id⟩

theorem step_due (turn : walk.step setting crawl = .onward after later) {other : String}
    (due : after.agenda.Due other) : walk.agenda.Due other ∨ ∃ location,
      walk.fetching = some location ∧ .child other ∈ setting.announced location crawl := by
  have outcome := step_outcome walk setting crawl
  rw [turn] at outcome
  cases outcome with
  | @opened location file fetching staged =>
    have announced : setting.announced location crawl =
        (Document.ofBytes location setting.scope file.content none).ahead := by
      unfold Setting.announced
      rw [staged]
      rfl
    rcases due with visited | fetches | candidate | ahead
    · rcases List.mem_cons.mp visited with rfl | before
      · exact Or.inl (Or.inr (Or.inl fetching))
      · exact Or.inl (Or.inl before)
    · cases fetches
    · exact Or.inl (Or.inr (Or.inr (Or.inl candidate)))
    · rcases List.mem_append.mp ahead with found | before
      · exact Or.inr ⟨location, fetching, by rwa [announced]⟩
      · exact Or.inl (Or.inr (Or.inr (Or.inr before)))
  | @unopened location notices fetching unstaged =>
    left
    rcases due with visited | fetches | candidate | ahead
    · rcases List.mem_cons.mp visited with rfl | before
      · exact Or.inr (Or.inl fetching)
      · exact Or.inl before
    · cases fetches
    · exact Or.inr (Or.inr (Or.inl candidate))
    · exact Or.inr (Or.inr (Or.inr ahead))
  | @met location next idle meets =>
    left
    rw [meets.draws.due]
    rcases visit_cases next location crawl with unmoved | ⟨-, turned⟩
    · rw [unmoved] at due
      exact Or.inr due
    · rw [turned] at due
      rcases due with visited | fetches | candidate | ahead
      · exact Or.inr (Or.inl visited)
      · exact Or.inl (Option.some.inj fetches).symm
      · exact Or.inr (Or.inr (Or.inr (Or.inl candidate)))
      · exact Or.inr (Or.inr (Or.inr (Or.inr ahead)))
  | handed idle frames pending accepted =>
    refine Or.inl (due_frames ?_ due)
    intro finding member
    rw [frames, List.flatMap_cons, Frame.ahead, pending]
    exact List.mem_cons_of_mem _ member
  | told notices idle frames pending quiet =>
    refine Or.inl (due_frames ?_ due)
    intro finding member
    rw [frames, List.flatMap_cons, Frame.ahead, pending]
    exact List.mem_cons_of_mem _ member
  | left notices idle frames pending reason =>
    refine Or.inl (due_frames ?_ due)
    intro finding member
    rw [frames, List.flatMap_cons]
    exact List.mem_append_right _ member
  | @read frame outer document findings ended idle frames pending more going next =>
    have kept : (⟨document, frame.file, findings, ended⟩ : Frame).ahead = frame.ahead := by
      unfold Frame.ahead
      cases ended with
      | true => simp [pending, more, Document.ahead_finished next]
      | false => simp [pending, more, Document.ahead_onward next]
    refine Or.inl (due_frames ?_ due)
    intro finding member
    rw [frames, List.flatMap_cons, ← kept]
    exact member

/-- A walk that keeps within what it set out with and what the locations with documents announce. -/
structure Confined (setting : Setting) (before : Crawl σ) (named bearing : List String)
    (walk : Walk) (crawl : Crawl σ) : Prop where
  alike : before.disk.Alike setting.staging.place crawl.disk
  placed : ∀ frame ∈ walk.frames, frame.file.directory = setting.staging.place
  fetched : crawl.journal.fetched = before.journal.fetched ++ walk.visited.reverse
  distinct : (walk.fetching.toList ++ walk.visited).Nodup
  within : ∀ location, walk.agenda.Due location → location ∈ named
  apart : walk.documents.Nodup
  borne : ∀ location ∈ walk.documents, location ∈ bearing ∧ location ∈ walk.visited

/-- Only these locations answer with documents, and what they announce is named. -/
structure Bearing (setting : Setting) (before : Crawl σ) (named bearing : List String) : Prop where
  others : ∀ location, location ∉ bearing → ∀ count,
    (setting.web.answer location count).delivers = false
  announced : ∀ location ∈ bearing, ∀ child,
    .child child ∈ setting.announced location before → child ∈ named

variable {before : Crawl σ} {named bearing : List String}

omit [RootStore σ] [Sink σ] in
theorem Bearing.delivered (bears : Bearing setting before named bearing) {location : String}
    {file : File} (staged : (setting.received location crawl).1 = .file file) :
    location ∈ bearing := by
  obtain ⟨response, answered, found⟩ := Staging.stage_file staged
  by_contra silent
  have delivers := bears.others location silent (crawl.journal.requests location)
  simp only [Answer.delivers, answered, found] at delivers
  cases delivers

omit [RootStore σ] [Sink σ] in
theorem Confined.fresh (confined : Confined setting before named bearing walk crawl)
    {location : String} (fetching : walk.fetching = some location) :
    location ∉ walk.visited := by
  have distinct := confined.distinct
  rw [fetching] at distinct
  exact (List.nodup_cons.mp distinct).1

omit [RootStore σ] [Sink σ] in
theorem Confined.announces (bears : Bearing setting before named bearing)
    (confined : Confined setting before named bearing walk crawl) {location child : String}
    (fetching : walk.fetching = some location)
    (announced : .child child ∈ setting.announced location crawl) : child ∈ named := by
  have delivers : location ∈ bearing := by
    cases staged : (setting.received location crawl).1 with
    | file file => exact bears.delivered staged
    | absent => simp [Setting.announced, staged] at announced
    | failed fault => simp [Setting.announced, staged] at announced
  have unfetched : location ∉ walk.visited.reverse := by
    rw [List.mem_reverse]
    exact confined.fresh fetching
  rw [setting.announced_fresh confined.alike confined.fetched unfetched] at announced
  exact bears.announced location delivers child announced

theorem Confined.step (bears : Bearing setting before named bearing)
    (confined : Confined setting before named bearing walk crawl)
    (turn : walk.step setting crawl = .onward after later) :
    Confined setting before named bearing after later := by
  obtain ⟨alike, placed⟩ := step_alike crawl confined.placed
  rw [turn] at alike
  obtain ⟨visited, distinct⟩ := step_visited turn
  have known : ∀ location ∈ walk.visited, location ∈ after.visited := by
    intro location member
    rw [visited]
    exact List.mem_append_right _ member
  have documents : after.documents.Nodup ∧
      ∀ location ∈ after.documents, location ∈ bearing ∧ location ∈ after.visited := by
    have old : ∀ location ∈ walk.documents, location ∈ bearing ∧ location ∈ after.visited :=
      fun location member => (confined.borne location member).imp_right (known location)
    rcases step_documents turn with same | ⟨location, file, fetching, staged, opened⟩ | ⟨left, kept⟩
    · rw [same]
      exact ⟨confined.apart, old⟩
    · rw [opened]
      constructor
      · refine List.nodup_cons.mpr ⟨?_, confined.apart⟩
        intro open_already
        exact confined.fresh fetching (confined.borne location open_already).2
      · intro other member
        rcases List.mem_cons.mp member with rfl | before
        · refine ⟨bears.delivered staged, ?_⟩
          rw [visited, deed?_fetching setting crawl fetching]
          exact List.mem_cons_self
        · exact old other before
    · have apart := confined.apart
      rw [kept] at apart old
      refine ⟨(List.nodup_cons.mp apart).2, fun other member => ?_⟩
      exact old other (List.mem_cons_of_mem _ member)
  refine ⟨confined.alike.trans alike, placed after later turn, ?_, distinct confined.distinct, ?_,
    documents.1, documents.2⟩
  · have once : ∀ deed : Option Deed,
        (Deed.attempted deed.toList).reverse = Deed.attempted deed.toList := by
      rintro (_ | _ | _) <;> rfl
    rw [(step_journal turn).1, confined.fetched, visited, List.reverse_append, once,
      List.append_assoc]
  · intro location due
    rcases step_due turn due with before | ⟨source, fetching, announced⟩
    · exact confined.within location before
    · exact confined.announces bears fetching announced

omit [RootStore σ] [Sink σ] in
theorem Confined.nesting (confined : Confined setting before named bearing walk crawl) :
    walk.frames.length ≤ bearing.length := by
  have within : walk.documents ⊆ bearing := fun location member =>
    (confined.borne location member).1
  have fewer := (confined.apart.subperm within).length_le
  rwa [documents, List.length_map] at fewer

end Steps

/-- How deep calls for a location are nested: one is inside each open document, and one more is
about to fetch. -/
def depth (walk : Walk) : Nat := walk.frames.length + walk.fetching.toList.length

end Walk

/-- What was fetched since: each location once, and no other than these. -/
def Crawl.Spent {σ : Type} (before : Crawl σ) (named : List String) (crawl : Crawl σ) : Prop :=
  ∃ fetched, crawl.journal.fetched = before.journal.fetched ++ fetched ∧ fetched.Nodup ∧
    ∀ location ∈ fetched, location ∈ named

theorem Crawl.Spent.still {σ : Type} {before crawl later : Crawl σ} {named : List String}
    (spent : before.Spent named crawl)
    (same : later.journal.fetched = crawl.journal.fetched) : before.Spent named later := by
  obtain ⟨fetched, journal, rest⟩ := spent
  exact ⟨fetched, same.trans journal, rest⟩

namespace Walk

variable {σ : Type} {walk : Walk} {setting : Setting} {before crawl later : Crawl σ}
  {named bearing : List String}

theorem Confined.spent (confined : Confined setting before named bearing walk crawl) :
    before.Spent named crawl := by
  refine ⟨walk.visited.reverse, confined.fetched, ?_, ?_⟩
  · exact List.nodup_reverse.mpr (List.nodup_append.mp confined.distinct).2.1
  · intro location member
    exact confined.within location (Or.inl (List.mem_reverse.mp member))

variable [RootStore σ] [Sink σ]

theorem Confined.panicked (confined : Confined setting before named bearing walk crawl)
    (turn : walk.step setting crawl = .panicked later) : before.Spent named later := by
  have outcome := step_outcome walk setting crawl
  rw [turn] at outcome
  cases outcome with
  | @broken location fetching panics =>
    have distinct := confined.distinct
    rw [fetching] at distinct
    refine ⟨(location :: walk.visited).reverse, ?_, List.nodup_reverse.mpr distinct, ?_⟩
    · rw [List.reverse_cons, ← List.append_assoc, ← confined.fetched]
      exact Crawl.request_fetched crawl setting.web location
    · intro other member
      rcases List.mem_cons.mp (List.mem_reverse.mp member) with rfl | visited
      · exact confined.within other (Or.inr (Or.inl fetching))
      · exact confined.within other (Or.inl visited)
  | refused idle frames pending panics => exact confined.spent

end Walk

namespace Job

variable {σ : Type} {job : Job} {setting : Setting} {before crawl : Crawl σ}
  {named bearing : List String} {phase : Phase}

def Bounded (setting : Setting) (before : Crawl σ) (named bearing : List String)
    (crawl : Crawl σ) : Phase → Prop
  | .asking | .entering | .gathering =>
    crawl.journal.fetched = before.journal.fetched ∧ crawl.disk = before.disk
  | .walking walk => walk.Confined setting before named bearing crawl
  | .closing _ | .finishing _ | .dropping _ | .done | .panicked => before.Spent named crawl

theorem Bounded.unspent (fetched : crawl.journal.fetched = before.journal.fetched) :
    before.Spent named crawl :=
  ⟨[], by rw [fetched, List.append_nil], List.nodup_nil, nofun⟩

variable [RootStore σ] [Sink σ]

theorem Bounded.step (bears : Walk.Bearing setting before named bearing)
    (given : job.readsRobots = false)
    (tries : ∀ location ∈ job.locations setting job.given, location ∈ named)
    (bounded : Bounded setting before named bearing crawl phase) :
    Bounded setting before named bearing (job.step setting phase crawl).2
      (job.step setting phase crawl).1 := by
  cases phase with
  | asking =>
    simp only [step]
    split
    · exact .unspent (by simpa using bounded.1)
    · exact bounded
  | entering =>
    have free : Phase.entering.holds = false := rfl
    have fetched := step_fetched job setting crawl free
    have disk := (Crawl.enter_rest crawl job.root).2
    simp only [step] at fetched ⊢
    split
    · exact ⟨fetched.trans bounded.1, disk.trans bounded.2⟩
    · exact .unspent (fetched.trans bounded.1)
  | gathering =>
    obtain ⟨notices, out⟩ := setOut_note job setting crawl job.given
    simp only [step, gather, given, Bool.false_eq_true, if_false, out]
    refine ⟨?_, fun _ member => absurd member List.not_mem_nil, ?_, List.nodup_nil, ?_,
      List.nodup_nil, fun _ member => absurd member List.not_mem_nil⟩
    · rw [Crawl.note_disk, bounded.2]
      exact .refl _ _
    · rw [Crawl.note_journal, Journal.fetched_note, bounded.1]
      exact (List.append_nil _).symm
    · rintro location (visited | fetching | candidate | ahead)
      · cases visited
      · cases fetching
      · exact tries location candidate
      · cases ahead
  | walking walk =>
    have confined : walk.Confined setting before named bearing crawl := bounded
    simp only [step]
    split
    · rename_i after later turn
      exact confined.step bears turn
    · rename_i visited later turn
      rw [(Walk.step_ending turn).1]
      exact confined.spent
    · rename_i later turn
      exact confined.panicked turn
  | closing visited =>
    have spent : before.Spent named crawl := bounded
    simp only [step]
    split
    · exact spent.still (Journal.fetched_note _ _)
    · exact spent
  | finishing visited =>
    have still : (job.step setting (.finishing visited) crawl).2.journal.fetched =
        crawl.journal.fetched := by
      simp [step, Crawl.finish, Crawl.info, Crawl.log, Journal.fetched_cons]
    exact Crawl.Spent.still bounded still
  | dropping panics =>
    have still : (job.step setting (.dropping panics) crawl).2.journal.fetched =
        crawl.journal.fetched := by
      simp [step, Crawl.drop, Crawl.log, Journal.fetched_cons]
    have spent : before.Spent named (job.step setting (.dropping panics) crawl).2 :=
      Crawl.Spent.still bounded still
    cases panics <;> exact spent
  | done => exact bounded
  | panicked => exact bounded

/-- Whatever the documents of finitely many locations announce, resolving a root ends; calls for a
location are nested no deeper than one more than there are such locations, the last of them without
a document; and each fetch is another one of the candidates and what those documents announce. -/
theorem resolve_bounded (root : Root) (explicit : List String) (startOnly : Bool)
    (setting : Setting) (crawl : Crawl σ) (bearing : List String)
    (others : ∀ location, location ∉ bearing → ∀ count,
      (setting.web.answer location count).delivers = false) :
    let job : Job := ⟨root, explicit, startOnly, false⟩
    let named := candidates explicit root setting.paths startOnly ++
      bearing.flatMap fun location => childrenOf (setting.announced location crawl)
    (∃ n, (job.after setting crawl n).1.isOver = true) ∧
    (∀ n walk, (job.after setting crawl n).1 = .walking walk →
      walk.frames.length ≤ bearing.length ∧ walk.depth ≤ bearing.length + 1) ∧
    ∃ fetched, (job.run setting crawl).2.journal.fetched = crawl.journal.fetched ++ fetched ∧
      fetched.Nodup ∧ (∀ location ∈ fetched, location ∈ named) ∧
      fetched.length ≤ named.dedup.length := by
  intro job named
  have bears : Walk.Bearing setting crawl named bearing := by
    refine ⟨others, ?_⟩
    intro location member child announced
    apply List.mem_append_right
    exact List.mem_flatMap.mpr ⟨location, member, mem_childrenOf.mpr announced⟩
  have step : ∀ phase later, Bounded setting crawl named bearing later phase →
      Bounded setting crawl named bearing (job.step setting phase later).2
        (job.step setting phase later).1 :=
    fun _ _ => Bounded.step bears rfl fun location => List.mem_append_left _
  refine ⟨after_ends job setting crawl, ?_, ?_⟩
  · intro n walk walking
    have start : Bounded setting crawl named bearing crawl .asking := ⟨rfl, rfl⟩
    have bounded := after_keeps job setting
      (fun phase later => Bounded setting crawl named bearing later phase) step start n
    rw [walking] at bounded
    have nested := bounded.nesting
    refine ⟨nested, ?_⟩
    have single : walk.fetching.toList.length ≤ 1 := by cases walk.fetching <;> simp
    unfold Walk.depth
    omega
  · obtain ⟨bounded, ended⟩ := run_keeps job setting
      (fun phase later => Bounded setting crawl named bearing later phase) step crawl 0 ⟨rfl, rfl⟩
    have spent : crawl.Spent named (job.run setting crawl).2 := by
      cases phase : (job.run setting crawl).1 with
      | done => rwa [phase] at bounded
      | panicked => rwa [phase] at bounded
      | _ =>
        rw [phase] at ended
        cases ended
    obtain ⟨fetched, journal, distinct, within⟩ := spent
    have known : fetched ⊆ named.dedup := fun location member =>
      List.mem_dedup.mpr (within location member)
    exact ⟨fetched, journal, distinct, within, (distinct.subperm known).length_le⟩

def circle : Setting := .ofTexts [("http://a/i", "<sitemap><loc>http://a/i</loc></sitemap>")]

theorem resolve_bounded_circle :
    let crawl : Crawl Tally := .start ⟨.create .memory, 0⟩ .empty
    let job : Job := ⟨⟨"http://a"⟩, ["http://a/i", "http://a/j"], true, false⟩
    let bearing := ["http://a/i"]
    (∀ location, location ∉ bearing → ∀ count,
      (circle.web.answer location count).delivers = false) ∧
    (∃ n, (job.after circle crawl n).1.isOver = true) ∧
    (∀ n walk, (job.after circle crawl n).1 = .walking walk →
      walk.frames.length ≤ 1 ∧ walk.depth ≤ 2) ∧
    (job.run circle crawl).2.journal.fetched.length ≤ 2 := by
  intro crawl job bearing
  have others : ∀ location, location ∉ bearing → ∀ count,
      (circle.web.answer location count).delivers = false := circle.web.silent
  obtain ⟨ends, nested, fetched, journal, -, -, fewer⟩ :=
    resolve_bounded ⟨"http://a"⟩ ["http://a/i", "http://a/j"] true circle crawl bearing others
  refine ⟨others, ends, ?_, ?_⟩
  · intro n walk walking
    exact nested n walk walking
  have tried : candidates ["http://a/i", "http://a/j"] ⟨"http://a"⟩ circle.paths true =
      ["http://a/i", "http://a/j"] := by decide +kernel
  have listed : childrenOf (circle.announced "http://a/i" crawl) = ["http://a/i"] := by
    decide +kernel
  have named : (["http://a/i", "http://a/j"] ++ ["http://a/i"]).dedup.length = 2 := by
    decide +kernel
  have start : crawl.journal.fetched = [] := rfl
  rw [journal, start, List.nil_append]
  simpa [bearing, tried, listed, named] using fewer

end Job

end Sitemaps
