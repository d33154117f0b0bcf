import Sitemaps.Crawl.Walk

/-!
Every step of a walk gets it closer to its end: it uses up a location that can deliver a document,
or bytes of an open document, or something that is left to do with the documents at hand.
-/

namespace Sitemaps

def Frame.bytes (frame : Frame) : Nat := if frame.ended then 0 else frame.document.remaining + 1

def Frame.allBytes (frames : List Frame) : Nat :=
  frames.foldr (fun frame total => frame.bytes + total) 0

theorem Frame.allBytes_cons (frame : Frame) (outer : List Frame) :
    Frame.allBytes (frame :: outer) = frame.bytes + Frame.allBytes outer := rfl

namespace Walk

def untried (web : Web) (walk : Walk) : Nat :=
  web.answering.countP fun location =>
    !walk.visited.contains location || walk.fetching == some location

def bytes (walk : Walk) : Nat := Frame.allBytes walk.frames

def pendings (walk : Walk) : Nat :=
  walk.frames.foldr (fun frame total => frame.pending.length + total) 0

def chores (walk : Walk) : Nat :=
  2 * (walk.candidates.length + walk.pendings) + walk.fetching.toList.length + walk.frames.length

def work (web : Web) (walk : Walk) : Nat × Nat × Nat :=
  (walk.untried web, walk.bytes, walk.chores)

end Walk

def Less (a b : Nat × Nat × Nat) : Prop :=
  a.1 < b.1 ∨ a.1 = b.1 ∧ (a.2.1 < b.2.1 ∨ a.2.1 = b.2.1 ∧ a.2.2 < b.2.2)

theorem Less.lex {a b : Nat × Nat × Nat} (less : Less a b) :
    Prod.Lex (· < ·) (Prod.Lex (· < ·) (· < ·)) a b := by
  rcases a with ⟨a, b', c⟩
  rcases b with ⟨a', b'', c'⟩
  rcases less with first | ⟨first, second | ⟨second, third⟩⟩
  · exact Prod.Lex.left _ _ first
  · simp only at first second
    subst first
    exact Prod.Lex.right _ (Prod.Lex.left _ _ second)
  · simp only at first second third
    subst first
    subst second
    exact Prod.Lex.right _ (Prod.Lex.right _ third)

namespace Walk

section Visit

variable {σ : Type} (walk : Walk) (location : String) (crawl : Crawl σ)

theorem visit_same : (walk.visit location crawl).1.frames = walk.frames ∧
    (walk.visit location crawl).1.candidates = walk.candidates ∧
    (walk.visit location crawl).1.visited = walk.visited := by
  unfold visit
  split
  · exact ⟨rfl, rfl, rfl⟩
  · split <;> exact ⟨rfl, rfl, rfl⟩

theorem visit_untried (web : Web) (idle : walk.fetching = none) :
    (walk.visit location crawl).1.untried web = walk.untried web := by
  unfold visit
  split
  · rfl
  · rename_i fresh
    split
    · rfl
    · unfold untried
      congr 1
      funext other
      by_cases same : other = location
      · subst same
        simp_all
      · have different : (location == other) = false := by
          simpa using fun h : location = other => same h.symm
        simp [idle, different]

theorem visit_fetching (idle : walk.fetching = none) :
    (walk.visit location crawl).1.fetching.toList.length ≤ 1 := by
  unfold visit
  split
  · simp [idle]
  · split
    · simp [idle]
    · simp

theorem visit_chores (idle : walk.fetching = none) :
    (walk.visit location crawl).1.chores ≤ walk.chores + 1 := by
  have same := visit_same walk location crawl
  have one := visit_fetching walk location crawl idle
  simp only [chores, pendings, same.1, same.2.1]
  omega

theorem visit_bytes : (walk.visit location crawl).1.bytes = walk.bytes := by
  simp [bytes, (visit_same walk location crawl).1]

end Visit

theorem delivers_known {web : Web} {location : String} {count : Nat} {response : Response}
    (result : (web.answer location count).result = .ok response) (ok : response.isOk = true) :
    location ∈ web.answering := by
  apply Classical.byContradiction
  intro absent
  have silent := web.silent location absent count
  simp [Answer.delivers, result, ok] at silent

theorem countP_lt_of_mem {α : Type} (p q : α → Bool) (list : List α)
    (weaker : ∀ a, p a = true → q a = true) (a : α) (member : a ∈ list) (no : p a = false)
    (yes : q a = true) : list.countP p < list.countP q := by
  induction list with
  | nil => cases member
  | cons first rest ih =>
    have others : rest.countP p ≤ rest.countP q := List.countP_mono_left fun a _ => weaker a
    rcases List.mem_cons.mp member with same | later
    · subst same
      simp [no, yes]
      omega
    · have more := ih later
      simp only [List.countP_cons]
      by_cases first_p : p first = true
      · simp [first_p, weaker _ first_p, more]
      · rw [if_neg first_p]
        omega

theorem attempt_weaker (walk : Walk) (location other : String)
    (yes : (!(walk.attempt location).visited.contains other ||
      (walk.attempt location).fetching == some other) = true) :
    (!walk.visited.contains other || walk.fetching == some other) = true := by
  simp only [attempt, List.contains_cons, Bool.or_eq_true] at yes ⊢
  rcases yes with new | absurd
  · left
    simp_all
  · simp at absurd

theorem attempt_untried_le (web : Web) (walk : Walk) (location : String) :
    (walk.attempt location).untried web ≤ walk.untried web :=
  List.countP_mono_left fun other _ => attempt_weaker walk location other

theorem attempt_untried_lt (web : Web) (walk : Walk) (location : String)
    (fetching : walk.fetching = some location) (known : location ∈ web.answering) :
    (walk.attempt location).untried web < walk.untried web := by
  refine countP_lt_of_mem _ _ _ (attempt_weaker walk location) location known ?_ ?_
  · simp [attempt]
  · simp [fetching]

section Steps

variable {σ : Type} (setting : Setting) (walk after : Walk) (location : String)
  (crawl later : Crawl σ)

theorem visit_less (before : Walk) (idle : walk.fetching = none)
    (untried : walk.untried setting.web = before.untried setting.web)
    (bytes : walk.bytes = before.bytes) (chores : walk.chores + 2 = before.chores) :
    Less ((walk.visit location crawl).1.work setting.web) (before.work setting.web) := by
  have a := visit_untried walk location crawl setting.web idle
  have b := visit_bytes walk location crawl
  have c := visit_chores walk location crawl idle
  refine Or.inr ⟨a.trans untried, Or.inr ⟨b.trans bytes, ?_⟩⟩
  simp only [work]
  omega

theorem read_less (frame : Frame) (outer : List Frame) (shape : walk.frames = frame :: outer)
    (more : frame.ended = false) (turn : walk.read frame outer crawl = .onward after later) :
    Less (after.work setting.web) (walk.work setting.web) := by
  have fewer (kept : List Frame)
      (less : Frame.allBytes kept < frame.bytes + Frame.allBytes outer) :
      Less ({ walk with frames := kept }.work setting.web) (walk.work setting.web) := by
    refine Or.inr ⟨rfl, Or.inl ?_⟩
    simpa [work, Walk.bytes, Frame.allBytes_cons, shape] using less
  have size : frame.bytes = frame.document.remaining + 1 := by simp [Frame.bytes, more]
  have left := fewer outer (by omega)
  unfold read at turn
  dsimp only at turn
  split at turn
  · cases turn
    exact left
  · split at turn
    · cases turn
      exact left
    · cases turn
      refine fewer _ ?_
      simp [Frame.allBytes_cons, Frame.bytes, more]
    · rename_i document findings next
      cases turn
      have shorter := Sitemap.Document.next_shorter next
      refine fewer _ ?_
      simp [Frame.allBytes_cons, Frame.bytes, more]
      omega

variable [RootStore σ]

theorem request_result {web : Web} {result : Except FetchFault Response}
    (asked : crawl.request web location = (some result, later)) :
    result = (web.answer location (crawl.journal.requests location)).result := by
  unfold Crawl.request at asked
  simp only [Prod.mk.injEq] at asked
  have first := asked.1
  split at first
  · cases first
  · exact (Option.some.inj first).symm

theorem fetch_less (fetching : walk.fetching = some location)
    (turn : (walk.attempt location).fetch setting location crawl = .onward after later) :
    Less (after.work setting.web) (walk.work setting.web) := by
  have fewer : Less ((walk.attempt location).work setting.web) (walk.work setting.web) := by
    have le := attempt_untried_le setting.web walk location
    have chores : (walk.attempt location).chores < walk.chores := by
      simp [attempt, Walk.chores, pendings, fetching]
    rcases Nat.lt_or_eq_of_le le with less | same
    · exact Or.inl less
    · exact Or.inr ⟨same, Or.inr ⟨rfl, chores⟩⟩
  unfold fetch at turn
  split at turn
  · cases turn
  · rename_i result asker asked
    have answered := request_result location crawl asker asked
    dsimp only at turn
    split at turn
    · rename_i file staged
      obtain ⟨response, ok, delivered⟩ := Staging.stage_file staged
      have known := delivers_known (answered ▸ ok) delivered
      cases turn
      exact Or.inl (attempt_untried_lt setting.web walk location fetching known)
    · cases turn
      exact fewer
    · cases turn
      exact fewer

variable [Sink σ]

theorem deliver_less (before : Walk) (finding : Sitemap.Finding) (idle : walk.fetching = none)
    (untried : walk.untried setting.web = before.untried setting.web)
    (bytes : walk.bytes = before.bytes) (chores : walk.chores + 2 = before.chores)
    (turn : walk.deliver location finding crawl = .onward after later) :
    Less (after.work setting.web) (before.work setting.web) := by
  have fewer : Less (walk.work setting.web) (before.work setting.web) := by
    refine Or.inr ⟨untried, Or.inr ⟨bytes, ?_⟩⟩
    simp only [work]
    omega
  unfold deliver at turn
  split at turn
  · cases turn
    exact visit_less setting walk _ crawl before idle untried bytes chores
  · split at turn
    · cases turn
    · cases turn
      exact fewer
  all_goals
    cases turn
    exact fewer

theorem step_less (turn : walk.step setting crawl = .onward after later) :
    Less (after.work setting.web) (walk.work setting.web) := by
  unfold step at turn
  split at turn
  · rename_i location fetching
    exact fetch_less setting walk after location crawl later fetching turn
  · cases turn
  · rename_i location rest idle frames candidates
    cases turn
    refine visit_less setting _ location crawl walk idle rfl rfl ?_
    simp [chores, pendings, candidates]
    omega
  · rename_i frame outer idle shape
    split at turn
    · rename_i finding rest pending
      refine deliver_less setting _ after _ crawl later walk finding ?_ ?_ ?_ ?_ turn
      · exact idle
      · rfl
      · simp [bytes, Frame.allBytes_cons, Frame.bytes, shape]
      · simp [chores, pendings, shape, pending]
        omega
    · rename_i pending
      split at turn
      · rename_i ended
        cases turn
        refine Or.inr ⟨rfl, Or.inr ⟨?_, ?_⟩⟩
        · simp [work, bytes, Frame.allBytes_cons, Frame.bytes, shape, ended]
        · simp [work, chores, pendings, shape, pending]
      · rename_i more
        exact read_less setting walk after crawl later frame outer shape (by simpa using more) turn

end Steps

end Walk

end Sitemaps
