import Mathlib.Data.List.Sort
import Mathlib.Logic.Relation
import Sitemaps.Proofs.Declarations
import Sitemaps.Proofs.Encoding
import Sitemaps.Proofs.Trimming

/-!
Spellings of the lists of locations to try. Order, repetitions, blank texts and blanks around the
others do not matter, nor does the slash that a path begins with: what there is to try is the same
ordered list, and so a job runs in the same way.
-/

namespace Sitemaps

/-- A text, and the same text with blanks around it. -/
inductive Padded : String → String → Prop
  | around (front text back : String) (white : ∀ c ∈ front.toList, Text.isBlank c = true)
      (also : ∀ c ∈ back.toList, Text.isBlank c = true) : Padded text (front ++ text ++ back)

/-- Two spellings of a path: with blanks around it, or with the slash before it and without. -/
inductive Reworded : String → String → Prop
  | padded {path other : String} (padded : Padded path other) : Reworded path other
  | unslashed {path : String} {c : Char} (starts : path.toList.head? = some c) (other : c ≠ '/')
      (solid : Text.isBlank c = false) : Reworded ("/" ++ path) path

/-- A change of a list of texts, some of which may be spelled otherwise. -/
inductive Respelling (alike : String → String → Prop) : List String → List String → Prop
  | permuted {texts others : List String} (same : texts.Perm others) :
      Respelling alike texts others
  | repeated {text : String} {texts : List String} (known : text ∈ texts) :
      Respelling alike texts (text :: texts)
  | blank {text : String} (white : ∀ c ∈ text.toList, Text.isBlank c = true)
      (texts : List String) : Respelling alike texts (text :: texts)
  | replaced {text other : String} (same : alike text other) (texts : List String) :
      Respelling alike (text :: texts) (other :: texts)

/-- Lists that can be turned into each other by such changes, made or taken back. -/
def Respelled (alike : String → String → Prop) : List String → List String → Prop :=
  Relation.EqvGen (Respelling alike)

def spelled? (place : String → String) (text : String) : Option String :=
  if Text.trim text = "" then none else some (place (Text.trim text))

section Texts

variable {place : String → String} {alike : String → String → Prop} {text other location : String}
  {texts others : List String} {root : Root}

theorem spelled?_blank (white : ∀ c ∈ text.toList, Text.isBlank c = true) :
    spelled? place text = none := by
  have trimmed : Text.trim text = "" := by
    rw [Text.trim, Text.trimChars_white white]
  exact if_pos trimmed

theorem Padded.spelled (padded : Padded text other) :
    spelled? place text = spelled? place other := by
  cases padded with
  | around front text back white also =>
    have trimmed : Text.trim (front ++ text ++ back) = Text.trim text := by
      rw [Text.trim, String.toList_append, String.toList_append,
        Text.trimChars_around white also, ← Text.trim]
    rw [spelled?, spelled?, trimmed]

theorem Root.locate_unslashed {c : Char} (starts : text.toList.head? = some c) (other : c ≠ '/') :
    root.locate ("/" ++ text) = root.locate text := by
  have slash : ("/" ++ text).toList.head? = some '/' := by simp
  have none : text.toList.head? ≠ some '/' := by simpa [starts] using other
  rw [locate, locate, if_pos slash, if_neg none, String.append_assoc]

theorem Reworded.spelled {path shorter : String} (reworded : Reworded path shorter) :
    spelled? root.locate path = spelled? root.locate shorter := by
  cases reworded with
  | padded padded => exact padded.spelled
  | unslashed starts other solid =>
    obtain ⟨begins, slashed⟩ := Text.trim_slash starts solid
    have filled : Text.trim shorter ≠ "" := by
      intro blank
      rw [blank] at begins
      cases begins
    have longer : "/" ++ Text.trim shorter ≠ "" := by simp
    rw [spelled?, spelled?, slashed, if_neg longer, if_neg filled,
      Root.locate_unslashed begins other]

theorem Respelling.mem (same : ∀ {text other}, alike text other →
      spelled? place text = spelled? place other) (respelling : Respelling alike texts others) :
    location ∈ texts.filterMap (spelled? place) ↔ location ∈ others.filterMap (spelled? place) := by
  cases respelling with
  | permuted perm => exact (perm.filterMap _).mem_iff
  | @repeated text texts known =>
    rw [List.filterMap_cons]
    split
    · rfl
    · rename_i own told
      rw [List.mem_cons, or_iff_right_of_imp]
      rintro rfl
      exact List.mem_filterMap.mpr ⟨text, known, told⟩
  | blank white texts => rw [List.filterMap_cons, spelled?_blank white]
  | replaced alike texts => rw [List.filterMap_cons, List.filterMap_cons, same alike]

theorem Respelled.mem (same : ∀ {text other}, alike text other →
      spelled? place text = spelled? place other) (respelled : Respelled alike texts others) :
    location ∈ texts.filterMap (spelled? place) ↔ location ∈ others.filterMap (spelled? place) := by
  induction respelled with
  | rel texts others respelling => exact respelling.mem same
  | refl texts => exact Iff.rfl
  | symm texts others _ ih => exact ih.symm
  | trans texts others more _ _ first second => exact first.trans second

end Texts

section Candidates

variable {explicit others paths otherPaths : List String} {root : Root} {startOnly : Bool}
  {location : String}

theorem mem_candidates_texts : location ∈ candidates explicit root paths startOnly ↔
    (∃ text ∈ explicit, Text.trim text ≠ "" ∧ Text.trim text = location) ∨
      startOnly = false ∧
        ∃ path ∈ paths, Text.trim path ≠ "" ∧ root.locate (Text.trim path) = location := by
  have known : location ∈ spelledOut explicit ↔
      ∃ text ∈ explicit, Text.trim text ≠ "" ∧ Text.trim text = location := by
    rw [mem_spelledOut]
    constructor
    · rintro ⟨filled, text, listed, rfl⟩
      exact ⟨text, listed, filled, rfl⟩
    · rintro ⟨text, listed, filled, rfl⟩
      exact ⟨filled, text, listed, rfl⟩
  have probed : (∃ path ∈ spelledOut paths, root.locate path = location) ↔
      ∃ path ∈ paths, Text.trim path ≠ "" ∧ root.locate (Text.trim path) = location := by
    constructor
    · rintro ⟨path, spelled, located⟩
      obtain ⟨filled, text, listed, rfl⟩ := mem_spelledOut.mp spelled
      exact ⟨text, listed, filled, located⟩
    · rintro ⟨text, listed, filled, located⟩
      exact ⟨Text.trim text, mem_spelledOut.mpr ⟨filled, text, listed, rfl⟩, located⟩
  rw [mem_candidates, known, probed]

theorem mem_spelled {place : String → String} {texts : List String} :
    location ∈ texts.filterMap (spelled? place) ↔
      ∃ text ∈ texts, Text.trim text ≠ "" ∧ place (Text.trim text) = location := by
  simp [List.mem_filterMap, spelled?]

/-- Other spellings of the lists give the same locations, whatever else is known. -/
theorem candidates_respelled (explicitly : Respelled Padded explicit others)
    (probed : Respelled Reworded paths otherPaths) (more : List String) :
    candidates (others ++ more) root otherPaths startOnly =
      candidates (explicit ++ more) root paths startOnly := by
  refine candidates_sorted.eq_of_mem_iff candidates_sorted fun location => ?_
  have listed : location ∈ (others ++ more).filterMap (spelled? id) ↔
      location ∈ (explicit ++ more).filterMap (spelled? id) := by
    rw [List.filterMap_append, List.filterMap_append, List.mem_append, List.mem_append,
      explicitly.mem Padded.spelled]
  have located : location ∈ paths.filterMap (spelled? root.locate) ↔
      location ∈ otherPaths.filterMap (spelled? root.locate) := probed.mem Reworded.spelled
  rw [mem_spelled, mem_spelled] at listed located
  rw [mem_candidates_texts, mem_candidates_texts]
  exact or_congr listed (and_congr_right fun _ => located.symm)

end Candidates

namespace Job

section Alike

variable {σ : Type} [RootStore σ] [Sink σ] {job other : Job} {setting otherSetting : Setting}

theorem runFrom_congr (same : ∀ phase (crawl : Crawl σ),
      other.step otherSetting phase crawl = job.step setting phase crawl) (phase : Phase)
    (crawl : Crawl σ) : other.runFrom otherSetting phase crawl = job.runFrom setting phase crawl := by
  fun_induction job.runFrom setting phase crawl with
  | case1 phase crawl more next ih =>
    rw [runFrom, dif_pos more, same]
    exact ih
  | case2 phase crawl ended => rw [runFrom, dif_neg ended]

end Alike

section Respelled

variable {σ : Type} {job : Job} {setting : Setting} {given paths : List String}

theorem setOut_respelled (explicitly : Respelled Padded job.given given)
    (probed : Respelled Reworded setting.paths paths) (more : List String) (crawl : Crawl σ) :
    setOut { job with given := given } { setting with paths := paths } (given ++ more) crawl =
      job.setOut setting (job.given ++ more) crawl := by
  unfold setOut
  rw [candidates_respelled explicitly probed more]

variable [RootStore σ] [Sink σ]

theorem step_respelled (explicitly : Respelled Padded job.given given)
    (probed : Respelled Reworded setting.paths paths) (phase : Phase) (crawl : Crawl σ) :
    step { job with given := given } { setting with paths := paths } phase crawl =
      job.step setting phase crawl := by
  cases phase with
  | gathering =>
    simp only [step, gather]
    split
    · split
      · rfl
      · exact setOut_respelled explicitly probed _ _
    · have alone := setOut_respelled explicitly probed [] crawl
      rwa [List.append_nil, List.append_nil] at alone
  | _ => rfl

theorem run_respelled (explicitly : Respelled Padded job.given given)
    (probed : Respelled Reworded setting.paths paths) (crawl : Crawl σ) :
    run { job with given := given } { setting with paths := paths } crawl =
      job.run setting crawl :=
  runFrom_congr (step_respelled explicitly probed) .asking crawl

end Respelled

/-- The spelling of what there is to try does not matter. It is tried in the order of the bytes of
its locations, each of them once: the given texts and, unless those are all there is, what the
probed paths lead to, trimmed and without the blank ones. Lists that spell out the same give the
same run, with the same requests, entries and notices in the same order. -/
theorem run_spelling :
    (∀ (explicit paths : List String) (root : Root) (startOnly : Bool),
      let locations := candidates explicit root paths startOnly
      locations.Pairwise (Text.Utf8.encode · < Text.Utf8.encode ·) ∧
      ∀ location, location ∈ locations ↔
        (∃ text ∈ explicit, Text.trim text ≠ "" ∧ Text.trim text = location) ∨
          startOnly = false ∧
            ∃ path ∈ paths, Text.trim path ≠ "" ∧ root.locate (Text.trim path) = location) ∧
    ∀ (job : Job) (setting : Setting) (given paths : List String),
      Respelled Padded job.given given → Respelled Reworded setting.paths paths →
      candidates given job.root paths job.startOnly =
          candidates job.given job.root setting.paths job.startOnly ∧
      ∀ {σ : Type} [RootStore σ] [Sink σ] (crawl : Crawl σ),
        run { job with given := given } { setting with paths := paths } crawl =
          job.run setting crawl := by
  refine ⟨fun explicit paths root startOnly => ⟨?_, fun location => mem_candidates_texts⟩,
    fun job setting given paths explicitly probed => ⟨?_, run_respelled explicitly probed⟩⟩
  · exact candidates_sorted.imp Text.Utf8.encode_lt
  · have same : candidates (given ++ []) job.root paths job.startOnly =
        candidates (job.given ++ []) job.root setting.paths job.startOnly :=
      candidates_respelled explicitly probed []
    rwa [List.append_nil, List.append_nil] at same

def shelves : Job × Setting :=
  (⟨⟨"http://[::1]"⟩, ["http://[::1]/d", "http://[::1]/b"], false, false⟩,
    { Setting.ofTexts [("http://[::1]/c", "<url><loc>http://[::1]/p</loc></url>")] with
      paths := ["/c"] })

theorem run_spelling_shelves :
    let job := shelves.1
    let setting := shelves.2
    let given := ["", " http://[::1]/b\u2003", "http://[::1]/b", "http://[::1]/d"]
    let paths := ["c\t", "c"]
    let crawl : Crawl (Listener MemoryStore) := .start ⟨⟨[], false⟩, 0, none, none⟩ .empty
    let last := run { job with given := given } { setting with paths := paths } crawl
    Respelled Padded job.given given ∧ Respelled Reworded setting.paths paths ∧
      candidates given job.root paths job.startOnly =
        ["http://[::1]/b", "http://[::1]/c", "http://[::1]/d"] ∧
      last.2.journal.fetched = ["http://[::1]/b", "http://[::1]/c", "http://[::1]/d"] ∧
      last.2.journal.accepted.map (·.reference) = ["http://[::1]/p"] := by
  intro job setting given paths crawl last
  have explicitly : Respelled Padded job.given given := by
    have turned : Respelled Padded job.given ["http://[::1]/b", "http://[::1]/d"] :=
      .rel _ _ (.permuted (List.Perm.swap _ _ _))
    have twice : Respelled Padded ["http://[::1]/b", "http://[::1]/d"]
        ["http://[::1]/b", "http://[::1]/b", "http://[::1]/d"] :=
      .rel _ _ (.repeated List.mem_cons_self)
    have around : Padded "http://[::1]/b" " http://[::1]/b\u2003" :=
      .around " " _ "\u2003" (List.all_eq_true.mp rfl) (List.all_eq_true.mp rfl)
    exact .trans _ _ _ turned <| .trans _ _ _ twice <|
      .trans _ _ _ (.rel _ _ (.replaced around _)) (.rel _ _ (.blank (by simp) _))
  have probed : Respelled Reworded setting.paths paths := by
    have bare : Reworded ("/" ++ "c") "c" := @Reworded.unslashed "c" 'c' rfl (by decide) rfl
    have around : Reworded "c" "c\t" := 
      .padded (.around "" _ "\t" (by simp) (List.all_eq_true.mp rfl))
    exact .trans _ _ _ (.rel _ _ (.replaced bare _)) <|
      .trans _ _ _ (.rel _ _ (.repeated List.mem_cons_self)) (.rel _ _ (.replaced around _))
  obtain ⟨same, runs⟩ := run_spelling.2 job setting given paths explicitly probed
  have ended : job.run setting crawl = job.after setting crawl 30 :=
    run_after _ _ (by decide +kernel)
  have kept : last = job.after setting crawl 30 := (runs crawl).trans ended
  refine ⟨explicitly, probed, ?_, ?_, ?_⟩
  · rw [same]
    decide +kernel
  · rw [kept]
    decide +kernel
  · rw [kept]
    decide +kernel

end Job

end Sitemaps
