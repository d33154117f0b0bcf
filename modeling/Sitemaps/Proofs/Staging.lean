import Sitemaps.Proofs.Tour

/-!
The files of a walk. The files of its open documents lie on top of those that were there before it,
the innermost first, and each goes away with its document.
-/

namespace Sitemaps

namespace Disk

theorem makeFrom_files {disk made : Disk} {parent : Place} {names : List String}
    (done : disk.makeFrom parent names = .ok made) : made.files = disk.files := by
  induction names generalizing disk parent with
  | nil =>
    cases done
    rfl
  | cons name rest ih =>
    simp only [makeFrom] at done
    split at done
    · exact ih done
    · cases done
    · have same := ih done
      exact same

theorem delete_files {disk : Disk} {file : File} {files : List File}
    (top : disk.files = file :: files) : (disk.delete file).files = files := by
  simp [delete, top]

end Disk

namespace Disk

/-- Two disks that have files at the same places, as far as the way to a directory goes. -/
def Alike (place : Place) (first second : Disk) : Prop :=
  ∀ other : Place, other.length ≤ place.length →
    (first.node? other = some .file ↔ second.node? other = some .file)

variable {place : Place} {first second third : Disk}

theorem Alike.refl (place : Place) (disk : Disk) : Alike place disk disk := fun _ _ => Iff.rfl

theorem Alike.symm (same : Alike place first second) : Alike place second first :=
  fun other short => (same other short).symm

theorem Alike.trans (before : Alike place first second) (after : Alike place second third) :
    Alike place first third :=
  fun other short => (before other short).trans (after other short)

theorem node?_file (disk : Disk) (other : Place) : disk.node? other = some .file ↔
    other ≠ [] ∧ other ∉ disk.directories ∧
      ∃ file ∈ disk.files, file.directory ++ [file.name] = other := by
  unfold node?
  by_cases top : other = []
  · simp [top]
  · by_cases made : other ∈ disk.directories
    · simp [made]
    · simp only [top, made, List.contains_eq_mem, decide_false, Bool.or_false, decide_eq_true_eq,
        List.any_eq_true, ne_eq, not_false_eq_true, true_and]
      split <;> simp_all

theorem alike_directory (disk : Disk) {made : Place} (free : disk.node? made ≠ some .file) :
    Alike place disk { disk with directories := made :: disk.directories } := by
  intro other short
  by_cases here : other = made
  · subst here
    exact iff_of_false free (by simp [node?_file])
  · simp [node?_file, here]

theorem alike_files (disk : Disk) {files : List File}
    (same : ∀ file : File, file.directory ≠ place → (file ∈ files ↔ file ∈ disk.files)) :
    Alike place disk { disk with files := files } := by
  -- a file in the directory itself lies one step too far to be on the way to it
  have elsewhere : ∀ (other : Place) (file : File), other.length ≤ place.length →
      file.directory ++ [file.name] = other → file.directory ≠ place := by
    rintro other file short rfl rfl
    rw [List.length_append, List.length_singleton] at short
    exact Nat.not_succ_le_self _ short
  intro other short
  rw [node?_file, node?_file]
  constructor
  · rintro ⟨below, unmade, file, member, path⟩
    have still := (same file (elsewhere other file short path)).mpr member
    exact ⟨below, unmade, file, still, path⟩
  · rintro ⟨below, unmade, file, member, path⟩
    have before := (same file (elsewhere other file short path)).mp member
    exact ⟨below, unmade, file, before, path⟩

theorem alike_addTemporary (disk : Disk) (place : Place) (content : List UInt8) :
    Alike place disk (disk.addTemporary place content).2 := by
  have same : ∀ file : File, file.directory ≠ place →
      (file ∈ (disk.addTemporary place content).1 :: disk.files ↔ file ∈ disk.files) := by
    intro file elsewhere
    rw [List.mem_cons]
    refine ⟨fun member => member.resolve_left ?_, Or.inr⟩
    rintro rfl
    exact elsewhere rfl
  exact alike_files disk same

theorem alike_delete (disk : Disk) {file : File} (placed : file.directory = place) :
    Alike place disk (disk.delete file) := by
  apply alike_files disk
  intro other elsewhere
  apply List.mem_erase_of_ne
  rintro rfl
  exact elsewhere placed

theorem makeFrom_alike {disk made : Disk} {parent : Place} {names : List String}
    (done : disk.makeFrom parent names = .ok made) : Alike place disk made := by
  induction names generalizing disk parent with
  | nil =>
    cases done
    exact .refl place _
  | cons name rest ih =>
    simp only [makeFrom] at done
    split at done
    · exact ih done
    · cases done
    · rename_i free
      exact (alike_directory disk (by simp [free])).trans (ih done)

theorem makeFrom_congr {parent : Place} {names : List String}
    (same : Alike place first second) (within : parent.length + names.length ≤ place.length)
    (made : ∃ disk, first.makeFrom parent names = .ok disk) :
    ∃ disk, second.makeFrom parent names = .ok disk := by
  induction names generalizing first second parent with
  | nil => exact ⟨second, rfl⟩
  | cons name rest ih =>
    obtain ⟨disk, made⟩ := made
    have short : (parent ++ [name]).length ≤ place.length := by
      simp only [List.length_append, List.length_cons, List.length_nil] at within ⊢
      omega
    have rest_within : (parent ++ [name]).length + rest.length ≤ place.length := by
      simp only [List.length_append, List.length_cons, List.length_nil] at within ⊢
      omega
    simp only [makeFrom] at made ⊢
    have free : first.node? (parent ++ [name]) ≠ some .file := by
      intro file
      rw [file] at made
      cases made
    have free' : second.node? (parent ++ [name]) ≠ some .file := mt (same _ short).mpr free
    -- whether the directory is there already or is made now, what follows sees disks that are alike
    have onward : ∃ next, Alike place first next ∧
        next.makeFrom (parent ++ [name]) rest = .ok disk := by
      split at made
      · exact ⟨first, .refl place first, made⟩
      · cases made
      · exact ⟨_, alike_directory first free, made⟩
    obtain ⟨next, alike, made⟩ := onward
    split
    · exact ih (alike.symm.trans same) rest_within ⟨disk, made⟩
    · rename_i file
      exact absurd file free'
    · exact ih ((alike.symm.trans same).trans (alike_directory second free')) rest_within
        ⟨disk, made⟩

theorem makeDirectories_congr (same : Alike place first second)
    (made : ∃ disk, first.makeDirectories place = .ok disk) :
    ∃ disk, second.makeDirectories place = .ok disk :=
  makeFrom_congr same (by simp) made

end Disk

def Staged.files : Staged → List File
  | .file stored => [stored]
  | .absent | .failed _ => []

theorem Staging.save_files (staging : Staging) (disk : Disk) (location : String)
    (response : Response) : (staging.save disk location response).2.files =
      (staging.save disk location response).1.files ++ disk.files := by
  unfold save
  split
  · rfl
  · rename_i made done
    have same := Disk.makeFrom_files done
    split
    · exact same
    · rw [← same]
      rfl

theorem Staging.stage_files (staging : Staging) (disk : Disk) (location : String)
    (result : Except FetchFault Response) : (staging.stage disk location result).2.files =
      (staging.stage disk location result).1.files ++ disk.files := by
  unfold stage
  split
  · rfl
  · split
    · exact save_files staging disk location _
    · split <;> rfl

def Staged.content? : Staged → Option (List UInt8)
  | .file stored => some stored.content
  | .absent | .failed _ => none

namespace Staging

variable (staging : Staging)

theorem save_alike (disk : Disk) (location : String) (response : Response) :
    disk.Alike staging.place (staging.save disk location response).2 := by
  unfold save
  split
  · exact .refl _ disk
  · rename_i made done
    have alike : disk.Alike staging.place made := Disk.makeFrom_alike done
    split
    · exact alike
    · exact alike.trans (made.alike_addTemporary staging.place _)

theorem stage_alike (disk : Disk) (location : String) (result : Except FetchFault Response) :
    disk.Alike staging.place (staging.stage disk location result).2 := by
  unfold stage
  split
  · exact .refl _ disk
  · split
    · exact save_alike staging disk location _
    · split <;> exact .refl _ disk

theorem stage_placed {disk : Disk} {location : String} {result : Except FetchFault Response}
    {file : File} (staged : (staging.stage disk location result).1 = .file file) :
    file.directory = staging.place := by
  unfold stage save at staged
  split at staged
  · cases staged
  · split at staged
    · split at staged
      · cases staged
      · split at staged
        · cases staged
        · cases staged
          rfl
    · split at staged <;> cases staged

theorem stage_content {first second : Disk} (same : first.Alike staging.place second)
    (location : String) (result : Except FetchFault Response) :
    (staging.stage first location result).1.content? =
      (staging.stage second location result).1.content? := by
  have saved : ∀ response, (staging.save first location response).1.content? =
      (staging.save second location response).1.content? := by
    intro response
    unfold save
    cases there : first.makeDirectories staging.place with
    | ok made =>
      obtain ⟨other, here⟩ := Disk.makeDirectories_congr same ⟨made, there⟩
      rw [here]
      cases response.content <;> rfl
    | error fault =>
      cases here : second.makeDirectories staging.place with
      | ok made =>
        obtain ⟨other, made⟩ := Disk.makeDirectories_congr same.symm ⟨made, here⟩
        rw [there] at made
        cases made
      | error other => rfl
  unfold stage
  split
  · rfl
  · split
    · exact saved _
    · split <;> rfl

end Staging

namespace Setting

variable {σ : Type} (setting : Setting) (location : String) (crawl : Crawl σ)

theorem received_files : (setting.received location crawl).2.files =
    (setting.received location crawl).1.files ++ crawl.disk.files :=
  setting.staging.stage_files crawl.disk location _

theorem received_alike :
    crawl.disk.Alike setting.staging.place (setting.received location crawl).2 :=
  setting.staging.stage_alike crawl.disk location _

end Setting

namespace Walk

def files (walk : Walk) : List File := walk.frames.map Frame.file

theorem unwind_files {σ : Type} {walk : Walk} {crawl : Crawl σ} {below : List File}
    (files : crawl.disk.files = walk.files ++ below) :
    (walk.unwind crawl).disk.files = below := by
  have unwound : ∀ (frames : List Frame) (disk : Disk),
      disk.files = frames.map Frame.file ++ below →
      (frames.foldl (fun disk frame => disk.delete frame.file) disk).files = below := by
    intro frames
    induction frames with
    | nil => exact fun disk same => same
    | cons frame outer ih => exact fun disk same => ih _ (Disk.delete_files same)
  exact unwound walk.frames crawl.disk files

variable {σ : Type} [RootStore σ] [Sink σ]

theorem step_files {walk : Walk} (setting : Setting) {crawl : Crawl σ} {below : List File}
    (files : crawl.disk.files = walk.files ++ below) :
    (walk.step setting crawl).crawl.disk.files =
      match walk.step setting crawl with
      | .onward after _ => after.files ++ below
      | .finished _ _ | .panicked _ => below := by
  have outcome := step_outcome walk setting crawl
  generalize walk.step setting crawl = turn at outcome
  cases outcome with
  | broken fetching panics =>
    apply unwind_files
    rw [Crawl.request_disk]
    exact files
  | @opened location file fetching staged =>
    have stored := setting.received_files location crawl
    rw [staged, files] at stored
    exact stored
  | @unopened location notices fetching unstaged =>
    have nothing : (setting.received location crawl).1.files = [] := by
      cases result : (setting.received location crawl).1 with
      | file file => exact absurd result (unstaged file)
      | absent => rfl
      | failed fault => rfl
    have stored := setting.received_files location crawl
    rw [nothing, files] at stored
    exact stored
  | ending idle frames candidates => simpa [Turn.crawl, Walk.files, frames] using files
  | @met location next idle meets =>
    obtain ⟨notices, noted⟩ := visit_note next location crawl
    have same : (next.visit location crawl).1.files = walk.files := by
      unfold Walk.files
      rw [visit_frames]
      cases meets with
      | candidate outermost candidates => rfl
      | child frames pending => simp [frames]
    simp only [Turn.crawl, noted, Crawl.note_disk, same]
    exact files
  | handed idle frames pending accepted =>
    simp only [Turn.crawl, Crawl.accept_disk accepted, files]
    simp [Walk.files, frames]
  | refused idle frames pending panics =>
    apply unwind_files
    rw [files]
    simp [Walk.files, frames]
  | told notices idle frames pending quiet =>
    simp only [Turn.crawl, Crawl.note_disk, files]
    simp [Walk.files, frames]
  | left notices idle frames pending reason =>
    apply Disk.delete_files
    rw [files]
    simp [Walk.files, frames]
  | read ended idle frames pending more going next =>
    simp only [Turn.crawl, files]
    simp [Walk.files, frames]

omit [RootStore σ] [Sink σ] in
theorem unwind_alike (walk : Walk) {crawl : Crawl σ} {place : Place}
    (placed : ∀ frame ∈ walk.frames, frame.file.directory = place) :
    crawl.disk.Alike place (walk.unwind crawl).disk := by
  have unwound : ∀ (frames : List Frame) (disk : Disk),
      (∀ frame ∈ frames, frame.file.directory = place) →
      disk.Alike place (frames.foldl (fun disk frame => disk.delete frame.file) disk) := by
    intro frames
    induction frames with
    | nil => exact fun disk _ => .refl _ disk
    | cons frame outer ih =>
      intro disk inside
      have outer_inside := fun other member => inside other (List.mem_cons_of_mem _ member)
      exact (disk.alike_delete (inside frame List.mem_cons_self)).trans (ih _ outer_inside)
  exact unwound walk.frames crawl.disk placed

/-- Nothing that a walk stages gets into the way of what is staged later. -/
theorem step_alike {walk : Walk} {setting : Setting} (crawl : Crawl σ)
    (placed : ∀ frame ∈ walk.frames, frame.file.directory = setting.staging.place) :
    crawl.disk.Alike setting.staging.place (walk.step setting crawl).crawl.disk ∧
      ∀ after later, walk.step setting crawl = .onward after later →
        ∀ frame ∈ after.frames, frame.file.directory = setting.staging.place := by
  have outcome := step_outcome walk setting crawl
  generalize walk.step setting crawl = turn at outcome
  cases outcome with
  | @broken location fetching panics =>
    refine ⟨?_, fun after later onward => by cases onward⟩
    rw [← Crawl.request_disk crawl setting.web location]
    exact (walk.attempt location).unwind_alike placed
  | @opened location file fetching opened =>
    refine ⟨setting.received_alike location crawl, ?_⟩
    rintro after later ⟨⟩ frame member
    rcases List.mem_cons.mp member with rfl | inside
    · exact setting.staging.stage_placed opened
    · exact placed frame inside
  | @unopened location notices fetching unstaged =>
    refine ⟨setting.received_alike location crawl, ?_⟩
    rintro after later ⟨⟩
    exact placed
  | ending idle frames candidates => exact ⟨.refl _ _, fun after later onward => by cases onward⟩
  | @met location next idle meets =>
    obtain ⟨notices, noted⟩ := visit_note next location crawl
    simp only [Turn.crawl, noted, Crawl.note_disk]
    refine ⟨.refl _ _, ?_⟩
    rintro after later ⟨⟩
    rw [visit_frames]
    cases meets with
    | candidate outermost candidates => exact placed
    | child frames pending =>
      rw [frames] at placed
      simpa using placed
  | @handed frame outer entry rest later idle frames pending accepted =>
    simp only [Turn.crawl, Crawl.accept_disk accepted]
    refine ⟨.refl _ _, ?_⟩
    rintro after later ⟨⟩
    rw [frames] at placed
    simpa using placed
  | @refused frame outer entry rest idle frames pending panics =>
    refine ⟨?_, fun after later onward => by cases onward⟩
    rw [frames] at placed
    exact unwind_alike _ (by simpa using placed)
  | told notices idle frames pending quiet =>
    refine ⟨.refl _ _, ?_⟩
    rintro after later ⟨⟩
    rw [frames] at placed
    simpa using placed
  | @left frame outer notices idle frames pending reason =>
    rw [frames] at placed
    refine ⟨crawl.disk.alike_delete (placed frame List.mem_cons_self), ?_⟩
    rintro after later ⟨⟩ other member
    exact placed other (List.mem_cons_of_mem _ member)
  | read ended idle frames pending more going next =>
    refine ⟨.refl _ _, ?_⟩
    rintro after later ⟨⟩
    rw [frames] at placed
    simpa using placed

end Walk

end Sitemaps
