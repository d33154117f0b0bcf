import Sitemaps.Site.Root

/-! The sitemap locations to try for a site, in the order of their code points. -/

namespace Sitemaps

def spelledOut (texts : List String) : List String :=
  (texts.map Text.trim).filter (!·.isEmpty)

def insertLocation (location : String) : List String → List String
  | [] => [location]
  | first :: rest =>
    if location < first then location :: first :: rest
    else if location = first then first :: rest
    else first :: insertLocation location rest

/-- Explicit locations, and the probed paths unless the explicit ones are all there is to try. -/
def candidates (explicit : List String) (root : Root) (paths : List String) (startOnly : Bool) :
    List String :=
  let probed := if startOnly then [] else (spelledOut paths).map root.locate
  (spelledOut explicit ++ probed).foldl (fun known location => insertLocation location known) []

variable {location other : String} {texts explicit paths known : List String} {root : Root}
  {startOnly : Bool}

theorem mem_spelledOut :
    location ∈ spelledOut texts ↔ location ≠ "" ∧ ∃ text ∈ texts, Text.trim text = location := by
  simp [spelledOut, and_comm]

theorem mem_insertLocation :
    location ∈ insertLocation other known ↔ location = other ∨ location ∈ known := by
  induction known with
  | nil => simp [insertLocation]
  | cons first rest ih =>
    unfold insertLocation
    split
    · rw [List.mem_cons]
    · split
      · rename_i same
        simp [same]
      · rw [List.mem_cons, ih, List.mem_cons, or_left_comm]

theorem insertLocation_sorted (sorted : known.Pairwise (· < ·)) :
    (insertLocation location known).Pairwise (· < ·) := by
  induction known with
  | nil => simp [insertLocation]
  | cons first rest ih =>
    obtain ⟨least, sorted⟩ := List.pairwise_cons.mp sorted
    unfold insertLocation
    split
    · rename_i less
      refine List.pairwise_cons.mpr ⟨fun other member => ?_, List.pairwise_cons.mpr ⟨least, sorted⟩⟩
      rcases List.mem_cons.mp member with rfl | later
      · exact less
      · exact String.lt_trans less (least other later)
    · split
      · exact List.pairwise_cons.mpr ⟨least, sorted⟩
      · rename_i beyond apart
        refine List.pairwise_cons.mpr ⟨fun other member => ?_, ih sorted⟩
        rcases mem_insertLocation.mp member with rfl | later
        · exact Std.lt_of_le_of_ne (String.not_lt.mp beyond) (Ne.symm apart)
        · exact least other later

theorem mem_insertAll {more : List String} :
    location ∈ more.foldl (fun known next => insertLocation next known) known ↔
      location ∈ known ∨ location ∈ more := by
  induction more generalizing known with
  | nil => simp
  | cons next more ih =>
    rw [List.foldl_cons, ih, mem_insertLocation, List.mem_cons, or_assoc, or_left_comm]

theorem mem_candidates : location ∈ candidates explicit root paths startOnly ↔
    location ∈ spelledOut explicit ∨
      startOnly = false ∧ ∃ path ∈ spelledOut paths, root.locate path = location := by
  unfold candidates
  rw [mem_insertAll, List.mem_append]
  cases startOnly <;> simp

theorem insertAll_sorted {more : List String} (sorted : known.Pairwise (· < ·)) :
    (more.foldl (fun known next => insertLocation next known) known).Pairwise (· < ·) := by
  induction more generalizing known with
  | nil => exact sorted
  | cons next more ih => exact ih (insertLocation_sorted sorted)

theorem candidates_sorted : (candidates explicit root paths startOnly).Pairwise (· < ·) :=
  insertAll_sorted .nil

end Sitemaps
