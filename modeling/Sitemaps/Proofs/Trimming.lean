import Mathlib.Data.List.DropRight
import Sitemaps.Text.Blank

/-!
Trimming takes the blanks off both ends of a text and nothing else. Blanks around a text do not
change what it is trimmed to, and a text that was trimmed stays as it is.
-/

namespace Sitemaps.Text

variable {text blank front back kept : List Char} {c : Char}

theorem trimLeft_append (first second : List Char) :
    trimLeft (first ++ second) = trimLeft (trimLeft first ++ second) := by
  induction first with
  | nil => rfl
  | cons c first ih =>
    unfold trimLeft at ih ⊢
    by_cases white : isBlank c = true
    · rw [List.cons_append, List.dropWhile_cons_of_pos white, List.dropWhile_cons_of_pos white, ih]
    · rw [List.dropWhile_cons_of_neg white]

theorem trimLeft_blank (white : ∀ c ∈ blank, isBlank c = true) : trimLeft blank = [] := by
  have dropped : (blank ++ []).dropWhile isBlank = [] := List.dropWhile_append_of_pos white
  rwa [List.append_nil] at dropped

theorem trimRight_blank (white : ∀ c ∈ blank, isBlank c = true) :
    trimRight (text ++ blank) = trimRight text := by
  unfold trimRight
  rw [List.reverse_append, List.dropWhile_append_of_pos]
  intro c member
  exact white c (List.mem_reverse.mp member)

theorem trimChars_blank (white : ∀ c ∈ blank, isBlank c = true) :
    trimChars (text ++ blank) = trimChars text := by
  unfold trimChars
  by_cases filled : trimLeft text = []
  · rw [trimLeft_append, filled, List.nil_append, trimLeft_blank white]
  · have kept : trimLeft (text ++ blank) = trimLeft text ++ blank := by
      unfold trimLeft at filled ⊢
      rw [List.dropWhile_append, if_neg (by simpa using filled)]
    rw [kept, trimRight_blank white]

theorem trimChars_around (white : ∀ c ∈ front, isBlank c = true)
    (also : ∀ c ∈ back, isBlank c = true) :
    trimChars (front ++ text ++ back) = trimChars text := by
  rw [trimChars_blank also, trimChars, trimLeft, List.dropWhile_append_of_pos white]
  rfl

theorem trimChars_white (white : ∀ c ∈ text, isBlank c = true) : trimChars text = [] := by
  rw [trimChars, trimLeft_blank white]
  rfl

theorem trimChars_parts (text : List Char) : ∃ before after,
    text = before ++ trimChars text ++ after ∧ (∀ c ∈ before, isBlank c = true) ∧
      ∀ c ∈ after, isBlank c = true := by
  refine ⟨text.takeWhile isBlank, ((trimLeft text).reverse.takeWhile isBlank).reverse, ?_, ?_, ?_⟩
  · rw [List.append_assoc, trimChars, trimRight, ← List.reverse_append,
      List.takeWhile_append_dropWhile, List.reverse_reverse, trimLeft,
      List.takeWhile_append_dropWhile]
  · exact List.all_eq_true.mp List.all_takeWhile
  · intro c member
    exact List.all_eq_true.mp List.all_takeWhile c (List.mem_reverse.mp member)

theorem trimRight_solid (solid : isBlank c = false) (rest : List Char) :
    trimRight (c :: rest) = c :: trimRight rest := by
  unfold trimRight
  rw [List.reverse_cons, List.dropWhile_append]
  split
  · rename_i dropped
    rw [List.isEmpty_iff.mp dropped, List.dropWhile_cons_of_neg (by simp [solid])]
    rfl
  · rw [List.reverse_append]
    rfl

theorem trimChars_solid (solid : isBlank c = false) (rest : List Char) :
    trimChars (c :: rest) = c :: trimRight rest := by
  have kept : trimLeft (c :: rest) = c :: rest := List.dropWhile_cons_of_neg (by simp [solid])
  rw [trimChars, kept, trimRight_solid solid]

theorem trimRight_kept (solid : ∀ c ∈ text, isBlank c = false) : trimRight text = text := by
  induction text with
  | nil => rfl
  | cons c rest ih =>
    obtain ⟨own, solid⟩ := List.forall_mem_cons.mp solid
    rw [trimRight_solid own, ih solid]

theorem trimChars_within (solid : ∀ c ∈ text, isBlank c = false)
    (white : ∀ c ∈ front, isBlank c = true) (also : ∀ c ∈ back, isBlank c = true) :
    trimChars (front ++ text ++ back) = text := by
  rw [trimChars_around white also]
  cases text with
  | nil => rfl
  | cons c rest =>
    obtain ⟨own, solid⟩ := List.forall_mem_cons.mp solid
    rw [trimChars_solid own, trimRight_kept solid]

theorem trim_slash {path : String} (starts : path.toList.head? = some c)
    (solid : isBlank c = false) :
    (trim path).toList.head? = some c ∧ trim ("/" ++ path) = "/" ++ trim path := by
  obtain ⟨rest, written⟩ := List.head?_eq_some_iff.mp starts
  have kept : (trim path).toList = c :: trimRight rest := by
    rw [trim, String.toList_ofList, written, trimChars_solid solid]
  refine ⟨by rw [kept, List.head?_cons], String.toList_injective ?_⟩
  have slash : ("/" ++ path).toList = '/' :: c :: rest := by
    rw [String.toList_append, written]
    rfl
  rw [trim, String.toList_ofList, slash, trimChars_solid rfl, trimRight_solid solid,
    String.toList_append, kept]
  rfl

theorem trimLeft_begins (begins : kept <+: trimLeft text) : trimLeft kept = kept := by
  cases kept with
  | nil => rfl
  | cons c kept =>
    obtain ⟨rest, whole⟩ := begins
    have first := List.head?_dropWhile_not isBlank text
    have solid : isBlank c = false := by
      unfold trimLeft at whole
      rw [← whole] at first
      exact first
    exact List.dropWhile_cons_of_neg (by simp [solid])

theorem trimChars_trimmed (text : List Char) : trimChars (trimChars text) = trimChars text := by
  have front : trimRight (trimLeft text) <+: trimLeft text :=
    List.rdropWhile_prefix isBlank (trimLeft text)
  calc trimRight (trimLeft (trimRight (trimLeft text)))
      = trimRight (trimRight (trimLeft text)) := by rw [trimLeft_begins front]
    _ = trimRight (trimLeft text) := List.rdropWhile_idempotent isBlank (trimLeft text)

theorem trim_trimmed (text : String) : trim (trim text) = trim text := by
  rw [trim, trim, String.toList_ofList, trimChars_trimmed]

end Sitemaps.Text
