import Sitemaps.Proofs.Encoding
import Sitemaps.Proofs.Plans
import Sitemaps.Robots.Sitemaps

/-!
Robots files line by line. A file declares what its lines declare, each of them read alone, in file
order and without repetitions. How the lines are broken plays no part in that, nor do the lines that
declare nothing.
-/

namespace Sitemaps.Robots

open Text.Utf8 (bytesOf bytesOf_cons)

inductive Break
  | feed | carriage | both
  deriving DecidableEq, Repr

def Break.text : Break → String
  | .feed => "\n"
  | .carriage => "\r"
  | .both => "\r\n"

/-- A file by its lines: the first, and each of the others with the break before it. -/
structure Sheet where
  first : String
  others : List (Break × String)

def Sheet.lines (sheet : Sheet) : List String := sheet.first :: sheet.others.map (·.2)

def Sheet.text (sheet : Sheet) : String :=
  sheet.first ++ String.join (sheet.others.map fun other => other.1.text ++ other.2)

/-- A line that is read as it stands: it is not broken itself, nothing of it is taken for a byte
order mark, and it is not too long. -/
structure Plain (line : String) : Prop where
  unbroken : ∀ c ∈ line.toList, c ≠ '\n' ∧ c ≠ '\r'
  unmarked : ∀ c ∈ line.toList.head?, c.toNat % 256 ≠ 0xEF
  short : line.utf8ByteSize < lineLimit

instance (line : String) : Decidable (Plain line) :=
  decidable_of_iff
    (line.toList.all (fun c => c ≠ '\n' ∧ c ≠ '\r') ∧
      line.toList.head?.all (fun c => c.toNat % 256 ≠ 0xEF) ∧ line.utf8ByteSize < lineLimit)
    ⟨fun ⟨unbroken, unmarked, short⟩ =>
        ⟨by simpa using unbroken, by simpa [Option.all_eq_true] using unmarked, short⟩,
      fun plain => ⟨by simpa using plain.unbroken,
        by simpa [Option.all_eq_true] using plain.unmarked, plain.short⟩⟩

section Reading

variable {line text : List Char} {room : Nat}

theorem utf8ByteSize_ofList (text : List Char) :
    (String.ofList text).utf8ByteSize = (bytesOf text).length := by
  rw [← String.size_toByteArray, String.toByteArray_ofList, List.utf8Encode,
    List.size_toByteArray]
  rfl

theorem clip_short (short : (bytesOf line).length ≤ room) : clip room line = line := by
  induction line generalizing room with
  | nil => rfl
  | cons c line ih =>
    rw [bytesOf_cons, List.length_append, String.length_utf8EncodeChar] at short
    have some : room ≠ 0 := by
      have size := c.utf8Size_pos
      omega
    rw [clip, if_neg some, ih (by omega)]

theorem withoutMark_other (other : ∀ c ∈ text.head?, c.toNat % 256 ≠ 0xEF) :
    withoutMark byteOrderMark text = text := by
  cases text with
  | nil => rfl
  | cons c rest => exact if_neg (other c rfl)

theorem splitLines_line (unbroken : ∀ c ∈ line, c ≠ '\n' ∧ c ≠ '\r') (before rest : List Char) :
    splitLines before (line ++ rest) = splitLines (line.reverse ++ before) rest := by
  induction line generalizing before with
  | nil => rfl
  | cons c line ih =>
    obtain ⟨⟨feed, carriage⟩, unbroken⟩ := List.forall_mem_cons.mp unbroken
    rw [List.cons_append, splitLines, if_neg (by simp [feed, carriage]), ih unbroken]
    simp

variable {α : Type} {tell : List Char → Option α}

theorem filterMap_break (silent : tell [] = none) (mark : Break) (before rest : List Char) :
    (splitLines before (mark.text.toList ++ rest)).filterMap tell =
      (before.reverse :: splitLines [] rest).filterMap tell := by
  cases mark <;> simp [Break.text, splitLines, List.filterMap_cons, silent]

theorem filterMap_splitLines (silent : tell [] = none) {others : List (Break × String)}
    (unbroken : ∀ other ∈ others, ∀ c ∈ other.2.toList, c ≠ '\n' ∧ c ≠ '\r')
    (before : List Char) :
    (splitLines before
        (others.flatMap fun other => other.1.text.toList ++ other.2.toList)).filterMap tell =
      (before.reverse :: others.map (·.2.toList)).filterMap tell := by
  induction others generalizing before with
  | nil => rfl
  | cons other others ih =>
    obtain ⟨own, unbroken⟩ := List.forall_mem_cons.mp unbroken
    have rest := ih unbroken (other.2.toList.reverse ++ [])
    rw [List.append_nil, List.reverse_reverse] at rest
    rw [List.flatMap_cons, List.append_assoc, filterMap_break silent, List.map_cons]
    simp only [List.filterMap_cons, splitLines_line own, List.append_nil, rest]

end Reading

def value? (line : String) : Option String := (declared? line.toList).map String.ofList

def location? (base value : String) : Option String :=
  (resolve? (Url.parse base).toOption value).map Url.text

variable {base content : String} {line : String} {sheet other : Sheet}

theorem Sheet.toList_text (sheet : Sheet) : sheet.text.toList = sheet.first.toList ++
    sheet.others.flatMap fun other => other.1.text.toList ++ other.2.toList := by
  simp [text, String.toList_join, List.flatMap_map]

theorem Sheet.unmarked (first : Plain sheet.first) :
    ∀ c ∈ sheet.text.toList.head?, c.toNat % 256 ≠ 0xEF := by
  rw [sheet.toList_text]
  cases written : sheet.first.toList with
  | cons c rest =>
    have own := first.unmarked
    rwa [written] at own
  | nil =>
    -- The break after an empty line is no mark either.
    rcases sheet.others with _ | ⟨⟨mark, line⟩, others⟩
    · nofun
    · cases mark <;> simp [Break.text]

theorem values_sheet (plain : ∀ line ∈ sheet.lines, Plain line) :
    values sheet.text = sheet.lines.filterMap value? := by
  obtain ⟨first, others⟩ := List.forall_mem_cons.mp plain
  have unbroken : ∀ other ∈ sheet.others, ∀ c ∈ other.2.toList, c ≠ '\n' ∧ c ≠ '\r' :=
    fun other member => (others other.2 (List.mem_map_of_mem member)).unbroken
  have whole : ∀ line ∈ sheet.lines, clip lineLimit line.toList = line.toList := by
    intro line member
    apply clip_short
    rw [← utf8ByteSize_ofList, String.ofList_toList]
    exact (plain line member).short.le
  let tell (line : List Char) := (declared? (clip lineLimit line)).map String.ofList
  calc values sheet.text
      = (splitLines [] sheet.text.toList).filterMap tell := by
        rw [values, lines, withoutMark_other (sheet.unmarked first), List.filterMap_map]
        rfl
    _ = (sheet.lines.map String.toList).filterMap tell := by
        rw [sheet.toList_text, splitLines_line first.unbroken, filterMap_splitLines rfl unbroken]
        simp [Sheet.lines, Function.comp_def]
    _ = sheet.lines.filterMap value? := by
        rw [List.filterMap_map]
        refine List.filterMap_congr fun line member => ?_
        simp only [Function.comp_apply, tell, whole line member, value?]

theorem values_line (plain : Plain line) : values line = (value? line).toList := by
  have alone : values (Sheet.mk line []).text = [line].filterMap value? :=
    values_sheet (List.forall_mem_singleton.mpr plain)
  have text : (Sheet.mk line []).text = line := by simp [Sheet.text]
  rw [text] at alone
  rw [alone]
  cases told : value? line <;> simp [told]

theorem declared_sitemaps (content base : String) :
    (declared content base).sitemaps = ((values content).filterMap (location? base)).eraseDups := by
  unfold declared
  induction values content using List.reverseRecOn with
  | nil => rfl
  | append_singleton values value ih =>
    rw [List.foldl_append, List.filterMap_append]
    simp only [List.foldl_cons, List.foldl_nil, Declared.add, List.filterMap_cons,
      List.filterMap_nil, location?]
    cases resolve? (Url.parse base).toOption value with
    | none => simpa using ih
    | some url =>
      simp only [Option.map_some, List.contains_eq_mem, decide_eq_true_eq, ih, List.mem_eraseDups]
      split
      · rename_i known
        rw [eraseDups_known known]
        exact ih
      · rename_i new
        rw [eraseDups_new new]

/-- The sitemap that a line declares. -/
theorem declared_line (plain : Plain line) :
    (declared line base).sitemaps = ((value? line).bind (location? base)).toList := by
  rw [declared_sitemaps, values_line plain]
  cases value? line with
  | none => rfl
  | some value => cases told : location? base value <;> simp [told, List.eraseDups_cons]

def declares (base line : String) : Bool := !(declared line base).sitemaps.isEmpty

theorem flatMap_declares (base : String) (lines : List String) :
    (lines.flatMap fun line => (declared line base).sitemaps) =
      (lines.filter (declares base)).flatMap fun line => (declared line base).sitemaps := by
  induction lines with
  | nil => rfl
  | cons line lines ih =>
    rw [List.flatMap_cons, ih, List.filter_cons]
    split
    · rw [List.flatMap_cons]
    · rename_i silent
      have nothing : (declared line base).sitemaps = [] := by simpa [declares] using silent
      rw [nothing, List.nil_append]

theorem declared_sheet (plain : ∀ line ∈ sheet.lines, Plain line) :
    (declared sheet.text base).sitemaps =
      (sheet.lines.flatMap fun line => (declared line base).sitemaps).eraseDups := by
  have each : ∀ line ∈ sheet.lines, (declared line base).sitemaps =
      ((value? line).bind (location? base)).toList :=
    fun line member => declared_line (plain line member)
  rw [declared_sitemaps, values_sheet plain, List.flatMap_congr each, List.filterMap_filterMap,
    List.filterMap_eq_flatMap_toList]

/-- Sitemap directives are read line by line, whatever group they stand in. A file of lines of
ordinary length declares what its lines declare, each read as a file of its own, the first of equal
locations kept. So two files with the same declaring lines in the same order declare the same,
whatever other lines they have and however they are broken, and no location is listed twice. -/
theorem declared_linewise (base : String) :
    (∀ sheet : Sheet, (∀ line ∈ sheet.lines, Plain line) →
      (declared sheet.text base).sitemaps =
        (sheet.lines.flatMap fun line => (declared line base).sitemaps).eraseDups) ∧
    (∀ sheet other : Sheet, (∀ line ∈ sheet.lines, Plain line) →
      (∀ line ∈ other.lines, Plain line) →
      sheet.lines.filter (declares base) = other.lines.filter (declares base) →
      (declared sheet.text base).sitemaps = (declared other.text base).sitemaps) ∧
    ∀ content, (declared content base).sitemaps.Nodup := by
  refine ⟨fun sheet => declared_sheet, fun sheet other plain also same => ?_, fun content => ?_⟩
  · rw [declared_sheet plain, declared_sheet also, flatMap_declares, same, ← flatMap_declares]
  · rw [declared_sitemaps]
    exact eraseDups_nodup _

def mixed : Sheet :=
  ⟨"User-agent: a",
    [(.feed, "Sitemap: /s"), (.both, "Disallow: /"), (.carriage, ""), (.both, "User-agent: b"),
      (.carriage, "SITE-MAP: http://[::1]/s # again"), (.feed, "sitemap /t")]⟩

def rearranged : Sheet :=
  ⟨"Sitemap: /s", [(.feed, "SITE-MAP: http://[::1]/s # again"), (.feed, "sitemap /t"),
    (.carriage, "User-agent: b"), (.feed, "Sitemap: http://["), (.feed, "User-agent: a")]⟩

theorem declared_linewise_mixed :
    let base := "http://[::1]/robots.txt"
    (∀ line ∈ mixed.lines, Plain line) ∧ (∀ line ∈ rearranged.lines, Plain line) ∧
      mixed.lines.filter (declares base) = rearranged.lines.filter (declares base) ∧
      (mixed.lines.flatMap fun line => (declared line base).sitemaps) =
        ["http://[::1]/s", "http://[::1]/s", "http://[::1]/t"] ∧
      (declared mixed.text base).sitemaps = ["http://[::1]/s", "http://[::1]/t"] ∧
      (declared mixed.text base).sitemaps = (declared rearranged.text base).sitemaps := by
  intro base
  have plain : ∀ line ∈ mixed.lines, Plain line := by decide +kernel
  have also : ∀ line ∈ rearranged.lines, Plain line := by decide +kernel
  have same : mixed.lines.filter (declares base) = rearranged.lines.filter (declares base) := by
    decide +kernel
  have told : (mixed.lines.flatMap fun line => (declared line base).sitemaps) =
      ["http://[::1]/s", "http://[::1]/s", "http://[::1]/t"] := by decide +kernel
  obtain ⟨linewise, unmoved, -⟩ := declared_linewise base
  refine ⟨plain, also, same, told, ?_, unmoved mixed rearranged plain also same⟩
  rw [linewise mixed plain, told]
  decide

end Sitemaps.Robots
