import Sitemaps.Crawl.Stage
import Sitemaps.Proofs.Remainders
import Sitemaps.Proofs.Trimming

/-!
Archives as they are written without compressing anything: members with a bare header, blocks of
plain bytes and a trailer. Staging gives back what was put in, if the declared type says that it is
an archive, and leaves a body as it is otherwise.
-/

namespace Sitemaps.Gzip

def spell : Nat → Nat → List UInt8
  | 0, _ => []
  | count + 1, number => UInt8.ofNat number :: spell count (number / 256)

/-- Bytes that go into one block; the rest of the byte with its head is not looked at. -/
structure Chunk where
  bytes : List UInt8
  fits : bytes.length ≤ 65535
  padding : Fin 32

def Chunk.written (chunk : Chunk) (last : Bool) : List UInt8 :=
  UInt8.ofNat (last.toNat + 8 * chunk.padding) ::
    (spell 2 chunk.bytes.length ++ spell 2 (65535 - chunk.bytes.length) ++ chunk.bytes)

/-- One member. Its header tells a time, how it was made and where, and has no further fields. -/
structure Member where
  isText : Bool
  time : Fin 4 → UInt8
  effort : UInt8
  system : UInt8
  chunks : List Chunk
  last : Chunk
  sum : UInt32
  checks : Checks sum (chunks.flatMap (·.bytes) ++ last.bytes)

namespace Member

def content (member : Member) : List UInt8 := member.chunks.flatMap (·.bytes) ++ member.last.bytes

def header (member : Member) : List UInt8 :=
  [0x1F, 0x8B, 8, if member.isText then 1 else 0] ++ List.ofFn member.time ++
    [member.effort, member.system]

def data (member : Member) : List UInt8 :=
  member.chunks.flatMap (·.written false) ++ member.last.written true

def trailer (member : Member) : List UInt8 :=
  spell 4 member.sum.toNat ++ spell 4 member.content.length

def written (member : Member) : List UInt8 := member.header ++ member.data ++ member.trailer

end Member

theorem spell_length (count number : Nat) : (spell count number).length = count := by
  induction count generalizing number with
  | zero => rfl
  | succ count ih => rw [spell, List.length_cons, ih]

theorem littleEndian_spell (count number : Nat) :
    littleEndian (spell count number) = number % 256 ^ count := by
  induction count generalizing number with
  | zero => simp [spell, littleEndian, Nat.mod_one]
  | succ count ih =>
    have wider : 256 ^ (count + 1) = 256 * 256 ^ count := Nat.pow_succ'
    rw [spell, littleEndian, ih, wider, Nat.mod_mul]
    rfl

theorem number_head (last : Bool) (padding : Fin 32) (rest : List UInt8) :
    ∃ hand, (Bits.start (UInt8.ofNat (last.toNat + 8 * padding) :: rest)).number 3 =
      .ok (last.toNat, ⟨hand, 5, rest⟩) := by
  have bit := Bool.toNat_lt last
  have small : (UInt8.ofNat (last.toNat + 8 * padding)).toNat = last.toNat + 8 * padding := by
    apply UInt8.toNat_ofNat_of_lt'
    have := padding.isLt
    change _ < 256
    omega
  have first : (last.toNat + 8 * padding) % 2 = last.toNat := by omega
  have second : (last.toNat + 8 * padding) / 2 % 2 = 0 := by omega
  have third : (last.toNat + 8 * padding) / 2 / 2 % 2 = 0 := by omega
  simp only [Bits.start, Bits.number, Bits.next?, small, first, second, third]
  refine ⟨_, congrArg Except.ok (Prod.ext ?_ rfl)⟩
  cases last <;> rfl

theorem spell_two (length : Nat) (fits : length ≤ 65535) : ∃ low high : UInt8,
    spell 2 length = [low, high] ∧ low.toNat + 256 * high.toNat = length := by
  refine ⟨_, _, rfl, ?_⟩
  have value := littleEndian_spell 2 length
  rw [Nat.mod_eq_of_lt (by omega)] at value
  simpa [spell, littleEndian] using value

theorem plainBlock_written (chunk : Chunk) (rest : List UInt8) (out : Array UInt8) :
    plainBlock (spell 2 chunk.bytes.length ++ spell 2 (65535 - chunk.bytes.length) ++
      chunk.bytes ++ rest) out = .ok (Bits.start rest, out ++ chunk.bytes.toArray) := by
  obtain ⟨low, high, spelled, length⟩ := spell_two _ chunk.fits
  obtain ⟨lowCheck, highCheck, complemented, complement⟩ :=
    spell_two (65535 - chunk.bytes.length) (Nat.sub_le _ _)
  have sum : chunk.bytes.length + (65535 - chunk.bytes.length) = 0xFFFF :=
    Nat.add_sub_cancel' chunk.fits
  simp [spelled, complemented, plainBlock, length, complement, sum]

theorem blocks_step {bits after next : Bits} {head : Nat} {out all : Array UInt8}
    (read : bits.number 3 = .ok (head, after))
    (expanded : block (head / 2) after out = .ok (next, all)) :
    blocks bits out = if head % 2 = 1 then .ok (next, all) else blocks next all := by
  rw [blocks]
  split
  · rename_i failed
    rw [read] at failed
    cases failed
  · rename_i found
    rw [read] at found
    cases found
    split
    · rename_i failed
      rw [expanded] at failed
      cases failed
    · rename_i found
      rw [expanded] at found
      cases found
      rfl

theorem blocks_chunk (chunk : Chunk) (last : Bool) (rest : List UInt8) (out : Array UInt8) :
    blocks (Bits.start (chunk.written last ++ rest)) out =
      if last then .ok (Bits.start rest, out ++ chunk.bytes.toArray)
      else blocks (Bits.start rest) (out ++ chunk.bytes.toArray) := by
  obtain ⟨hand, head⟩ := number_head last chunk.padding
    (spell 2 chunk.bytes.length ++ spell 2 (65535 - chunk.bytes.length) ++ chunk.bytes ++ rest)
  have plain : last.toNat / 2 = 0 := by cases last <;> rfl
  have expanded : block (last.toNat / 2) ⟨hand, 5, spell 2 chunk.bytes.length ++
      spell 2 (65535 - chunk.bytes.length) ++ chunk.bytes ++ rest⟩ out =
        .ok (Bits.start rest, out ++ chunk.bytes.toArray) := by
    rw [plain]
    exact plainBlock_written chunk rest out
  rw [Chunk.written, List.cons_append, blocks_step head expanded]
  cases last <;> rfl

theorem blocks_chunks (chunks : List Chunk) (last : Chunk) (rest : List UInt8)
    (out : Array UInt8) :
    blocks (Bits.start (chunks.flatMap (·.written false) ++ last.written true ++ rest)) out =
      .ok (Bits.start rest, out ++ (chunks.flatMap (·.bytes) ++ last.bytes).toArray) := by
  induction chunks generalizing out with
  | nil => simpa using blocks_chunk last true rest out
  | cons chunk chunks ih =>
    rw [List.flatMap_cons, List.append_assoc, List.append_assoc, blocks_chunk,
      ← List.append_assoc, if_neg Bool.false_ne_true, ih]
    simp

namespace Member

variable (member : Member) (rest : List UInt8)

theorem header_read : Gzip.header (member.header ++ rest) = .ok rest := by
  have bare (place : Nat) : hasFlag (if member.isText then 1 else 0) (place + 1) = false := by
    cases member.isText <;> simp [hasFlag, Nat.testBit_succ]
  have known : ¬ ((0x1F : UInt8) ≠ 0x1F ∨ (0x8B : UInt8) ≠ 0x8B ∨ (8 : UInt8) ≠ 8 ∨
      0x20 ≤ if member.isText then (1 : UInt8) else 0) := by
    cases member.isText <;> decide
  simp only [header, List.ofFn, Fin.foldr, Fin.foldr.loop, List.cons_append, List.nil_append,
    Gzip.header]
  rw [if_neg known, bare 0, bare 1, bare 2, bare 3]
  rfl

theorem inflate_data : inflate (member.data ++ rest) = .ok (member.content, rest) := by
  rw [inflate, data, blocks_chunks]
  simp [Bits.start, content]

theorem trailer_checked : checkResult member.content (member.trailer ++ rest) = .ok rest := by
  have sum : littleEndian (spell 4 member.sum.toNat) = (checksum member.content).toNat := by
    rw [littleEndian_spell, checks_iff.mp member.checks]
    exact Nat.mod_eq_of_lt (UInt32.toNat_lt _)
  have length : littleEndian (spell 4 member.content.length) =
      member.content.length % UInt32.size := littleEndian_spell 4 _
  have first : (member.trailer ++ rest).take 4 = spell 4 member.sum.toNat := rfl
  have second : ((member.trailer ++ rest).take 8).drop 4 = spell 4 member.content.length := rfl
  have after : (member.trailer ++ rest).drop 8 = rest := rfl
  have enough : ¬ (member.trailer ++ rest).length < 8 := by
    simp only [trailer, List.length_append, spell_length]
    omega
  rw [checkResult, if_neg enough, first, second, after, sum, length, if_pos ⟨rfl, rfl⟩]

theorem member_written : Gzip.member (member.written ++ rest) = .ok (member.content, rest) := by
  have parted : member.written ++ rest =
      member.header ++ (member.data ++ (member.trailer ++ rest)) := by
    simp [written]
  simp only [Gzip.member, parted, header_read, inflate_data, trailer_checked]

theorem written_nonempty : member.written ≠ [] := by
  simp [written, header]

theorem exists_chunks (bytes : List UInt8) :
    ∃ (chunks : List Chunk) (last : Chunk), chunks.flatMap (·.bytes) ++ last.bytes = bytes := by
  induction length : bytes.length using Nat.strong_induction_on generalizing bytes with
  | _ size ih =>
    by_cases fits : bytes.length ≤ 65535
    · exact ⟨[], ⟨bytes, fits, 0⟩, rfl⟩
    · have shorter : (bytes.drop 65535).length < size := by
        rw [List.length_drop]
        omega
      obtain ⟨chunks, last, rest⟩ := ih _ shorter (bytes.drop 65535) rfl
      refine ⟨⟨bytes.take 65535, List.length_take_le _ _, 0⟩ :: chunks, last, ?_⟩
      rw [List.flatMap_cons, List.append_assoc, rest]
      exact List.take_append_drop 65535 bytes

theorem exists_member (bytes : List UInt8) : ∃ member : Member, member.content = bytes := by
  obtain ⟨chunks, last, whole⟩ := exists_chunks bytes
  exact ⟨⟨false, fun _ => 0, 0, 255, chunks, last, _, checks_checksum _⟩, whole⟩

end Member

theorem members_step {bytes out rest : List UInt8} (read : member bytes = .ok (out, rest)) :
    members bytes = if rest = [] then .ok out else (members rest).map (out ++ ·) := by
  rw [members]
  split
  · rename_i failed
    rw [read] at failed
    cases failed
  · rename_i found
    rw [read] at found
    cases found
    rfl
  · rename_i found
    rw [read] at found
    cases found
    rw [if_neg (List.cons_ne_nil _ _)]
    cases members _ <;> rfl

theorem members_written (framed : List Member) (some : framed ≠ []) :
    members (framed.flatMap (·.written)) = .ok (framed.flatMap (·.content)) := by
  induction framed with
  | nil => exact absurd rfl some
  | cons member framed ih =>
    rw [List.flatMap_cons, members_step (member.member_written _), List.flatMap_cons]
    cases framed with
    | nil => simp
    | cons next framed =>
      have more : (next :: framed).flatMap (·.written) ≠ [] := by
        simp [next.written_nonempty]
      rw [if_neg more, ih (List.cons_ne_nil _ _)]
      rfl

end Sitemaps.Gzip

namespace Sitemaps

/-- Whether the part of a declared type before its parameters is one of the types of archives, apart
from letter case and white space around it. -/
def DeclaresArchive (contentType : String) : Prop :=
  ∃ before name after parameters, contentType.toList = before ++ name ++ after ++ parameters ∧
    (∀ c ∈ before, Text.isBlank c = true) ∧ (∀ c ∈ after, Text.isBlank c = true) ∧
    (parameters = [] ∨ ∃ rest, parameters = ';' :: rest) ∧
    (name.map Char.toLower = "application/gzip".toList ∨
      name.map Char.toLower = "application/x-gzip".toList)

namespace Text

theorem toLower_blank {c : Char} (blank : isBlank c = true) : c.toLower = c := by
  have small : ¬ (c.val ≥ 65 ∧ c.val ≤ 90) := by
    rintro ⟨low, high⟩
    have low : 65 ≤ c.toNat := low
    have high : c.toNat ≤ 90 := high
    simp only [isBlank, Bool.or_eq_true, Bool.and_eq_true, decide_eq_true_eq, beq_iff_eq] at blank
    omega
  exact dif_neg small

end Text

theorem archive_name {name : List Char} (known : name.map Char.toLower = "application/gzip".toList ∨
    name.map Char.toLower = "application/x-gzip".toList) :
    (∀ c ∈ name, Text.isBlank c = false) ∧ ∀ c ∈ name, c ≠ ';' := by
  have letters : ∀ c ∈ name, Text.isBlank c.toLower = false ∧ c.toLower ≠ ';' := by
    have all : ((name.map Char.toLower).all fun c => !Text.isBlank c && c != ';') = true := by
      rcases known with known | known
      · rw [known]
        decide
      · rw [known]
        decide
    intro c member
    simpa using List.all_eq_true.mp all _ (List.mem_map_of_mem member)
  refine ⟨fun c member => ?_, fun c member same => ?_⟩
  · rw [← Bool.not_eq_true]
    intro blank
    have unblank := (letters c member).1
    rw [Text.toLower_blank blank, blank] at unblank
    exact Bool.noConfusion unblank
  · subst same
    exact (letters _ member).2 rfl

theorem isGzip_iff (contentType : String) : isGzip (some contentType) = true ↔
    DeclaresArchive contentType := by
  have told : isGzip (some contentType) = true ↔
      (Text.trimChars (contentType.toList.takeWhile (· != ';'))).map Char.toLower =
          "application/gzip".toList ∨
        (Text.trimChars (contentType.toList.takeWhile (· != ';'))).map Char.toLower =
          "application/x-gzip".toList := by
    simp only [isGzip, gzipTypes, List.any_cons, List.any_nil, Bool.or_false, Bool.or_eq_true,
      beq_iff_eq]
    exact or_congr eq_comm eq_comm
  rw [told]
  constructor
  · intro known
    obtain ⟨before, after, parted, blank, also⟩ :=
      Text.trimChars_parts (contentType.toList.takeWhile (· != ';'))
    refine ⟨before, _, after, contentType.toList.dropWhile (· != ';'), ?_, blank, also, ?_, known⟩
    · rw [← parted, List.takeWhile_append_dropWhile]
    · cases rest : contentType.toList.dropWhile (· != ';') with
      | nil => exact Or.inl rfl
      | cons c behind =>
        have stops := List.head?_dropWhile_not (· != ';') contentType.toList
        rw [rest] at stops
        have mark : c = ';' := by simpa using stops
        exact Or.inr ⟨behind, by rw [mark]⟩
  · rintro ⟨before, name, after, parameters, whole, blank, also, mark, known⟩
    obtain ⟨solid, plain⟩ := archive_name known
    have apart {c : Char} (blank : Text.isBlank c = true) : c ≠ ';' := by
      rintro rfl
      exact absurd blank (by decide)
    have unmarked : ∀ c ∈ before ++ name ++ after, (c != ';') = true := by
      intro c member
      rw [bne_iff_ne]
      rcases List.mem_append.mp member with earlier | later
      · rcases List.mem_append.mp earlier with first | inside
        · exact apart (blank c first)
        · exact plain c inside
      · exact apart (also c later)
    have essence : contentType.toList.takeWhile (· != ';') = before ++ name ++ after := by
      rw [whole, List.takeWhile_append_of_pos unmarked]
      rcases mark with rfl | ⟨rest, rfl⟩
      · simp
      · simp
    rwa [essence, Text.trimChars_within solid blank also]

namespace Staging

open Gzip

def filed (staging : Staging) (made : Disk) (content : List UInt8) : Staged × Disk :=
  (.file ⟨staging.place, Disk.temporaryName made.created, content⟩,
    (made.addTemporary staging.place content).2)

theorem stage_complete (staging : Staging) {disk made : Disk}
    (ready : disk.makeDirectories staging.place = .ok made) (location : String)
    {contentType : Option String} {body content : List UInt8}
    (read : Response.content ⟨200, contentType, body, none⟩ = .ok content) :
    staging.stage disk location (.ok ⟨200, contentType, body, none⟩) =
      staging.filed made content := by
  have fine : Response.isOk ⟨200, contentType, body, none⟩ = true := rfl
  rw [stage, if_pos fine, save, ready, read]
  rfl

/-- Any bytes can be framed as members of an archive. If the declared type is one of an archive, a
file with exactly the bytes that went in results, so that nothing read from it can tell it from one
that came as it is. A body of any other type is stored unchanged. The location does not matter. -/
theorem stage_archives (staging : Staging) {disk made : Disk}
    (ready : disk.makeDirectories staging.place = .ok made) (location : String) :
    (∀ data : List (List UInt8), ∃ framed : List Member, framed.map (·.content) = data) ∧
      (∀ (framed : List Member) (contentType : String), framed ≠ [] →
        DeclaresArchive contentType →
        staging.stage disk location
            (.ok ⟨200, some contentType, framed.flatMap (·.written), none⟩) =
          staging.filed made (framed.flatMap (·.content))) ∧
      ∀ (contentType : Option String) (body : List UInt8),
        (∀ declared, contentType = some declared → ¬ DeclaresArchive declared) →
        staging.stage disk location (.ok ⟨200, contentType, body, none⟩) =
          staging.filed made body := by
  refine ⟨fun data => ?_, fun framed contentType nonempty archive => ?_, ?_⟩
  · induction data with
    | nil => exact ⟨[], rfl⟩
    | cons bytes data ih =>
      obtain ⟨member, first⟩ := Member.exists_member bytes
      obtain ⟨framed, rest⟩ := ih
      exact ⟨member :: framed, by rw [List.map_cons, first, rest]⟩
  · apply staging.stage_complete ready
    rw [Response.content, if_pos ((isGzip_iff contentType).mpr archive), expandArchive,
      members_written framed nonempty]
    rfl
  · intro contentType body other
    have plain : isGzip contentType = false := by
      cases contentType with
      | none => rfl
      | some declared =>
        rw [← Bool.not_eq_true, isGzip_iff]
        exact other declared rfl
    apply staging.stage_complete ready
    rw [Response.content, plain, if_neg Bool.false_ne_true]

theorem stage_archives_pair :
    let body : List UInt8 := [0x1F, 0x8B, 8, 0, 0, 0, 0, 0, 0, 255, 1, 1, 0, 0xFE, 0xFF, 97, 0x43,
      0xBE, 0xB7, 0xE8, 1, 0, 0, 0, 0x1F, 0x8B, 8, 0, 0, 0, 0, 0, 0, 255, 1, 0, 0, 0xFF, 0xFF, 0,
      0, 0, 0, 0, 0, 0, 0]
    let staging : Staging := ⟨["tmp"], "tmp"⟩
    Disk.empty.makeDirectories staging.place = .ok ⟨[["tmp"]], [], 0⟩ ∧
      staging.stage .empty "http://a/s.xml"
        (.ok ⟨200, some " Application/X-GZIP ; q=1", body, none⟩) =
      (.file ⟨["tmp"], "sitemap-0.xml", [97]⟩,
        ⟨[["tmp"]], [⟨["tmp"], "sitemap-0.xml", [97]⟩], 1⟩) := by
  intro body staging
  have ready : Disk.empty.makeDirectories staging.place = .ok ⟨[["tmp"]], [], 0⟩ := rfl
  have letter : Checks 0xE8B7BE43 [97] := checks_iff.mpr (by decide)
  have nothing : Checks 0 [] := checks_iff.mpr (by decide)
  let framed : List Member := [⟨false, fun _ => 0, 0, 255, [], ⟨[97], by decide, 0⟩, _, letter⟩,
    ⟨false, fun _ => 0, 0, 255, [], ⟨[], by decide, 0⟩, _, nothing⟩]
  have archive : DeclaresArchive " Application/X-GZIP ; q=1" :=
    ⟨[' '], "Application/X-GZIP".toList, [' '], "; q=1".toList, by decide,
      List.all_eq_true.mp (by decide), List.all_eq_true.mp (by decide), Or.inr ⟨_, rfl⟩,
      Or.inr (by decide)⟩
  have written : framed.flatMap (·.written) = body := by
    simp only [framed, body, List.flatMap_cons, List.flatMap_nil, Member.written, Member.header,
      Member.data, Member.trailer, Member.content, Chunk.written]
    rfl
  obtain ⟨-, expanded, -⟩ := stage_archives staging ready "http://a/s.xml"
  rw [← written]
  exact ⟨ready, expanded framed _ (List.cons_ne_nil _ _) archive⟩

end Staging

end Sitemaps
