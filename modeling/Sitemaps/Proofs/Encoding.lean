import Sitemaps.Text.Ascii
import Sitemaps.Text.Utf8

/-!
Reading UTF-8 undoes writing it. The bytes of a character beyond ASCII are all above ASCII, so a
byte of ASCII in encoded text stands for itself. The order of texts is that of their bytes.
-/

namespace Sitemaps.Text.Utf8

def bytesOf (text : List Char) : List UInt8 := text.flatMap String.utf8EncodeChar

theorem bytesOf_append (first second : List Char) :
    bytesOf (first ++ second) = bytesOf first ++ bytesOf second := List.flatMap_append

theorem bytesOf_cons (c : Char) (text : List Char) :
    bytesOf (c :: text) = String.utf8EncodeChar c ++ bytesOf text := List.flatMap_cons

theorem toList_loop (bytes : ByteArray) (i : Nat) (read : List UInt8) :
    ByteArray.toList.loop bytes i read = read.reverse ++ bytes.data.toList.drop i := by
  induction left : bytes.size - i generalizing i read with
  | zero =>
    rw [ByteArray.toList.loop, if_neg (by omega), List.drop_of_length_le, List.append_nil]
    rw [Array.length_toList]
    exact Nat.le_of_sub_eq_zero left
  | succ n ih =>
    have inside : i < bytes.data.toList.length := by
      rw [Array.length_toList]
      exact Nat.lt_of_sub_eq_succ left
    rw [ByteArray.toList.loop, if_pos (by omega), ih _ _ (by omega),
      List.drop_eq_getElem_cons inside, List.reverse_cons, List.append_assoc]
    have read : bytes.get! i = bytes.data.toList[i] := by
      cases bytes with
      | mk data => exact getElem!_pos data i (by simpa using inside)
    rw [read]
    rfl

theorem encode_ofList (text : List Char) : encode (String.ofList text) = bytesOf text := by
  unfold encode String.toUTF8 ByteArray.toList
  rw [toList_loop, String.toByteArray_ofList, List.utf8Encode, List.data_toByteArray]
  rfl

section Characters

variable {c : Char} {b : UInt8}

theorem encodeChar_ascii (ascii : c.toNat < 0x80) :
    String.utf8EncodeChar c = [c.toNat.toUInt8] := by
  have low : c.val.toNat ≤ 127 := Nat.le_of_lt_succ ascii
  simp only [String.utf8EncodeChar, if_pos low]
  rfl

theorem encodeChar_beyond (beyond : 0x80 ≤ c.toNat) (member : b ∈ String.utf8EncodeChar c) :
    0x80 ≤ b.toNat := by
  have high : ¬c.val.toNat ≤ 127 := Nat.not_le_of_lt beyond
  simp only [String.utf8EncodeChar, if_neg high] at member
  split at member
  · simp only [List.mem_cons, List.not_mem_nil, or_false] at member
    rcases member with rfl | rfl <;> simp only [UInt8.toNat_ofNat'] <;> omega
  · split at member <;>
      simp only [List.mem_cons, List.not_mem_nil, or_false] at member
    · rcases member with rfl | rfl | rfl <;> simp only [UInt8.toNat_ofNat'] <;> omega
    · rcases member with rfl | rfl | rfl | rfl <;> simp only [UInt8.toNat_ofNat'] <;> omega

theorem width_beyond {first : UInt8} (beyond : 0x80 ≤ first.toNat) : width first =
    if 0xC2 ≤ first.toNat ∧ first.toNat ≤ 0xDF then 2
    else if 0xE0 ≤ first.toNat ∧ first.toNat ≤ 0xEF then 3
    else if 0xF0 ≤ first.toNat ∧ first.toNat ≤ 0xF4 then 4
    else 0 := by
  unfold width
  rw [if_neg fun ascii => Nat.not_lt_of_le beyond (UInt8.lt_iff_toNat_lt.mp ascii)]
  simp only [UInt8.le_iff_toNat_le, Bool.and_eq_true, decide_eq_true_eq]
  rfl

theorem isTail_iff : isTail b = true ↔ 0x80 ≤ b.toNat ∧ b.toNat ≤ 0xBF := by
  simp only [isTail, UInt8.le_iff_toNat_le, Bool.and_eq_true, decide_eq_true_eq]
  rfl

theorem isSecond_of {first second : UInt8} (tail : 0x80 ≤ second.toNat ∧ second.toNat ≤ 0xBF)
    (short : first.toNat = 0xE0 → 0xA0 ≤ second.toNat)
    (surrogate : first.toNat = 0xED → second.toNat ≤ 0x9F)
    (long : first.toNat = 0xF0 → 0x90 ≤ second.toNat)
    (large : first.toNat = 0xF4 → second.toNat ≤ 0x8F) : isSecond first second = true := by
  simp only [isSecond, beq_iff_eq, ← UInt8.toNat_inj]
  split
  · rename_i same
    simp only [UInt8.le_iff_toNat_le, Bool.and_eq_true, decide_eq_true_eq]
    exact ⟨short same, tail.2⟩
  · split
    · rename_i same
      simp only [UInt8.le_iff_toNat_le, Bool.and_eq_true, decide_eq_true_eq]
      exact ⟨tail.1, surrogate same⟩
    · split
      · rename_i same
        simp only [UInt8.le_iff_toNat_le, Bool.and_eq_true, decide_eq_true_eq]
        exact ⟨long same, tail.2⟩
      · split
        · rename_i same
          simp only [UInt8.le_iff_toNat_le, Bool.and_eq_true, decide_eq_true_eq]
          exact ⟨tail.1, large same⟩
        · exact isTail_iff.mpr tail

theorem toNat_spelled {n : Nat} (small : n < 256) : (UInt8.ofNat n).toNat = n := by
  rw [UInt8.toNat_ofNat']
  exact Nat.mod_eq_of_lt small

theorem piece_two {first second : UInt8} (rest : List UInt8)
    (start : 0xC2 ≤ first.toNat ∧ first.toNat ≤ 0xDF)
    (tail : 0x80 ≤ second.toNat ∧ second.toNat ≤ 0xBF) :
    piece first (second :: rest) =
      .char (Char.ofNat (first.toNat % 0x20 * 0x40 + second.toNat % 0x40)) := by
  unfold piece
  rw [width_beyond (by omega), if_pos start]
  dsimp only
  rw [if_pos (isTail_iff.mpr tail)]
  rfl

theorem piece_three {first second third : UInt8} (rest : List UInt8)
    (start : 0xE0 ≤ first.toNat ∧ first.toNat ≤ 0xEF) (inner : isSecond first second = true)
    (tail : 0x80 ≤ third.toNat ∧ third.toNat ≤ 0xBF) :
    piece first (second :: third :: rest) =
      .char (Char.ofNat
        ((first.toNat % 0x10 * 0x40 + second.toNat % 0x40) * 0x40 + third.toNat % 0x40)) := by
  unfold piece
  rw [width_beyond (by omega), if_neg (by omega), if_pos start]
  dsimp only
  rw [inner, isTail_iff.mpr tail]
  rfl

theorem piece_four {first second third fourth : UInt8} (rest : List UInt8)
    (start : 0xF0 ≤ first.toNat ∧ first.toNat ≤ 0xF4) (inner : isSecond first second = true)
    (tail : 0x80 ≤ third.toNat ∧ third.toNat ≤ 0xBF)
    (last : 0x80 ≤ fourth.toNat ∧ fourth.toNat ≤ 0xBF) :
    piece first (second :: third :: fourth :: rest) =
      .char (Char.ofNat
        (((first.toNat % 0x08 * 0x40 + second.toNat % 0x40) * 0x40 + third.toNat % 0x40) * 0x40 +
          fourth.toNat % 0x40)) := by
  unfold piece
  rw [width_beyond (by omega), if_neg (by omega), if_neg (by omega), if_pos start]
  dsimp only
  rw [inner, isTail_iff.mpr tail, isTail_iff.mpr last]
  rfl

theorem piece_encodeChar (c : Char) (rest : List UInt8) : ∃ first tail,
    String.utf8EncodeChar c = first :: tail ∧ piece first (tail ++ rest) = .char c := by
  have valid : c.toNat < 0xD800 ∨ 0xDFFF < c.toNat ∧ c.toNat < 0x110000 := c.valid
  have whole : ∀ n, n = c.toNat → Char.ofNat n = c := fun n same => by
    rw [same, Char.ofNat_toNat]
  have code : c.val.toNat = c.toNat := rfl
  simp only [String.utf8EncodeChar, code]
  split
  · rename_i one
    refine ⟨_, _, rfl, ?_⟩
    unfold piece
    rw [width, if_pos (UInt8.lt_iff_toNat_lt.mpr (by
      rw [toNat_spelled (by omega)]
      exact Nat.lt_succ_of_le one))]
    exact congrArg Piece.char (whole _ (toNat_spelled (by omega)))
  · rename_i beyond
    split
    · rename_i two
      refine ⟨_, _, rfl, ?_⟩
      rw [List.singleton_append, piece_two, whole]
      all_goals
        simp only [toNat_spelled (show c.toNat / 64 % 32 + 192 < 256 by omega),
          toNat_spelled (show c.toNat % 64 + 128 < 256 by omega)]
        omega
    · rename_i wider
      have last := toNat_spelled (show c.toNat % 64 + 128 < 256 by omega)
      have inner := toNat_spelled (show c.toNat / 64 % 64 + 128 < 256 by omega)
      split
      · have start := toNat_spelled (show c.toNat / 4096 % 16 + 224 < 256 by omega)
        refine ⟨_, _, rfl, ?_⟩
        rw [List.cons_append, List.singleton_append, piece_three, whole]
        · rw [start, inner, last]
          omega
        · rw [start]
          omega
        · apply isSecond_of <;> simp only [start, inner] <;> omega
        · rw [last]
          omega
      · have start := toNat_spelled (show c.toNat / 262144 % 8 + 240 < 256 by omega)
        have second := toNat_spelled (show c.toNat / 4096 % 64 + 128 < 256 by omega)
        refine ⟨_, _, rfl, ?_⟩
        rw [List.cons_append, List.cons_append, List.singleton_append, piece_four, whole]
        · rw [start, second, inner, last]
          omega
        · rw [start]
          omega
        · apply isSecond_of <;> simp only [start, second] <;> omega
        · rw [inner]
          omega
        · rw [last]
          omega

end Characters

theorem drop_encodeChar {c : Char} {first : UInt8} {tail : List UInt8}
    (spelled : String.utf8EncodeChar c = first :: tail) (rest : List UInt8) :
    (tail ++ rest).drop (c.utf8Size - 1) = rest := by
  have size : (first :: tail).length = c.utf8Size := by
    rw [← spelled, String.length_utf8EncodeChar]
  rw [List.length_cons] at size
  rw [← size, Nat.add_sub_cancel, List.drop_left]

theorem decodeFrom_bytesOf (index : Nat) (read text : List Char) :
    decodeFrom index read (bytesOf text) = .ok (read.reverse ++ text) := by
  induction text generalizing index read with
  | nil =>
    rw [bytesOf, List.flatMap_nil, decodeFrom, List.append_nil]
  | cons c text ih =>
    obtain ⟨first, tail, spelled, front⟩ := piece_encodeChar c (bytesOf text)
    rw [bytesOf_cons, spelled, List.cons_append, decodeFrom, front]
    dsimp only
    rw [drop_encodeChar spelled, ih, List.reverse_cons, List.append_assoc]
    rfl

theorem decode_bytesOf (text : List Char) : decode (bytesOf text) = .ok text :=
  decodeFrom_bytesOf 0 [] text

theorem decodeLossyFrom_bytesOf (read text : List Char) :
    decodeLossyFrom read (bytesOf text) = read.reverse ++ text := by
  induction text generalizing read with
  | nil =>
    rw [bytesOf, List.flatMap_nil, decodeLossyFrom, List.append_nil]
  | cons c text ih =>
    obtain ⟨first, tail, spelled, front⟩ := piece_encodeChar c (bytesOf text)
    rw [bytesOf_cons, spelled, List.cons_append, decodeLossyFrom, front]
    dsimp only
    rw [drop_encodeChar spelled, ih, List.reverse_cons, List.append_assoc]
    rfl

theorem decodeLossy_bytesOf (text : List Char) : decodeLossy (bytesOf text) = text :=
  decodeLossyFrom_bytesOf [] text

section Ascii

variable {text pattern : List Char} {before after : List UInt8} {b : UInt8}

theorem bytesOf_ascii (ascii : ∀ c ∈ text, c.toNat < 0x80) :
    bytesOf text = text.map (·.toNat.toUInt8) := by
  induction text with
  | nil => rfl
  | cons c text ih =>
    rw [bytesOf_cons, encodeChar_ascii (ascii c List.mem_cons_self),
      ih fun d member => ascii d (List.mem_cons_of_mem c member)]
    rfl

theorem bytesOf_eq_nil (none : bytesOf text = []) : text = [] := by
  cases text with
  | nil => rfl
  | cons c text =>
    obtain ⟨first, tail, spelled, -⟩ := piece_encodeChar c []
    rw [bytesOf_cons, spelled] at none
    cases none

theorem toNat_ascii {c : Char} (ascii : c.toNat < 0x80) : c.toNat.toUInt8.toNat = c.toNat :=
  toNat_spelled (Nat.lt_trans ascii (by decide))

theorem bytesOf_split (before : List UInt8) (ascii : b.toNat < 0x80)
    (same : bytesOf text = before ++ b :: after) :
    ∃ first c last, text = first ++ c :: last ∧ bytesOf first = before ∧ c.toNat = b.toNat ∧
      bytesOf last = after := by
  induction text generalizing before with
  | nil => simp [bytesOf] at same
  | cons c text ih =>
    -- the byte stands further on, so the first character is spelled before it
    have onward : ∀ inner, String.utf8EncodeChar c ++ inner = before →
        bytesOf text = inner ++ b :: after →
        ∃ first d last, c :: text = first ++ d :: last ∧ bytesOf first = before ∧
          d.toNat = b.toNat ∧ bytesOf last = after := by
      intro inner start left
      obtain ⟨first, d, last, rfl, spelled, code, ended⟩ := ih inner left
      exact ⟨c :: first, d, last, rfl, by rw [bytesOf_cons, spelled, start], code, ended⟩
    rw [bytesOf_cons] at same
    rcases List.append_eq_append_iff.mp same with ⟨inner, start, left⟩ | ⟨inner, start, left⟩
    · exact onward inner start.symm left
    · cases inner with
      | nil =>
        rw [List.append_nil] at start
        exact onward [] (by rw [List.append_nil, start]) left.symm
      | cons first inner =>
        obtain ⟨rfl, ended⟩ := List.cons.inj left
        have spelled : b ∈ String.utf8EncodeChar c := start ▸ by simp
        by_cases narrow : c.toNat < 0x80
        · rw [encodeChar_ascii narrow] at start
          cases before with
          | nil =>
            obtain ⟨rfl, rfl⟩ := List.cons.inj start
            exact ⟨[], c, text, rfl, rfl, (toNat_ascii narrow).symm, ended.symm⟩
          | cons _ before => simp at start
        · have high := encodeChar_beyond (Nat.le_of_not_lt narrow) spelled
          omega

theorem mem_bytesOf {c : Char} (ascii : c.toNat < 0x80)
    (member : c.toNat.toUInt8 ∈ bytesOf text) : c ∈ text := by
  obtain ⟨before, after, same⟩ := List.append_of_mem member
  obtain ⟨first, d, last, rfl, -, code, -⟩ := bytesOf_split before
    (by rw [toNat_ascii ascii]; exact ascii) same
  rw [toNat_ascii ascii] at code
  rw [Char.toNat_inj.mp code]
  exact List.mem_append_right _ List.mem_cons_self

theorem prefix_of_bytesOf (ascii : ∀ c ∈ pattern, c.toNat < 0x80)
    (front : bytesOf pattern <+: bytesOf text) : pattern <+: text := by
  induction pattern generalizing text with
  | nil => exact List.nil_prefix
  | cons c pattern ih =>
    have narrow := ascii c List.mem_cons_self
    obtain ⟨after, same⟩ := front
    rw [bytesOf_cons, encodeChar_ascii narrow] at same
    obtain ⟨first, d, last, rfl, start, code, ended⟩ := bytesOf_split []
      (by rw [toNat_ascii narrow]; exact narrow) same.symm
    rw [toNat_ascii narrow] at code
    rw [bytesOf_eq_nil start, Char.toNat_inj.mp code]
    obtain ⟨tail, rfl⟩ := ih (fun d member => ascii d (List.mem_cons_of_mem c member))
      ⟨after, ended.symm⟩
    exact ⟨tail, rfl⟩

theorem infix_of_bytesOf (pattern : List Char) (ascii : ∀ c ∈ pattern, c.toNat < 0x80)
    (within : bytesOf pattern <:+: bytesOf text) : pattern <:+: text := by
  cases pattern with
  | nil => exact List.nil_infix
  | cons c pattern =>
    have narrow := ascii c List.mem_cons_self
    obtain ⟨before, after, same⟩ := within
    rw [bytesOf_cons, encodeChar_ascii narrow, List.append_assoc] at same
    obtain ⟨first, d, last, rfl, -, code, ended⟩ := bytesOf_split before
      (by rw [toNat_ascii narrow]; exact narrow) same.symm
    rw [toNat_ascii narrow] at code
    obtain ⟨tail, rfl⟩ := prefix_of_bytesOf
      (fun d member => ascii d (List.mem_cons_of_mem c member)) ⟨after, ended.symm⟩
    rw [Char.toNat_inj.mp code]
    exact ⟨first, tail, by simp⟩

end Ascii

section Order

variable {c d : Char} {first second : List Char}

theorem encodeChar_lt (less : c < d) (rest more : List UInt8) :
    String.utf8EncodeChar c ++ rest < String.utf8EncodeChar d ++ more := by
  have codes : c.val.toNat < d.val.toNat := less
  have bound : d.val.toNat < 0x110000 := by
    rcases d.valid with low | high
    · exact Nat.lt_trans low (by decide)
    · exact high.2
  have twice (n : Nat) : n / 4096 = n / 64 / 64 := (Nat.div_div_eq_div_mul n 64 64).symm
  have thrice (n : Nat) : n / 262144 = n / 64 / 64 / 64 := by
    rw [Nat.div_div_eq_div_mul, Nat.div_div_eq_div_mul]
  simp only [String.utf8EncodeChar, twice, thrice]
  repeat' split
  all_goals
    simp (disch := omega) only [List.cons_append, List.nil_append, List.cons_lt_cons_iff,
      UInt8.lt_iff_toNat_lt, ← UInt8.toNat_inj, toNat_spelled]
    omega

theorem bytesOf_lt (less : first < second) : bytesOf first < bytesOf second := by
  induction first generalizing second with
  | nil =>
    cases second with
    | nil => cases less
    | cons d second =>
      obtain ⟨b, tail, spelled, -⟩ := piece_encodeChar d []
      rw [bytesOf_cons, spelled]
      exact List.nil_lt_cons _ _
  | cons c first ih =>
    cases second with
    | nil => cases less
    | cons d second =>
      rw [bytesOf_cons, bytesOf_cons]
      rcases List.cons_lt_cons_iff.mp less with here | ⟨rfl, later⟩
      · exact encodeChar_lt here _ _
      · exact List.append_left_lt (ih later)

/-- Texts stand in the order of their bytes. -/
theorem encode_lt {first second : String} (less : first < second) :
    encode first < encode second := by
  have spelled (text : String) : encode text = bytesOf text.toList := by
    rw [← encode_ofList, String.ofList_toList]
  rw [spelled, spelled]
  exact bytesOf_lt less

end Order

end Sitemaps.Text.Utf8
