import Sitemaps.Proofs.Markup

/-!
Text side by side. What can be read on its own reads the same in front of more text, so that two
pieces of character data mean together what each of them means.
-/

namespace Sitemaps

namespace Text.Utf8

theorem toNat_ofNat_le (code : Nat) : (Char.ofNat code).toNat ≤ code := by
  by_cases valid : code.isValidChar
  · rw [Char.ofNat, dif_pos valid]
    exact Nat.le_refl code
  · rw [Char.ofNat, dif_neg valid]
    exact Nat.zero_le code

theorem utf8Size_eq (c : Char) : c.utf8Size =
    if c.toNat < 0x80 then 1 else if c.toNat < 0x800 then 2
    else if c.toNat < 0x10000 then 3 else 4 := by
  have narrow (bound : UInt32) : c.val ≤ bound ↔ c.toNat < bound.toNat + 1 := by
    rw [UInt32.le_iff_toNat_le]
    exact Nat.lt_succ_iff.symm
  change (if c.val ≤ 0x7F then 1 else if c.val ≤ 0x7FF then 2
    else if c.val ≤ 0xFFFF then 3 else 4) = _
  simp only [narrow]
  rfl

theorem utf8Size_ofNat_le {code size : Nat} (some : 1 ≤ size)
    (two : 0x80 ≤ code → 2 ≤ size) (three : 0x800 ≤ code → 3 ≤ size)
    (four : 0x10000 ≤ code → 4 ≤ size) : (Char.ofNat code).utf8Size ≤ size := by
  have small := toNat_ofNat_le code
  rw [utf8Size_eq]
  repeat' split
  all_goals omega

section Pieces

variable {first : UInt8} {rest : List UInt8} {c : Char}

theorem piece_append (read : piece first rest = .char c) (more : List UInt8) :
    piece first (rest ++ more) = .char c := by
  unfold piece at read ⊢
  split at read
  · exact read
  · rcases rest with _ | ⟨second, rest⟩
    · cases read
    · exact read
  · rcases rest with _ | ⟨second, rest⟩
    · cases read
    · dsimp only [List.cons_append] at read ⊢
      split at read
      · cases read
      · rename_i fits
        rw [if_neg fits]
        rcases rest with _ | ⟨third, rest⟩
        · cases read
        · exact read
  · rcases rest with _ | ⟨second, rest⟩
    · cases read
    · dsimp only [List.cons_append] at read ⊢
      split at read
      · cases read
      · rename_i fits
        rw [if_neg fits]
        rcases rest with _ | ⟨third, rest⟩
        · cases read
        · dsimp only [List.cons_append] at read ⊢
          split at read
          · cases read
          · rename_i tail
            rw [if_neg tail]
            rcases rest with _ | ⟨fourth, rest⟩
            · cases read
            · exact read
  · cases read

theorem narrow_of_width (one : width first = 1) : first.toNat < 0x80 := by
  unfold width at one
  split at one
  · rename_i small
    exact small
  · repeat' split at one
    all_goals cases one

theorem piece_size (read : piece first rest = .char c) : c.utf8Size ≤ rest.length + 1 := by
  have low (b : UInt8) : bits b < 0x40 := Nat.mod_lt _ (by decide)
  unfold piece at read
  split at read
  · rename_i one
    have small := narrow_of_width one
    cases read
    apply utf8Size_ofNat_le <;> omega
  · split at read
    · cases read
    · rename_i second rest
      split at read
      · have last := low second
        cases read
        rw [List.length_cons]
        apply utf8Size_ofNat_le <;> omega
      · cases read
  · split at read
    · cases read
    · rename_i second rest
      split at read
      · cases read
      · split at read
        · cases read
        · rename_i third rest
          split at read
          · cases read
          · have inner := low second
            have last := low third
            cases read
            rw [List.length_cons, List.length_cons]
            apply utf8Size_ofNat_le <;> omega
  · split at read
    · cases read
    · rename_i second rest
      split at read
      · cases read
      · split at read
        · cases read
        · rename_i third rest
          split at read
          · cases read
          · split at read
            · cases read
            · rename_i fourth rest
              split at read
              · cases read
              · cases read
                simp only [List.length_cons]
                apply utf8Size_ofNat_le <;> omega
  · cases read

end Pieces

/-- The bytes spell the text, whatever stands around them. -/
def Spells (bytes : List UInt8) (text : List Char) : Prop :=
  ∀ (index : Nat) (read : List Char) (more : List UInt8), ∃ after,
    decodeFrom index read (bytes ++ more) = decodeFrom after (text.reverse ++ read) more

theorem Spells.nil : Spells [] [] := fun index _ _ => ⟨index, rfl⟩

theorem Spells.append {first second : List UInt8} {text other : List Char}
    (one : Spells first text) (two : Spells second other) :
    Spells (first ++ second) (text ++ other) := by
  intro index read more
  obtain ⟨middle, front⟩ := one index read (second ++ more)
  obtain ⟨after, back⟩ := two middle (text.reverse ++ read) more
  refine ⟨after, ?_⟩
  rw [List.append_assoc, front, back, List.reverse_append, List.append_assoc]

theorem Spells.decode {bytes : List UInt8} {text : List Char} (spells : Spells bytes text) :
    decode bytes = .ok text := by
  obtain ⟨after, same⟩ := spells 0 [] []
  rw [List.append_nil, List.append_nil] at same
  rw [Utf8.decode, same, decodeFrom, List.reverse_reverse]

theorem decodeFrom_spells {index : Nat} {read whole : List Char} {bytes : List UInt8}
    (decoded : decodeFrom index read bytes = .ok whole) :
    ∃ text, whole = read.reverse ++ text ∧ Spells bytes text := by
  fun_induction decodeFrom index read bytes with
  | case1 index read =>
    cases decoded
    exact ⟨[], (List.append_nil _).symm, .nil⟩
  | case2 index read first rest c front ih =>
    obtain ⟨text, rfl, spells⟩ := ih decoded
    refine ⟨c :: text, by simp, ?_⟩
    intro start before more
    obtain ⟨after, same⟩ := spells (start + c.utf8Size) (c :: before) more
    have size := piece_size front
    have left : (rest ++ more).drop (c.utf8Size - 1) = rest.drop (c.utf8Size - 1) ++ more :=
      List.drop_append_of_le_length (by omega)
    refine ⟨after, ?_⟩
    rw [List.cons_append, decodeFrom, piece_append front]
    dsimp only
    rw [left, same]
    simp
  | case3 => cases decoded
  | case4 => cases decoded

theorem decode_iff {bytes : List UInt8} {text : List Char} :
    decode bytes = .ok text ↔ Spells bytes text := by
  constructor
  · intro decoded
    obtain ⟨text, rfl, spells⟩ := decodeFrom_spells decoded
    exact spells
  · exact Spells.decode

end Text.Utf8

namespace Xml

open Sitemap.Written

def Resolves (text plain : List Char) : Prop :=
  ∀ (position total : Nat) (read more : List Char), ∃ after,
    unescapeFrom position total read (text ++ more) =
      unescapeFrom after total (plain.reverse ++ read) more

theorem Resolves.nil : Resolves [] [] := fun position _ _ _ => ⟨position, rfl⟩

theorem Resolves.append {first second text other : List Char} (one : Resolves first text)
    (two : Resolves second other) : Resolves (first ++ second) (text ++ other) := by
  intro position total read more
  obtain ⟨middle, front⟩ := one position total read (second ++ more)
  obtain ⟨after, back⟩ := two middle total (text.reverse ++ read) more
  refine ⟨after, ?_⟩
  rw [List.append_assoc, front, back, List.reverse_append, List.append_assoc]

theorem Resolves.unescape {text plain : List Char} (resolves : Resolves text plain) :
    unescape text = .ok plain := by
  obtain ⟨after, same⟩ := resolves 0 (byteLength text) [] []
  rw [List.append_nil, List.append_nil] at same
  rw [Xml.unescape, same, unescapeFrom, List.reverse_reverse]

theorem resolves_plain {c : Char} (bare : c ≠ '&') : Resolves [c] [c] :=
  fun position total read _ => ⟨_, unescapeFrom_plain position total read bare⟩

theorem resolves_reference {name : List Char} {c : Char}
    (inner : ∀ d ∈ name, endsReference d = false)
    (stands : predefined? name = some c ∨ ∃ digits, name = '#' :: digits ∧
      numbered digits = .ok c) : Resolves (reference name) [c] :=
  fun position total read _ => unescapeFrom_reference position total read inner stands

theorem reference_spelled {rest after : List Char}
    (ended : rest.dropWhile (fun c => !endsReference c) = ';' :: after) :
    '&' :: rest = reference (rest.takeWhile fun c => !endsReference c) ++ after ∧
      ∀ c ∈ rest.takeWhile (fun c => !endsReference c), endsReference c = false := by
  constructor
  · have whole := List.takeWhile_append_dropWhile (p := fun c => !endsReference c) (l := rest)
    rw [ended] at whole
    rw [reference, List.append_assoc, List.singleton_append, List.cons_append, whole]
  · intro c member
    have inner := List.all_eq_true.mp List.all_takeWhile c member
    simpa using inner

theorem unescapeFrom_resolves {position total : Nat} {read text whole : List Char}
    (resolved : unescapeFrom position total read text = .ok whole) :
    ∃ plain, whole = read.reverse ++ plain ∧ Resolves text plain := by
  fun_induction unescapeFrom position total read text with
  | case1 position read =>
    cases resolved
    exact ⟨[], (List.append_nil _).symm, .nil⟩
  | case2 position read rest name after ended stop digits spelled c number ih =>
    obtain ⟨plain, rfl, resolves⟩ := ih resolved
    obtain ⟨spells, inner⟩ := reference_spelled ended
    refine ⟨c :: plain, by simp, ?_⟩
    rw [spells]
    exact (resolves_reference inner (.inr ⟨digits, spelled, number⟩)).append resolves
  | case3 => cases resolved
  | case4 position read rest name after ended stop c entity other ih =>
    obtain ⟨plain, rfl, resolves⟩ := ih resolved
    obtain ⟨spells, inner⟩ := reference_spelled ended
    refine ⟨c :: plain, by simp, ?_⟩
    rw [spells]
    exact (resolves_reference inner (.inl entity)).append resolves
  | case5 => cases resolved
  | case6 => cases resolved
  | case7 position read c rest bare ih =>
    obtain ⟨plain, rfl, resolves⟩ := ih resolved
    refine ⟨c :: plain, by simp, ?_⟩
    exact (resolves_plain bare).append resolves

theorem unescape_iff {text plain : List Char} :
    unescape text = .ok plain ↔ Resolves text plain := by
  constructor
  · intro resolved
    obtain ⟨plain, rfl, resolves⟩ := unescapeFrom_resolves resolved
    exact resolves
  · exact Resolves.unescape

theorem characters_iff {content : List UInt8} {plain : List Char} :
    characters content = .ok plain ↔
      ∃ text, Text.Utf8.Spells content text ∧ Resolves text plain := by
  constructor
  · intro read
    unfold characters at read
    split at read
    · rename_i text decoded
      exact ⟨text, Text.Utf8.decode_iff.mp decoded, unescape_iff.mp read⟩
    · cases read
  · rintro ⟨text, spells, resolves⟩
    rw [characters, spells.decode]
    exact resolves.unescape

theorem characters_bare {text : List Char} (bare : '&' ∉ text) :
    characters (Text.Utf8.bytesOf text) = .ok text := by
  have resolves : Resolves text text := by
    induction text with
    | nil => exact .nil
    | cons c text ih =>
      have first : c ≠ '&' := fun same => bare (same ▸ List.mem_cons_self)
      exact (resolves_plain first).append (ih fun member => bare (List.mem_cons_of_mem c member))
  exact characters_iff.mpr ⟨text, Text.Utf8.decode_iff.mp (Text.Utf8.decode_bytesOf text), resolves⟩

theorem characters_append {first second : List UInt8} {text other : List Char}
    (one : characters first = .ok text) (two : characters second = .ok other) :
    characters (first ++ second) = .ok (text ++ other) := by
  obtain ⟨_, spells, resolves⟩ := characters_iff.mp one
  obtain ⟨_, spellsOther, resolvesOther⟩ := characters_iff.mp two
  exact characters_iff.mpr ⟨_, spells.append spellsOther, resolves.append resolvesOther⟩

/-- A byte order mark is a character of its own. -/
theorem characters_unmarked {content : List UInt8} {marked : List Char}
    (read : characters (byteOrderMark ++ content) = .ok marked) :
    ∃ plain, characters content = .ok plain := by
  obtain ⟨text, spells, resolves⟩ := characters_iff.mp read
  have decoded := spells.decode
  have mark : Text.Utf8.piece 0xEF (0xBB :: 0xBF :: content) = .char (Char.ofNat 0xFEFF) := rfl
  rw [byteOrderMark, List.cons_append, Text.Utf8.decode, Text.Utf8.decodeFrom] at decoded
  simp only [List.cons_append, List.nil_append, mark] at decoded
  obtain ⟨rest, rfl, spelled⟩ := Text.Utf8.decodeFrom_spells decoded
  have resolved := resolves.unescape
  rw [unescape, List.reverse_singleton, List.singleton_append,
    unescapeFrom_plain 0 _ [] (by decide)] at resolved
  obtain ⟨plain, -, resolves⟩ := unescapeFrom_resolves resolved
  exact ⟨plain, characters_iff.mpr ⟨rest, spelled, resolves⟩⟩

end Xml

end Sitemaps
