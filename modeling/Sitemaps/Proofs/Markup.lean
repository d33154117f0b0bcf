import Sitemaps.Proofs.Cuts
import Sitemaps.Proofs.Encoding
import Sitemaps.Proofs.Written
import Sitemaps.Xml.Reader

/-!
Tokens and characters of written text: each piece of markup is read as the token it was written
for, and each spelling of a character as the character.
-/

namespace Sitemaps.Xml

open Text.Utf8 Sitemap.Written

section Characters

variable {c : Char} {name rest : List Char} (position total : Nat) (read : List Char)

theorem unescapeFrom_plain (bare : c ≠ '&') : unescapeFrom position total read (c :: rest) =
    unescapeFrom (position + c.utf8Size) total (c :: read) rest := by
  conv => lhs; unfold unescapeFrom
  split
  · rename_i none
    cases none
  · rename_i start
    exact absurd (List.cons.inj start).1 bare
  · rename_i start
    cases start
    rfl

theorem cut_reference (rest : List Char) (inner : ∀ d ∈ name, endsReference d = false) :
    (name ++ ';' :: rest).takeWhile (fun d => !endsReference d) = name ∧
      (name ++ ';' :: rest).dropWhile (fun d => !endsReference d) = ';' :: rest := by
  have named : ∀ d ∈ name, (!endsReference d) = true := fun d member => by rw [inner d member]; rfl
  rw [List.takeWhile_append_of_pos named, List.dropWhile_append_of_pos named]
  exact ⟨by simp [endsReference], rfl⟩

theorem unescapeFrom_reference (inner : ∀ d ∈ name, endsReference d = false)
    (stands : predefined? name = some c ∨ ∃ digits, name = '#' :: digits ∧
      numbered digits = .ok c) : ∃ after,
    unescapeFrom position total read (reference name ++ rest) =
      unescapeFrom after total (c :: read) rest := by
  obtain ⟨taken, left⟩ := cut_reference rest inner
  refine ⟨position + 1 + byteLength name + 1, ?_⟩
  have spelled : reference name ++ rest = '&' :: (name ++ ';' :: rest) := by
    simp [reference]
  rw [spelled]
  conv => lhs; unfold unescapeFrom
  split
  · rename_i none
    cases none
  · rename_i inside start
    cases start
    split
    · rename_i after ended
      rw [left] at ended
      cases ended
      dsimp only
      rw [taken]
      rcases stands with entity | ⟨digits, rfl, number⟩
      · split
        · cases entity
        · rw [entity]
      · split
        · rename_i same
          cases same
          rw [number]
        · rename_i other
          exact absurd rfl (other digits)
    · rename_i unended
      exact absurd left (unended rest)
  · rename_i other start
    cases start
    exact absurd rfl other

end Characters

section Numbers

variable {Digit : Type} {char : Digit → Char} {value : Digit → Nat} {base : Nat} {c : Char}

theorem numberFrom_spelled (positive : 0 < base)
    (reads : ∀ digit, digitIn? base (char digit) = some (value digit)) (digits : List Digit)
    (start : Nat)
    (small : (digits.map value).foldl (fun n d => n * base + d) start < UInt32.size) :
    numberFrom base start (digits.map char) =
      .ok ((digits.map value).foldl (fun n d => n * base + d) start) := by
  have grows : ∀ (digits : List Nat) start,
      start ≤ digits.foldl (fun n d => n * base + d) start := by
    intro digits
    induction digits with
    | nil => exact fun start => Nat.le_refl start
    | cons d digits ih =>
      intro start
      exact Nat.le_trans (Nat.le_trans (Nat.le_mul_of_pos_right start positive)
        (Nat.le_add_right _ d)) (ih _)
  induction digits generalizing start with
  | nil => rfl
  | cons d digits ih =>
    rw [List.map_cons, List.map_cons, List.foldl_cons] at *
    rw [numberFrom, reads d]
    dsimp only
    rw [if_pos (Nat.lt_of_le_of_lt (grows _ _) small), ih _ small]

theorem number_spelled (char : Digit → Char) (positive : 0 < base)
    (reads : ∀ digit, digitIn? base (char digit) = some (value digit))
    (unsigned : ∀ digit, char digit ≠ '+' ∧ char digit ≠ '-') (digits : List Digit)
    (spells : Text.ofDigits base (digits.map value) = c.toNat) (present : c.toNat ≠ 0) :
    number base (digits.map char) = .ok c.toNat := by
  have small : c.toNat < UInt32.size := c.val.toNat_lt
  cases digits with
  | nil => exact absurd spells.symm present
  | cons d digits =>
    have read := numberFrom_spelled positive reads (d :: digits) 0
    rw [← Text.ofDigits, spells] at read
    rw [List.map_cons, number, if_neg (by simp [unsigned d]), ← List.map_cons]
    exact read small

theorem settled (present : c.toNat ≠ 0) :
    (if c.toNat = 0 then Except.error Reference.zero
      else if c.toNat.isValidChar then .ok (Char.ofNat c.toNat)
      else .error (.notACharacter c.toNat)) = .ok c := by
  have valid : c.toNat.isValidChar := c.valid
  rw [if_neg present, if_pos valid, Char.ofNat_toNat]

theorem numbered_decimal (digits : List (Fin 10))
    (spells : Text.ofDigits 10 (digits.map Fin.val) = c.toNat) (present : c.toNat ≠ 0) :
    numbered (digits.map fun digit => Nat.digitChar digit.val) = .ok c := by
  have read := number_spelled (fun digit : Fin 10 => Nat.digitChar digit.val)
    (by decide) (by decide) (by decide) digits spells present
  unfold numbered
  dsimp only
  split
  · rename_i others same
    cases digits with
    | nil => cases same
    | cons d digits =>
      have plain : ∀ d : Fin 10, Nat.digitChar d.val ≠ 'x' := by decide
      exact absurd (List.cons.inj same).1 (plain d)
  · rw [read]
    exact settled present

theorem digit_hexadecimal (digit : HexDigit) : digitIn? 16 digit.char = some digit.value.val ∧
    digit.char ≠ '+' ∧ digit.char ≠ '-' ∧ endsReference digit.char = false := by
  have each : ∀ (value : Fin 16) (upper : Bool),
      digitIn? 16 (HexDigit.char ⟨value, upper⟩) = some value.val ∧
        HexDigit.char ⟨value, upper⟩ ≠ '+' ∧ HexDigit.char ⟨value, upper⟩ ≠ '-' ∧
        endsReference (HexDigit.char ⟨value, upper⟩) = false := by decide
  exact each digit.value digit.upper

theorem numbered_hexadecimal (digits : List HexDigit)
    (spells : Text.ofDigits 16 (digits.map (·.value.val)) = c.toNat) (present : c.toNat ≠ 0) :
    numbered ('x' :: digits.map HexDigit.char) = .ok c := by
  have read := number_spelled HexDigit.char (by decide)
    (fun digit => (digit_hexadecimal digit).1)
    (fun digit => ⟨(digit_hexadecimal digit).2.1, (digit_hexadecimal digit).2.2.1⟩)
    digits spells present
  unfold numbered
  dsimp only
  split
  · rename_i others same
    cases same
    rw [read]
    exact settled present
  · rename_i other
    exact absurd rfl (other (digits.map HexDigit.char))

end Numbers

section Texts

theorem unescapeFrom_spelled (position total : Nat) (read : List Char) (spelled : Spelled)
    (rest : List Char) : ∃ after,
    unescapeFrom position total read (spelled.written ++ rest) =
      unescapeFrom after total (spelled.char :: read) rest := by
  cases spelled with
  | plain c bare => exact ⟨_, unescapeFrom_plain position total read bare.2⟩
  | named entity =>
    apply unescapeFrom_reference
    · cases entity <;> simp [Entity.name, endsReference]
    · exact .inl (by cases entity <;> rfl)
  | decimal digits c spells present =>
    apply unescapeFrom_reference
    · have plain : ∀ d : Fin 10, endsReference (Nat.digitChar d.val) = false := by decide
      intro d member
      rcases List.mem_cons.mp member with rfl | digit
      · decide
      · obtain ⟨value, -, rfl⟩ := List.mem_map.mp digit
        exact plain value
    · exact .inr ⟨_, rfl, numbered_decimal digits spells present⟩
  | hexadecimal digits c spells present =>
    apply unescapeFrom_reference
    · intro d member
      rcases List.mem_cons.mp member with rfl | member
      · decide
      · rcases List.mem_cons.mp member with rfl | digit
        · decide
        · obtain ⟨value, -, rfl⟩ := List.mem_map.mp digit
          exact (digit_hexadecimal value).2.2.2
    · exact .inr ⟨_, rfl, numbered_hexadecimal digits spells present⟩

theorem unescapeFrom_text (position total : Nat) (read : List Char) (spelled : List Spelled) :
    unescapeFrom position total read (spelled.flatMap Spelled.written) =
      .ok (read.reverse ++ spelled.map Spelled.char) := by
  induction spelled generalizing position read with
  | nil =>
    rw [List.flatMap_nil, List.map_nil, List.append_nil]
    unfold unescapeFrom
    rfl
  | cons first spelled ih =>
    obtain ⟨after, same⟩ := unescapeFrom_spelled position total read first
      (spelled.flatMap Spelled.written)
    rw [List.flatMap_cons, same, ih, List.map_cons, List.reverse_cons, List.append_assoc]
    rfl

theorem characters_text (spelled : List Spelled) :
    characters (bytesOf (spelled.flatMap Spelled.written)) = .ok (spelled.map Spelled.char) := by
  unfold characters
  rw [decode_bytesOf]
  exact unescapeFrom_text 0 _ [] spelled

theorem spelled_bare (spelled : List Spelled) : '<' ∉ spelled.flatMap Spelled.written := by
  intro member
  obtain ⟨each, -, within⟩ := List.mem_flatMap.mp member
  cases each with
  | plain c bare => exact bare.1 (List.mem_singleton.mp within).symm
  | named entity =>
    revert within
    cases entity <;> decide
  | decimal digits c spells present =>
    have plain : ∀ d : Fin 10, Nat.digitChar d.val ≠ '<' := by decide
    simp [Spelled.written, reference, plain] at within
  | hexadecimal digits c spells present =>
    have plain : ∀ digit : HexDigit, digit.char ≠ '<' := by
      intro digit same
      have reads := (digit_hexadecimal digit).1
      rw [same] at reads
      cases reads
    simp [Spelled.written, reference, plain] at within

theorem spelled_some {spelled : List Spelled} (present : spelled ≠ []) :
    spelled.flatMap Spelled.written ≠ [] := by
  cases spelled with
  | nil => exact absurd rfl present
  | cons first spelled =>
    cases first <;> simp [Spelled.written, reference]

end Texts

section Tokens

variable {content tail : List Char}

theorem next_run {run more : List UInt8} (present : run ≠ []) (bare : 0x3C ∉ run)
    (ends : ∀ b ∈ more.head?, b = 0x3C) :
    Token.next none (run ++ more) = .ok (some (.text run, more)) := by
  have untagged : ∀ b ∈ run, (b != 0x3C) = true := fun b member =>
    bne_iff_ne.mpr fun same => bare (same ▸ member)
  have stop : more.takeWhile (· != 0x3C) = [] ∧ more.dropWhile (· != 0x3C) = more := by
    cases more with
    | nil => exact ⟨rfl, rfl⟩
    | cons b more =>
      rw [ends b rfl]
      exact ⟨rfl, rfl⟩
  cases spelled : run with
  | nil => exact absurd spelled present
  | cons first rest =>
    have start := untagged first (spelled ▸ List.mem_cons_self)
    rw [← spelled]
    unfold Token.next
    rw [List.takeWhile_append_of_pos untagged, List.dropWhile_append_of_pos untagged, stop.1,
      stop.2, spelled]
    simp [bne_iff_ne.mp start]

theorem next_text (present : content ≠ []) (bare : '<' ∉ content)
    (ends : ∀ c ∈ tail.head?, c = '<') : Token.next none (bytesOf (content ++ tail)) =
      .ok (some (.text (bytesOf content), bytesOf tail)) := by
  rw [bytesOf_append]
  apply next_run
  · exact fun none_left => present (bytesOf_eq_nil none_left)
  · exact fun member => bare (mem_bytesOf (c := '<') (by decide) member)
  · intro b front
    cases tail with
    | nil => cases front
    | cons c tail =>
      rw [ends c rfl] at front
      cases front
      rfl

theorem cutWith_found {markup : Markup} {bytes rest : List UInt8} {token : Token}
    {cut : Option Cut} (make : List UInt8 → Except Fault Token) (inner : List UInt8)
    (read : Token.ofMarkup none bytes = cutWith none markup cut make)
    (found : cut = some (inner, rest)) (made : make inner = .ok token) :
    Token.next none (0x3C :: bytes) = .ok (some (token, rest)) := by
  change (Token.ofMarkup none bytes).map some = _
  rw [read, found]
  change ((make inner).map (·, rest)).map some = _
  rw [made]
  rfl

theorem next_cdata (closed : ¬[']', ']', '>'] <:+: content) :
    Token.next none (bytesOf ("<![CDATA[".toList ++ content ++ "]]>".toList ++ tail)) =
      .ok (some (.cdata (bytesOf content), bytesOf tail)) := by
  have bytes : bytesOf ("<![CDATA[".toList ++ content ++ "]]>".toList ++ tail) =
      0x3C :: 0x21 :: (cdataWord ++ bytesOf content ++ [0x5D, 0x5D] ++ 0x3E :: bytesOf tail) := by
    simp [bytesOf_append, bytesOf_cons, cdataWord]
    rfl
  rw [bytes]
  apply cutWith_found cdataToken _ rfl
  · exact cutCData_found (bytesOf tail) fun within =>
      closed (infix_of_bytesOf [']', ']', '>'] (by simp) within)
  · simp [cdataToken, cdataWord]

theorem next_comment (closed : ¬['-', '-', '>'] <:+: content) :
    Token.next none (bytesOf ("<!--".toList ++ content ++ "-->".toList ++ tail)) =
      .ok (some (.aside, bytesOf tail)) := by
  have bytes : bytesOf ("<!--".toList ++ content ++ "-->".toList ++ tail) =
      0x3C :: 0x21 ::
        ([0x2D, 0x2D] ++ bytesOf content ++ [0x2D, 0x2D] ++ 0x3E :: bytesOf tail) := by
    simp [bytesOf_append, bytesOf_cons]
    rfl
  rw [bytes]
  apply cutWith_found commentToken _ rfl
  · exact cutComment_found (bytesOf tail) fun within =>
      closed (infix_of_bytesOf ['-', '-', '>'] (by simp) within)
  · simp [commentToken]

theorem next_instruction (closed : ¬['?', '>'] <:+: '?' :: content) :
    Token.next none (bytesOf ("<?".toList ++ content ++ "?>".toList ++ tail)) =
      .ok (some (.aside, bytesOf tail)) := by
  have bytes : bytesOf ("<?".toList ++ content ++ "?>".toList ++ tail) =
      0x3C :: 0x3F :: (bytesOf content ++ [0x3F] ++ 0x3E :: bytesOf tail) := by
    simp [bytesOf_append, bytesOf_cons]
    rfl
  rw [bytes]
  apply cutWith_found instructionToken _ rfl
  · exact cutInstruction_found (bytesOf tail) fun within =>
      closed (infix_of_bytesOf ['?', '>'] (by simp) within)
  · simp [instructionToken]

theorem next_aside (skipped : Aside) :
    Token.next none (bytesOf (skipped.written ++ tail)) = .ok (some (.aside, bytesOf tail)) := by
  cases skipped with
  | comment content closed => exact next_comment closed
  | instruction content closed => exact next_instruction closed

def Plain (name : List Char) : Prop := name ≠ [] ∧ ∀ c ∈ name, 97 ≤ c.toNat ∧ c.toNat ≤ 122

instance (name : List Char) : Decidable (Plain name) :=
  decidable_of_iff (name ≠ [] ∧ (name.all fun c => 97 ≤ c.toNat && c.toNat ≤ 122) = true)
    (by simp [Plain])

variable {name : List Char}

theorem Plain.bytes (plain : Plain name) : bytesOf name ≠ [] ∧
    ∀ b ∈ bytesOf name, 97 ≤ b.toNat ∧ b.toNat ≤ 122 := by
  have ascii : ∀ c ∈ name, c.toNat < 0x80 := fun c member => by
    have := plain.2 c member
    omega
  refine ⟨fun none => plain.1 (bytesOf_eq_nil none), ?_⟩
  rw [bytesOf_ascii ascii]
  intro b member
  obtain ⟨c, inside, rfl⟩ := List.mem_map.mp member
  rw [toNat_ascii (ascii c inside)]
  exact plain.2 c inside

theorem Plain.other (plain : Plain name) {b : UInt8} (other : b.toNat < 97) :
    ∀ c ∈ bytesOf name, c ≠ b := by
  intro c member same
  have := (plain.bytes.2 c member).1
  rw [same] at this
  omega

theorem Plain.bare (plain : Plain name) :
    ∀ c ∈ bytesOf name, c ≠ 0x22 ∧ c ≠ 0x27 ∧ c ≠ 0x3E := fun c member =>
  ⟨plain.other (by decide) c member, plain.other (by decide) c member,
    plain.other (by decide) c member⟩

theorem Plain.unspaced (plain : Plain name) {b : UInt8} (member : b ∈ bytesOf name) :
    isSpace b = false := by
  have other : ∀ x : UInt8, x.toNat < 97 → (b == x) = false := fun x small =>
    beq_eq_false_iff_ne.mpr (plain.other small b member)
  simp [isSpace, other]

theorem Plain.nameOf (plain : Plain name) (rest : List UInt8)
    (ends : ∀ b ∈ rest.head?, isSpace b = true) : nameOf (bytesOf name ++ rest) = bytesOf name := by
  rw [Xml.nameOf, List.takeWhile_append_of_pos fun b member => by rw [plain.unspaced member]; rfl]
  cases rest with
  | nil => rw [List.takeWhile_nil, List.append_nil]
  | cons b rest => simp [ends b rfl]

theorem Plain.ofMarkup (plain : Plain name) (rest : List UInt8) :
    Token.ofMarkup none (bytesOf name ++ rest) =
      cutWith none .tag (cutTag none [] (bytesOf name ++ rest))
        (fun content => .ok (openingToken content)) := by
  cases spelled : bytesOf name with
  | nil => exact absurd spelled plain.bytes.1
  | cons first letters =>
    have other : ∀ x : UInt8, x.toNat < 97 → (first == x) = false := fun x small =>
      beq_eq_false_iff_ne.mpr (plain.other small first (spelled ▸ List.mem_cons_self))
    simp [Token.ofMarkup, other]

theorem next_opening (plain : Plain name) :
    Token.next none (bytesOf ("<".toList ++ name ++ ">".toList ++ tail)) =
      .ok (some (.opening (bytesOf name), bytesOf tail)) := by
  have bytes : bytesOf ("<".toList ++ name ++ ">".toList ++ tail) =
      0x3C :: (bytesOf name ++ 0x3E :: bytesOf tail) := by
    simp [bytesOf_append, bytesOf_cons]
    rfl
  rw [bytes]
  apply cutWith_found _ (bytesOf name) (plain.ofMarkup _)
  · rw [cutTag_bare _ plain.bare, cutTag]
    simp
  · have last : (bytesOf name).getLast? ≠ some 0x2F := fun slash =>
      plain.other (by decide) _ (List.mem_of_getLast? slash) rfl
    have whole := plain.nameOf [] (by simp)
    rw [List.append_nil] at whole
    simp [openingToken, last, whole]

theorem next_declared {space : List Char} (plain : Plain name) (unquoted : '"' ∉ space) :
    Token.next none (bytesOf ("<".toList ++ name ++
        (" xmlns=\"".toList ++ space ++ "\"".toList) ++ ">".toList ++ tail)) =
      .ok (some (.opening (bytesOf name), bytesOf tail)) := by
  have mark : bytesOf " xmlns=".toList = [0x20, 0x78, 0x6D, 0x6C, 0x6E, 0x73, 0x3D] := by
    simp [bytesOf_cons]
    rfl
  have bytes : bytesOf ("<".toList ++ name ++ (" xmlns=\"".toList ++ space ++ "\"".toList) ++
      ">".toList ++ tail) = 0x3C :: (bytesOf name ++ (bytesOf " xmlns=".toList ++
        0x22 :: (bytesOf space ++ 0x22 :: 0x3E :: bytesOf tail))) := by
    simp [bytesOf_append, bytesOf_cons]
    rfl
  rw [bytes]
  apply cutWith_found _
    (bytesOf name ++ (bytesOf " xmlns=".toList ++ 0x22 :: (bytesOf space ++ [0x22])))
    (plain.ofMarkup _)
  · rw [cutTag_bare _ plain.bare, cutTag_bare _ (by rw [mark]; simp), cutTag]
    simp only [beq_self_eq_true, Bool.true_or, if_true]
    rw [cutTag_quoted]
    · rw [cutTag]
      simp
    · exact fun member => unquoted (mem_bytesOf (c := '"') (by decide) member)
  · have whole := plain.nameOf
      (bytesOf " xmlns=".toList ++ 0x22 :: (bytesOf space ++ [0x22])) (by rw [mark]; simp [isSpace])
    have last : (bytesOf name ++ (bytesOf " xmlns=".toList ++
        0x22 :: (bytesOf space ++ [0x22]))).getLast? = some 0x22 := by
      rw [← List.cons_append, ← List.append_assoc, ← List.append_assoc, List.getLast?_concat]
    unfold openingToken
    rw [last, whole]
    rfl

theorem next_closing (plain : Plain name) :
    Token.next none (bytesOf ("</".toList ++ name ++ ">".toList ++ tail)) =
      .ok (some (.closing (bytesOf name), bytesOf tail)) := by
  have bytes : bytesOf ("</".toList ++ name ++ ">".toList ++ tail) =
      0x3C :: 0x2F :: (bytesOf name ++ 0x3E :: bytesOf tail) := by
    simp [bytesOf_append, bytesOf_cons]
    rfl
  rw [bytes]
  apply cutWith_found (fun content => .ok (closingToken content)) (bytesOf name) rfl
  · rw [cutTag_bare _ plain.bare, cutTag]
    simp
  · have unspaced : (bytesOf name).reverse.dropWhile isSpace = (bytesOf name).reverse := by
      cases backwards : (bytesOf name).reverse with
      | nil => rfl
      | cons last letters =>
        have member : last ∈ bytesOf name := List.mem_reverse.mp (backwards ▸ List.mem_cons_self)
        rw [List.dropWhile_cons_of_neg (by simp [plain.unspaced member])]
    simp [closingToken, unspaced]

end Tokens

end Sitemaps.Xml
