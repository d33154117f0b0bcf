import Sitemaps.Proofs.Domains
import Sitemaps.Proofs.Encoding
import Sitemaps.Proofs.Vouching

/-!
The text of a root that was read is read as the same root: hosts and ports are written in the form
in which they are read back.
-/

namespace Sitemaps

namespace Url

section Texts

variable {c : Char} {text rest : List Char}

theorem percentDecode_plain (plain : '%' ∉ text) :
    percentDecode text = Text.Utf8.bytesOf text := by
  induction text with
  | nil => rw [percentDecode, Text.Utf8.bytesOf, List.flatMap_nil]
  | cons c text ih =>
    obtain ⟨here, later⟩ : '%' ≠ c ∧ '%' ∉ text := by simpa using plain
    have alone : Text.Utf8.encode (String.singleton c) = String.utf8EncodeChar c := by
      have spelled := Text.Utf8.encode_ofList [c]
      rwa [Text.Utf8.bytesOf, List.flatMap_singleton] at spelled
    rw [percentDecode, ih later, alone, Text.Utf8.bytesOf_cons]
    intro a b more same
    cases same
    exact absurd rfl here

structure Kept (c : Char) : Prop where
  visible : 0x20 < c.toNat
  ascii : c.toNat < 0x80
  within : endsAuthority .special c = false
  named : c ≠ '@'

theorem kept_iff : Kept c ↔ 0x20 < c.toNat ∧ c.toNat < 0x80 ∧
    endsAuthority .special c = false ∧ c ≠ '@' :=
  ⟨fun kept => ⟨kept.visible, kept.ascii, kept.within, kept.named⟩,
    fun ⟨visible, ascii, within, named⟩ => ⟨visible, ascii, within, named⟩⟩

instance : Decidable (Kept c) := decidable_of_iff _ kept_iff.symm

theorem Kept.unslashed (kept : Kept c) : isSlash c = false := by
  have within := kept.within
  simp only [endsAuthority, isSeparator, Kind.isSpecial, Bool.true_and,
    Bool.or_eq_false_iff] at within
  simp [isSlash, within.1]

theorem cleaned_visible (visible : ∀ c ∈ text, 0x20 < c.toNat ∧ c.toNat < 0x80) :
    cleaned (Text.trimChars text) = text := by
  have whole : ∀ drops : Char → Bool, (∀ c, 0x20 < c.toNat → c.toNat < 0x80 → drops c = false) →
      ∀ text : List Char, (∀ c ∈ text, 0x20 < c.toNat ∧ c.toNat < 0x80) →
        text.dropWhile drops = text := by
    intro drops none text visible
    cases text with
    | nil => rfl
    | cons c text =>
      obtain ⟨high, low⟩ := visible c List.mem_cons_self
      rw [List.dropWhile_cons, none c high low]
      rfl
  have blank : ∀ c, 0x20 < c.toNat → c.toNat < 0x80 → Text.isBlank c = false := by
    intro c high low
    simp only [Text.isBlank, Bool.or_eq_false_iff, Bool.and_eq_false_iff, decide_eq_false_iff_not,
      beq_eq_false_iff_ne]
    omega
  have edge : ∀ c, 0x20 < c.toNat → c.toNat < 0x80 → isEdge c = false := by
    intro c high low
    simpa [isEdge] using high
  have within : ∀ c ∈ text, (!isBreak c) = true := by
    intro c member
    have high := (visible c member).1
    rw [Bool.not_eq_true', isBreak]
    simp only [Bool.or_eq_false_iff, beq_eq_false_iff_ne]
    refine ⟨⟨?_, ?_⟩, ?_⟩ <;> rintro rfl <;> exact absurd high (by decide)
  have backward : ∀ c ∈ text.reverse, 0x20 < c.toNat ∧ c.toNat < 0x80 := by simpa using visible
  unfold cleaned Text.trimChars Text.trimRight Text.trimLeft
  rw [whole _ blank _ visible, whole _ blank _ backward, List.reverse_reverse,
    whole _ edge _ visible, whole _ edge _ backward, List.reverse_reverse, List.filter_eq_self]
  exact within

theorem hostText_outside (plain : ∀ c ∈ text, c ≠ ':' ∧ c ≠ '[') :
    hostText false (text ++ rest) = text ++ hostText false rest := by
  induction text with
  | nil => rfl
  | cons c text ih =>
    obtain ⟨⟨colon, opening⟩, later⟩ := List.forall_mem_cons.mp plain
    simp [hostText, colon, opening, ih later]

theorem hostText_inside (closed : ']' ∉ text) :
    hostText true (text ++ rest) = text ++ hostText true rest := by
  induction text with
  | nil => rfl
  | cons c text ih =>
    obtain ⟨here, later⟩ : ']' ≠ c ∧ ']' ∉ text := by simpa using closed
    simp [hostText, here.symm, ih later]

end Texts

section Hosts

variable {c : Char} {text rest name : List Char} {host : Host}

def Named (name : List Char) (host : Host) : Prop :=
  if Ipv4.endsInNumber name then ∃ address, Ipv4.address? name = some address ∧ host = .ipv4 address
  else host = .domain (String.ofList name)

theorem named_iff : Named name host ↔ (if Ipv4.endsInNumber name then
    match Ipv4.address? name with
    | some address => Except.ok (Host.ipv4 address)
    | none => Except.error Fault.badIpv4
    else Except.ok (Host.domain (String.ofList name))) = Except.ok host := by
  unfold Named
  split
  · cases Ipv4.address? name with
    | none => simp
    | some address => simp [eq_comm]
  · simp [eq_comm]

theorem specialHost_ok (unbracketed : text.head? ≠ some '[') : specialHost text = .ok host ↔
    ∃ plain name, Text.Utf8.decode (percentDecode text) = .ok plain ∧
      Domain.toAscii plain = some name ∧ name ≠ [] ∧ Named name host := by
  unfold specialHost
  rw [if_neg (by simpa using unbracketed)]
  cases Text.Utf8.decode (percentDecode text) with
  | error fault => simp [Except.toOption]
  | ok plain =>
    cases ascii : Domain.toAscii plain with
    | none => simp [Except.toOption, ascii]
    | some name =>
      cases name with
      | nil => simp [Except.toOption, ascii]
      | cons c name =>
        simp only [Except.toOption, Option.bind_some, ascii]
        constructor
        · intro read
          exact ⟨plain, c :: name, rfl, ascii, List.cons_ne_nil c name, named_iff.mpr read⟩
        · rintro ⟨_, _, same, found, -, named⟩
          cases same
          rw [ascii] at found
          cases found
          exact named_iff.mp named

theorem isDigit_plain (digit : c.isDigit = true) : Domain.Plain c ∧ c ≠ '.' := by
  obtain ⟨dotless, listed⟩ := Domain.isDigit_mark digit
  exact ⟨Domain.plain_marks c listed, dotless⟩

theorem label?_digits (digits : ∀ c ∈ text, c.isDigit = true) :
    Domain.label? text = some ⟨text, text⟩ := by
  have bare : ¬ Domain.acePrefix.isPrefixOf text = true := by
    rw [List.isPrefixOf_iff_prefix]
    rintro ⟨rest, rfl⟩
    cases digits 'x' (by simp [Domain.acePrefix])
  have ascii : text.all Domain.isAscii = true :=
    Domain.isAscii_iff.mpr fun c member => (isDigit_plain (digits c member)).1.ascii
  rw [Domain.label?, if_neg bare, if_pos ascii]

theorem toAscii_digits {pieces : List (List Char)} (filled : pieces ≠ [])
    (digits : ∀ piece ∈ pieces, ∀ c ∈ piece, c.isDigit = true) :
    Domain.toAscii (Domain.joinWithDots pieces) = some (Domain.joinWithDots pieces) := by
  have labelled : pieces.mapM Domain.label? = some (pieces.map fun piece => ⟨piece, piece⟩) := by
    rw [mapM_iff, List.forall₂_map_right_iff, List.forall₂_same]
    exact fun piece listed => label?_digits (digits piece listed)
  have written : (pieces.map fun piece => (⟨piece, piece⟩ : Domain.Label)).map (·.written) =
      pieces := by
    rw [List.map_map]
    exact List.map_id pieces
  have oneWay : (pieces.map fun piece => (⟨piece, piece⟩ : Domain.Label)).any
      (·.text.any Domain.isRightToLeft) = false := by
    simp only [List.any_map, Function.comp_def, List.any_eq_false, List.any_eq_true]
    rintro piece listed ⟨c, within, backward⟩
    rw [Domain.isDigit_direction (digits piece listed c within)] at backward
    cases backward
  have again : ((pieces.map fun piece => (⟨piece, piece⟩ : Domain.Label)).map
      (·.written)).mapM Domain.label? = some (pieces.map fun piece => ⟨piece, piece⟩) := by
    rw [written, labelled]
  have plain : ∀ piece ∈ (pieces.map fun piece => (⟨piece, piece⟩ : Domain.Label)).map
      (·.written), ∀ c ∈ piece, Domain.Plain c ∧ c ≠ '.' := by
    rw [written]
    exact fun piece listed c within => isDigit_plain (digits piece listed c within)
  have whole := Domain.toAscii_plain (by simpa using filled) again plain
    (by rw [oneWay, Bool.false_and]; decide)
  rw [written] at whole
  exact whole.1

/-- What the text of a host is read back from, with and without a port behind it. -/
structure Spelled (host : Host) (text : List Char) : Prop where
  filled : text ≠ []
  kept : ∀ c ∈ text, Kept c
  read : specialHost text = .ok host
  ends : ∀ rest, hostText false (text ++ rest) = text ++ hostText false rest

theorem plain_kept (plain : Domain.Plain c) :
    Kept c ∧ (c ≠ ':' ∧ c ≠ '[') ∧ c ≠ '%' := by
  have other : ∀ mark, Domain.isForbidden mark = true → c ≠ mark := by
    rintro mark forbidden rfl
    rw [plain.allowed] at forbidden
    cases forbidden
  have visible : 0x20 < c.toNat := by
    by_contra low
    have forbidden : Domain.isForbidden c = true := by
      simp [Domain.isForbidden, Nat.le_of_not_lt low]
    exact other c forbidden rfl
  have within : endsAuthority .special c = false := by
    simp [endsAuthority, isSeparator, endsPath, Kind.isSpecial, other '/' (by decide),
      other '\\' (by decide), other '?' (by decide), other '#' (by decide)]
  exact ⟨⟨visible, plain.ascii, within, other '@' (by decide)⟩,
    ⟨other ':' (by decide), other '[' (by decide)⟩, other '%' (by decide)⟩

theorem spelled_name (filled : name ≠ []) (ascii : Domain.toAscii name = some name)
    (plain : ∀ c ∈ name, Domain.Plain c) (named : Named name host) : Spelled host name where
  filled := filled
  kept := fun c member => (plain_kept (plain c member)).1
  read := by
    have first : name.head? ≠ some '[' := fun opening =>
      (plain_kept (plain '[' (List.mem_of_mem_head? opening))).2.1.2 rfl
    have bytes : percentDecode name = Text.Utf8.bytesOf name :=
      percentDecode_plain fun percent => (plain_kept (plain '%' percent)).2.2 rfl
    rw [specialHost_ok first, bytes, Text.Utf8.decode_bytesOf]
    exact ⟨name, name, rfl, ascii, filled, named⟩
  ends := fun _ => hostText_outside fun c member => (plain_kept (plain c member)).2.1

theorem spelled_ipv4 {address : Nat} (small : address < 2 ^ 32) :
    Spelled (.ipv4 address) (Ipv4.text address).toList := by
  have joined : (Ipv4.text address).toList = Domain.joinWithDots (Ipv4.pieces address) := by
    rw [Ipv4.toList_text, Domain.joinWithDots_eq]
  have digits : ∀ piece ∈ Ipv4.pieces address, ∀ c ∈ piece, c.isDigit = true :=
    fun piece listed => (Ipv4.pieces_digits listed).2
  have named : Named (Ipv4.text address).toList (.ipv4 address) := by
    rw [Named, if_pos (Ipv4.endsInNumber_text address)]
    exact ⟨address, Ipv4.address?_text small, rfl⟩
  have ascii : Domain.toAscii (Ipv4.text address).toList = some (Ipv4.text address).toList := by
    rw [joined]
    exact toAscii_digits (by simp [Ipv4.pieces]) digits
  have filled : (Ipv4.text address).toList ≠ [] := by
    intro empty
    have ends := Ipv4.endsInNumber_text address
    rw [empty] at ends
    cases ends
  exact spelled_name filled ascii (Domain.toAscii_self ascii).2 named

theorem bracketed_spelled {groups : List Nat} (read : Ipv6.address? text = some groups) :
    bracketed ('[' :: (text ++ [']'])) = .ok (.ipv6 groups) := by
  have last : ('[' :: (text ++ [']'])).getLast? = some ']' := by
    rw [← List.cons_append]
    exact List.getLast?_concat
  simp [bracketed, read, last]

theorem spelled_ipv6 {groups : List Nat} (eight : groups.length = 8)
    (small : ∀ n ∈ groups, n < 65536) :
    Spelled (.ipv6 groups) ('[' :: ((Ipv6.text groups).toList ++ [']'])) where
  filled := List.cons_ne_nil _ _
  kept := by
    have digits : ∀ d ∈ List.range 16, Kept (Nat.digitChar d) := by decide
    intro c member
    rcases List.mem_cons.mp member with rfl | member
    · decide
    · rcases List.mem_append.mp member with inside | closing
      · rcases Ipv6.mem_text inside with rfl | ⟨d, small, rfl⟩
        · decide
        · exact digits d (List.mem_range.mpr small)
      · rw [List.mem_singleton.mp closing]
        decide
  read := by
    rw [specialHost, if_pos (by simp), bracketed_spelled (Ipv6.address?_text eight small)]
  ends := by
    have closed : ']' ∉ (Ipv6.text groups).toList := by
      intro closing
      rcases Ipv6.mem_text closing with colon | ⟨d, small, same⟩
      · cases colon
      · have all : ∀ d ∈ List.range 16, Nat.digitChar d ≠ ']' := by decide
        exact all d (List.mem_range.mpr small) same.symm
    intro rest
    rw [List.cons_append, List.append_assoc, hostText, if_neg (by decide), if_pos (by decide),
      hostText_inside closed]
    simp [hostText]

theorem specialHost_spelled (read : specialHost text = .ok host) :
    Spelled host host.text.toList := by
  by_cases opening : text.head? = some '['
  · rw [specialHost, if_pos (by simpa using opening), bracketed] at read
    split at read
    · split at read
      next groups known =>
        cases read
        obtain ⟨eight, small⟩ := Ipv6.address?_bounds known
        have same : (Host.ipv6 groups).text.toList =
            '[' :: ((Ipv6.text groups).toList ++ [']']) := by
          simp [Host.text]
        rw [same]
        exact spelled_ipv6 eight small
      · cases read
    · cases read
  · obtain ⟨plain, name, -, ascii, filled, named⟩ := (specialHost_ok opening).mp read
    obtain ⟨again, each⟩ := Domain.toAscii_self ascii
    have kept := named
    unfold Named at kept
    split at kept
    · obtain ⟨address, known, rfl⟩ := kept
      exact spelled_ipv4 (Ipv4.address?_lt known)
    · cases kept
      have same : (Host.domain (String.ofList name)).text.toList = name := String.toList_ofList
      rw [same]
      exact spelled_name filled again each named

end Hosts

section Ports

variable {scheme : String} {text : List Char} {port : Option Nat}

/-- A port that is written: none, or one that is not the default of the scheme. -/
def Shown (scheme : String) (port : Option Nat) : Prop :=
  ∀ n ∈ port, n ≤ 65535 ∧ defaultPort? scheme ≠ some n

theorem port?_shown (read : port? scheme text = .ok port) : Shown scheme port := by
  unfold port? at read
  dsimp only at read
  split at read
  · cases read
    nofun
  · split at read
    · split at read
      · cases read
      next few =>
        cases read
        intro n kept
        rw [Option.mem_def, Option.ite_none_left_eq_some] at kept
        obtain ⟨other, same⟩ := kept
        cases same
        exact ⟨Nat.le_of_not_lt few, other⟩
    · cases read

theorem digits?_decimal (digits : ∀ c ∈ text, c.isDigit = true) :
    Ipv4.digits? 10 text = some (text.map fun c => c.toNat - 48) := by
  rw [Ipv4.digits?, mapM_iff, List.forall₂_map_right_iff, List.forall₂_same]
  intro c member
  have digit : '0' ≤ c ∧ c ≤ '9' := by
    simpa [Char.isDigit, Char.le_def] using digits c member
  have bounds : c.toNat ≤ 57 := digit.2
  rw [Text.hexValue?, if_pos digit]
  simp
  omega

theorem port?_digits {n : Nat} (small : n ≤ 65535) (other : defaultPort? scheme ≠ some n) :
    port? scheme (Nat.toDigits 10 n) = .ok (some n) := by
  have digits : ∀ c ∈ Nat.toDigits 10 n, c.isDigit = true := fun c member =>
    Nat.isDigit_of_mem_toDigits (by decide) (by decide) member
  have number : Text.ofDigits 10 ((Nat.toDigits 10 n).map fun c => c.toNat - 48) = n := by
    have read := digits?_toDigits (by decide : 1 < 10) (by decide) n
    rw [digits?_decimal digits] at read
    exact Option.some.inj read
  have filled : (Nat.toDigits 10 n).isEmpty = false :=
    List.isEmpty_eq_false_iff.mpr Nat.toDigits_ne_nil
  unfold port?
  rw [filled, List.all_eq_true.mpr digits, number]
  simp [small, other]

end Ports

section Sites

variable {scheme : String} {rest site slashes : List Char} {host : Host} {port : Option Nat}

def portChars (port : Option Nat) : List Char := (portText port).toList

theorem portChars_shown (shown : Shown scheme port) : (∀ c ∈ portChars port, Kept c) ∧
    hostText false (portChars port) = [] ∧
      port? scheme ((portChars port).drop 1) = .ok port := by
  cases port with
  | none => exact ⟨nofun, rfl, rfl⟩
  | some n =>
    obtain ⟨small, other⟩ := shown n rfl
    have digits : (toString n).toList = Nat.toDigits 10 n := Nat.toList_repr
    have spelled : portChars (some n) = ':' :: Nat.toDigits 10 n := by
      rw [portChars, portText, String.toList_append, digits]
      rfl
    rw [spelled]
    refine ⟨List.forall_mem_cons.mpr ⟨by decide, ?_⟩, rfl, port?_digits small other⟩
    intro c member
    exact (plain_kept (isDigit_plain
      (Nat.isDigit_of_mem_toDigits (by decide) (by decide) member)).1).1

theorem scheme?_colon {c : Char} {name : List Char} (alpha : c.isAlpha = true)
    (within : ∀ d ∈ c :: name, isSchemeChar d = true) : scheme? (c :: name ++ ':' :: rest) =
      some (String.ofList ((c :: name).map Char.toLower), rest) := by
  have colon : isSchemeChar ':' = false := by decide
  have left : (c :: name ++ ':' :: rest).dropWhile isSchemeChar = ':' :: rest := by
    rw [List.dropWhile_append_of_pos within]
    simp [colon]
  have taken : (c :: name ++ ':' :: rest).takeWhile isSchemeChar = c :: name := by
    rw [List.takeWhile_append_of_pos within]
    simp [colon]
  rw [List.cons_append] at left taken ⊢
  rw [scheme?_ok, taken]
  exact ⟨alpha, left, rfl⟩

theorem siteText_kept (kept : ∀ c ∈ site, Kept c) (only : ∀ c ∈ slashes, c = '/') :
    siteText (site ++ slashes) = site := by
  have behind : slashes.takeWhile (!endsAuthority .special ·) = [] := by
    cases slashes with
    | nil => rfl
    | cons c more =>
      rw [only c List.mem_cons_self]
      rfl
  have inside : (site ++ slashes).takeWhile (!endsAuthority .special ·) = site := by
    rw [List.takeWhile_append_of_pos (fun c member => by simpa using (kept c member).within),
      behind, List.append_nil]
  have unnamed : site.reverse.takeWhile (· != '@') = site.reverse := by
    rw [List.takeWhile_eq_self_iff]
    intro c member
    simpa using (kept c (List.mem_reverse.mp member)).named
  simp [siteText, inside, cutUserinfo, unnamed]

/-- A host and a port are found again where they are written, whether or not a path follows. -/
theorem located_again (special : kindOf scheme = .special)
    (located : Located scheme rest host port) (only : ∀ c ∈ slashes, c = '/') :
    (∀ c ∈ host.text.toList ++ portChars port, Kept c) ∧ host.text.toList ≠ [] ∧
      Located scheme (host.text.toList ++ portChars port ++ slashes) host port := by
  obtain ⟨-, read, shown⟩ := (located_special special).mp located
  have spelled := specialHost_spelled read
  obtain ⟨kept, ends, again⟩ := portChars_shown (port?_shown shown)
  have all : ∀ c ∈ host.text.toList ++ portChars port, Kept c :=
    List.forall_mem_append.mpr ⟨spelled.kept, kept⟩
  have named : hostText false (host.text.toList ++ portChars port) = host.text.toList := by
    rw [spelled.ends, ends, List.append_nil]
  have behind : ((portChars port).drop 1).takeWhile (!isSlash ·) = (portChars port).drop 1 := by
    rw [List.takeWhile_eq_self_iff]
    intro c member
    rw [(kept c (List.mem_of_mem_drop member)).unslashed]
    rfl
  refine ⟨all, spelled.filled, (located_special special).mpr ?_⟩
  rw [siteText_kept all only, named, List.drop_left, behind]
  exact ⟨spelled.filled, spelled.read, again⟩

end Sites

end Url

theorem WebScheme.letters (web : WebScheme) : ∃ c name, web.name.toList = c :: name ∧
    c.isAlpha = true ∧ (∀ d ∈ c :: name, Url.isSchemeChar d = true) ∧
      String.ofList ((c :: name).map Char.toLower) = web.name := by
  cases web with
  | http => exact ⟨'h', ['t', 't', 'p'], by decide, by decide,
      List.all_eq_true.mp (by decide), by decide⟩
  | https => exact ⟨'h', ['t', 't', 'p', 's'], by decide, by decide,
      List.all_eq_true.mp (by decide), by decide⟩

theorem WebScheme.visible (web : WebScheme) :
    ∀ c ∈ web.name.toList ++ [':', '/', '/'], 0x20 < c.toNat ∧ c.toNat < 0x80 := by
  have all : ((web.name.toList ++ [':', '/', '/']).all fun c =>
      0x20 < c.toNat && c.toNat < 0x80) = true := by
    cases web <;> decide
  intro c member
  simpa using List.all_eq_true.mp all c member

namespace Root

theorem toList_of (web : WebScheme) (host : Url.Host) (port : Option Nat) :
    (of web host port).text.toList =
      web.name.toList ++ ':' :: '/' :: '/' :: (host.text.toList ++ Url.portChars port) := by
  simp [of, Url.portChars, String.toList_append]

theorem visible_slashes {web : WebScheme} {host : Url.Host} {port : Option Nat}
    {slashes : List Char} (kept : ∀ c ∈ host.text.toList ++ Url.portChars port, Url.Kept c)
    (only : ∀ c ∈ slashes, c = '/') :
    ∀ c ∈ (of web host port).text.toList ++ slashes, 0x20 < c.toNat ∧ c.toNat < 0x80 := by
  have parted : (of web host port).text.toList ++ slashes = (web.name.toList ++ [':', '/', '/']) ++
      ((host.text.toList ++ Url.portChars port) ++ slashes) := by
    rw [toList_of]
    simp
  rw [parted]
  refine List.forall_mem_append.mpr ⟨web.visible, List.forall_mem_append.mpr ⟨?_, ?_⟩⟩
  · exact fun c member => ⟨(kept c member).visible, (kept c member).ascii⟩
  · intro c member
    rw [only c member]
    decide

theorem scheme?_name (web : WebScheme) (rest : List Char) :
    Url.scheme? (web.name.toList ++ ':' :: rest) = some (web.name, rest) := by
  obtain ⟨c, name, starts, alpha, within, same⟩ := web.letters
  rw [starts, Url.scheme?_colon alpha within, same]

theorem parse_text_slashes {text : String} {root : Root} (read : parse text = .ok root)
    {slashes : List Char} (only : ∀ c ∈ slashes, c = '/') :
    parse (String.ofList (root.text.toList ++ slashes)) = .ok root := by
  obtain ⟨web, rest, host, port, -, located, rfl⟩ := parse_ok.mp read
  obtain ⟨kept, filled, again⟩ := Url.located_again web.special located only
  have whole : (of web host port).text.toList ++ slashes = web.name.toList ++
      ':' :: '/' :: '/' :: (host.text.toList ++ Url.portChars port ++ slashes) := by
    rw [toList_of]
    simp
  have behind : ('/' :: '/' :: (host.text.toList ++ Url.portChars port ++ slashes)).dropWhile
      Url.isSlash = host.text.toList ++ Url.portChars port ++ slashes := by
    obtain ⟨c, tail, starts⟩ := List.exists_cons_of_ne_nil filled
    have first : Url.isSlash c = false := (kept c (by simp [starts])).unslashed
    have slash : Url.isSlash '/' = true := by decide
    simp [slash, starts, first]
  rw [parse_ok, String.toList_ofList, Url.cleaned_visible (visible_slashes kept only), whole,
    scheme?_name]
  refine ⟨web, _, host, port, rfl, ?_, rfl⟩
  rw [behind]
  exact again

theorem parse_text {text : String} {root : Root} (read : parse text = .ok root) :
    parse root.text = .ok root := by
  have again := parse_text_slashes read (List.forall_mem_nil _)
  rwa [List.append_nil, String.ofList_toList] at again

end Root

end Sitemaps
