import Mathlib.Data.List.Forall2
import Mathlib.Data.List.TakeWhile
import Mathlib.Tactic.Ring
import Sitemaps.Url.Address

/-! Internet addresses are read back from the text that they are written in. -/

namespace Sitemaps.Url

section Cuts

variable {mark : Char} {piece text : List Char} {pieces : List (List Char)}

theorem cutAt_last (unmarked : mark ∉ piece) : cutAt mark piece = [piece] := by
  induction piece with
  | nil => rfl
  | cons c piece ih =>
    obtain ⟨here, later⟩ : mark ≠ c ∧ mark ∉ piece := by simpa using unmarked
    simp [cutAt, ih later, here.symm]

theorem exists_cutAt (mark : Char) (text : List Char) :
    ∃ first rest, cutAt mark text = first :: rest := by
  induction text with
  | nil => exact ⟨[], [], rfl⟩
  | cons c text ih =>
    obtain ⟨first, rest, cut⟩ := ih
    simp only [cutAt, cut]
    split
    · exact ⟨_, _, rfl⟩
    · exact ⟨_, _, rfl⟩

theorem cutAt_mark (unmarked : mark ∉ piece) :
    cutAt mark (piece ++ mark :: text) = piece :: cutAt mark text := by
  induction piece with
  | nil =>
    obtain ⟨first, rest, cut⟩ := exists_cutAt mark text
    simp [cutAt, cut]
  | cons c piece ih =>
    obtain ⟨here, later⟩ : mark ≠ c ∧ mark ∉ piece := by simpa using unmarked
    simp [cutAt, ih later, here.symm]

theorem cutAt_intercalate (filled : pieces ≠ []) (unmarked : ∀ piece ∈ pieces, mark ∉ piece) :
    cutAt mark ([mark].intercalate pieces) = pieces := by
  induction pieces with
  | nil => exact absurd rfl filled
  | cons piece pieces ih =>
    obtain ⟨here, later⟩ := List.forall_mem_cons.mp unmarked
    cases pieces with
    | nil => simpa using cutAt_last here
    | cons second rest =>
      rw [List.intercalate_cons_cons, List.append_assoc, List.singleton_append, cutAt_mark here,
        ih (by simp) later]

end Cuts

theorem mapM_iff {α β : Type} {f : α → Option β} {l : List α} {found : List β} :
    l.mapM f = some found ↔ List.Forall₂ (fun a b => f a = some b) l found := by
  induction l generalizing found with
  | nil => cases found <;> simp
  | cons a l ih =>
    simp only [List.mapM_cons, Option.bind_eq_bind, Option.bind_eq_some_iff, Option.pure_def,
      Option.some.injEq, ih, List.forall₂_cons_left_iff]
    grind

theorem mapM_all {α β : Type} {f : α → Option β} {p : β → Prop} {l : List α} {found : List β}
    (each : ∀ a b, f a = some b → p b) (read : l.mapM f = some found) : ∀ b ∈ found, p b := by
  have paired := mapM_iff.mp read
  clear read
  induction paired with
  | nil => simp
  | cons here _ ih => exact List.forall_mem_cons.mpr ⟨each _ _ here, ih⟩

section Numbers

variable {base n : Nat}

theorem hexValue?_digitChar (small : n < 16) : Text.hexValue? (Nat.digitChar n) = some n := by
  have all : ∀ n ∈ List.range 16, Text.hexValue? (Nat.digitChar n) = some n := by decide
  exact all n (List.mem_range.mpr small)

theorem digits?_toDigits (low : 1 < base) (high : base ≤ 16) (n : Nat) :
    (Ipv4.digits? base (Nat.toDigits base n)).map (Text.ofDigits base) = some n := by
  induction n using Nat.strongRecOn with
  | ind n ih =>
    have last : ∀ d < base, (Text.hexValue? (Nat.digitChar d)).filter (· < base) = some d := by
      intro d small
      rw [hexValue?_digitChar (by omega)]
      simp [small]
    by_cases small : n < base
    · rw [Nat.toDigits_of_lt_base small]
      simp [Ipv4.digits?, last n small, Text.ofDigits]
    · have shorter := ih (n / base) (Nat.div_lt_self (by omega) low)
      have digit := last (n % base) (Nat.mod_lt _ (by omega))
      obtain ⟨digits, read, number⟩ := Option.map_eq_some_iff.mp shorter
      rw [Nat.toDigits_of_base_le low (by omega)]
      unfold Ipv4.digits? at read ⊢
      have whole : n / base * base + n % base = n := by
        rw [Nat.mul_comm]
        exact Nat.div_add_mod n base
      unfold Text.ofDigits at number
      simp [List.mapM_append, read, digit, Text.ofDigits, number, whole]

end Numbers

namespace Ipv4

theorem toDigits_leads {n : Nat} (positive : 0 < n) :
    ∃ c rest, Nat.toDigits 10 n = c :: rest ∧ c ≠ '0' := by
  induction n using Nat.strongRecOn with
  | ind n ih =>
    by_cases small : n < 10
    · have digit : ∀ d < 10, 0 < d → Nat.digitChar d ≠ '0' := by decide
      exact ⟨_, [], Nat.toDigits_of_lt_base small, digit n small positive⟩
    · obtain ⟨c, rest, starts, other⟩ := ih (n / 10) (by omega) (by omega)
      rw [Nat.toDigits_of_base_le (by decide) (by omega), starts]
      exact ⟨c, _, List.cons_append, other⟩

theorem part_toDigits {n : Nat} (small : n < UInt32.size) :
    part (Nat.toDigits 10 n) = .number n := by
  rcases Nat.eq_zero_or_pos n with rfl | positive
  · decide
  · obtain ⟨c, rest, starts, other⟩ := toDigits_leads positive
    obtain ⟨digits, read, number⟩ :=
      Option.map_eq_some_iff.mp (digits?_toDigits (by decide : 1 < 10) (by decide) n)
    rw [starts] at read ⊢
    simp [part, other, read, number, small]

def pieces (address : Nat) : List (List Char) :=
  [3, 2, 1, 0].map fun place => Nat.toDigits 10 (address / Nat.pow 256 place % 256)

theorem toList_text (address : Nat) :
    (text address).toList = ['.'].intercalate (pieces address) := by
  have digits : ∀ n : Nat, (toString n).toList = Nat.toDigits 10 n := fun n => Nat.toList_repr
  rw [text, joinText, String.toList_intercalate]
  simp only [List.map_map, pieces, Function.comp_def, digits]
  rfl

theorem pieces_digits {address : Nat} {piece : List Char} (member : piece ∈ pieces address) :
    piece ≠ [] ∧ ∀ c ∈ piece, c.isDigit = true := by
  obtain ⟨place, -, rfl⟩ := List.mem_map.mp member
  exact ⟨Nat.toDigits_ne_nil, fun c digit =>
    Nat.isDigit_of_mem_toDigits (by decide) (by decide) digit⟩

theorem parts_text (address : Nat) : parts (text address).toList = pieces address := by
  have cut : cutAt '.' (text address).toList = pieces address := by
    rw [toList_text]
    refine cutAt_intercalate (by simp [pieces]) fun piece member dot => ?_
    have digit := (pieces_digits member).2 '.' dot
    cases digit
  have last : (pieces address).getLast? ≠ some [] := by
    intro empty
    exact (pieces_digits (List.mem_of_mem_getLast? empty)).1 rfl
  unfold parts
  simp [cut, last]

theorem endsInNumber_text (address : Nat) : endsInNumber (text address).toList = true := by
  have last : (pieces address).getLast? = some (Nat.toDigits 10 (address / Nat.pow 256 0 % 256)) :=
    rfl
  obtain ⟨filled, digits⟩ := pieces_digits (List.mem_of_mem_getLast? last)
  have all := List.all_eq_true.mpr digits
  simp only [endsInNumber, parts_text, last, all]
  rw [Bool.and_true, Bool.or_eq_true, Bool.not_eq_true', List.isEmpty_eq_false_iff]
  exact Or.inl filled

theorem address?_text {address : Nat} (small : address < 2 ^ 32) :
    address? (text address).toList = some address := by
  have number : ∀ n, n < 256 → number? (Nat.toDigits 10 n) = some n := by
    intro n small
    simp [number?, part_toDigits (Nat.lt_trans small (by decide))]
  have bytes : (pieces address).mapM number? = some [address / 16777216 % 256,
      address / 65536 % 256, address / 256 % 256, address % 256] := by
    simp [pieces, List.mapM_cons, number, Nat.mod_lt]
  have whole : combine 4 [address / 16777216 % 256, address / 65536 % 256, address / 256 % 256,
      address % 256] = some address := by
    simp [combine, Nat.mod_lt]
    omega
  unfold address?
  simp only [parts_text, bytes, Option.bind_some]
  rw [if_neg (by simp [pieces]), whole]

theorem combine_lt {room v : Nat} {ns : List Nat} (few : ns.length ≤ room)
    (whole : combine room ns = some v) : v < 256 ^ room := by
  induction ns generalizing room v with
  | nil => cases whole
  | cons n ns ih =>
    cases ns with
    | nil =>
      rw [combine, Option.ite_none_right_eq_some] at whole
      obtain ⟨small, same⟩ := whole
      cases same
      exact small
    | cons second rest =>
      obtain ⟨room, rfl⟩ : ∃ less, room = less + 1 := ⟨room - 1, by simp at few; omega⟩
      have step : combine (room + 1) (n :: second :: rest) = if n < 256 then
          (combine room (second :: rest)).map (n * Nat.pow 256 room + ·) else none := by
        simp [combine]
      rw [step, Option.ite_none_right_eq_some, Option.map_eq_some_iff] at whole
      obtain ⟨small, low, read, same⟩ := whole
      have below : low < 256 ^ room := ih (by simpa using few) read
      have high : n * 256 ^ room ≤ 255 * 256 ^ room := Nat.mul_le_mul_right _ (by omega)
      have sum : n * 256 ^ room + low = v := same
      rw [pow_succ]
      omega

theorem address?_lt {text : List Char} {address : Nat} (read : address? text = some address) :
    address < 2 ^ 32 := by
  unfold address? at read
  dsimp only at read
  split at read
  · cases read
  next few =>
    obtain ⟨numbers, parts, whole⟩ := Option.bind_eq_some_iff.mp read
    have length := (mapM_iff.mp parts).length_eq
    have below := combine_lt (by omega : numbers.length ≤ 4) whole
    simpa using below

end Ipv4

namespace Ipv6

section Texts

variable {n : Nat} {groups : List Nat} {pieces : List (List Char)} {before text : List Char}

def IsDigit (c : Char) : Prop := ∃ d < 16, c = Nat.digitChar d

theorem toDigits_digits (n : Nat) : ∀ c ∈ Nat.toDigits 16 n, IsDigit c := by
  induction n using Nat.strongRecOn with
  | ind n ih =>
    by_cases small : n < 16
    · rw [Nat.toDigits_of_lt_base small]
      intro c only
      exact ⟨n, small, List.mem_singleton.mp only⟩
    · rw [Nat.toDigits_of_base_le (by decide) (by omega)]
      have last : IsDigit (Nat.digitChar (n % 16)) := ⟨n % 16, Nat.mod_lt _ (by decide), rfl⟩
      exact List.forall_mem_append.mpr
        ⟨ih (n / 16) (Nat.div_lt_self (by omega) (by decide)), by simpa using last⟩

theorem IsDigit.ne {c : Char} (digit : IsDigit c) : c ≠ ':' ∧ c ≠ '.' := by
  obtain ⟨d, small, rfl⟩ := digit
  have all : ∀ d ∈ List.range 16, Nat.digitChar d ≠ ':' ∧ Nat.digitChar d ≠ '.' := by decide
  exact all d (List.mem_range.mpr small)

theorem group?_toDigits (small : n < 65536) : group? (Nat.toDigits 16 n) = some n := by
  have filled : (Nat.toDigits 16 n).isEmpty = false :=
    List.isEmpty_eq_false_iff.mpr Nat.toDigits_ne_nil
  have short : (Nat.toDigits 16 n).length ≤ 4 :=
    (Nat.length_toDigits_le_iff (by decide) (by decide)).mpr small
  unfold group?
  rw [filled, Bool.false_or, if_neg (by simpa using short)]
  exact digits?_toDigits (by decide) (by decide) n

def written (groups : List Nat) : List Char := [':'].intercalate (groups.map (Nat.toDigits 16))

theorem toList_joinText (groups : List Nat) :
    (joinText ":" (groups.map groupText)).toList = written groups := by
  rw [joinText, String.toList_intercalate, List.map_map]
  congr 2
  funext n
  exact String.toList_ofList

theorem groups?_toDigits (small : ∀ n ∈ groups, n < 65536) :
    groups? (groups.map (Nat.toDigits 16)) = some groups := by
  induction groups with
  | nil => rfl
  | cons n groups ih =>
    obtain ⟨here, later⟩ := List.forall_mem_cons.mp small
    cases groups with
    | nil => simp [groups?, group?_toDigits here]
    | cons second rest =>
      have onward := ih later
      rw [List.map_cons] at onward
      simp [groups?, group?_toDigits here, onward]

theorem written_starts (filled : groups ≠ []) :
    ∃ c tail, written groups = c :: tail ∧ IsDigit c := by
  obtain ⟨n, groups, rfl⟩ := List.exists_cons_of_ne_nil filled
  have digits : Nat.toDigits 16 n ≠ [] := Nat.toDigits_ne_nil
  obtain ⟨c, tail, starts⟩ := List.exists_cons_of_ne_nil digits
  have digit : IsDigit c := toDigits_digits n c (by simp [starts])
  cases groups with
  | nil => exact ⟨c, tail, by simp [written, starts], digit⟩
  | cons second rest =>
    exact ⟨c, tail ++ ':' :: written (second :: rest),
      by simp [written, List.intercalate_cons_cons, starts], digit⟩

theorem mem_written {c : Char} (member : c ∈ written groups) : c = ':' ∨ IsDigit c := by
  induction groups with
  | nil => cases member
  | cons n groups ih =>
    cases groups with
    | nil =>
      rw [written, List.map_singleton, List.intercalate_singleton] at member
      exact Or.inr (toDigits_digits n c member)
    | cons second rest =>
      rw [written, List.map_cons, List.map_cons, List.intercalate_cons_cons,
        List.append_assoc] at member
      rcases List.mem_append.mp member with digit | later
      · exact Or.inr (toDigits_digits n c digit)
      · rcases List.mem_cons.mp later with colon | later
        · exact Or.inl colon
        · exact ih later

theorem mem_text {c : Char} (member : c ∈ (Ipv6.text groups).toList) : c = ':' ∨ IsDigit c := by
  unfold Ipv6.text at member
  dsimp only at member
  split at member
  · rw [toList_joinText] at member
    exact mem_written member
  next start length _ =>
    rw [String.toList_append, String.toList_append, toList_joinText, toList_joinText] at member
    rcases List.mem_append.mp member with front | back
    · rcases List.mem_append.mp front with before | colon
      · exact mem_written before
      · have colons : c = ':' ∨ c = ':' := by simpa using colon
        exact Or.inl (colons.elim id id)
    · exact mem_written back

theorem side?_written (small : ∀ n ∈ groups, n < 65536) : side? (written groups) = some groups := by
  unfold side?
  split
  next empty =>
    by_contra differs
    have filled : groups ≠ [] := by
      rintro rfl
      exact differs rfl
    obtain ⟨c, tail, starts, -⟩ := written_starts filled
    rw [starts] at empty
    cases empty
  next filled =>
    have parted : groups.map (Nat.toDigits 16) ≠ [] := by
      intro empty
      rw [List.map_eq_nil_iff.mp empty] at filled
      exact filled rfl
    rw [written, cutAt_intercalate parted, groups?_toDigits small]
    intro piece member colon
    obtain ⟨n, -, rfl⟩ := List.mem_map.mp member
    exact (toDigits_digits n ':' colon).ne.1 rfl

theorem cutAtGap_digits {digits : List Char} (plain : ∀ c ∈ digits, c ≠ ':') :
    cutAtGap before (digits ++ text) = cutAtGap (digits.reverse ++ before) text := by
  induction digits generalizing before with
  | nil => rfl
  | cons c digits ih =>
    obtain ⟨here, later⟩ := List.forall_mem_cons.mp plain
    have step : cutAtGap before (c :: (digits ++ text)) =
        cutAtGap (c :: before) (digits ++ text) := by
      rw [cutAtGap]
      intro rest same
      cases same
      exact absurd rfl here
    rw [List.cons_append, step, ih later]
    simp

theorem cutAtGap_written : cutAtGap before (written groups ++ text) =
    cutAtGap ((written groups).reverse ++ before) text := by
  have plain : ∀ n, ∀ c ∈ Nat.toDigits 16 n, c ≠ ':' := fun n c member =>
    (toDigits_digits n c member).ne.1
  induction groups generalizing before with
  | nil => rfl
  | cons n groups ih =>
    cases groups with
    | nil =>
      rw [written, List.map_singleton, List.intercalate_singleton]
      exact cutAtGap_digits (plain n)
    | cons second rest =>
      have parts : written (n :: second :: rest) =
          Nat.toDigits 16 n ++ ':' :: written (second :: rest) := by
        simp [written, List.intercalate_cons_cons]
      obtain ⟨c, tail, starts, digit⟩ := written_starts (List.cons_ne_nil second rest)
      have step : ∀ before, cutAtGap before (':' :: (written (second :: rest) ++ text)) =
          cutAtGap (':' :: before) (written (second :: rest) ++ text) := by
        intro before
        rw [cutAtGap]
        intro more _ same
        rw [starts] at same
        cases same
        exact digit.ne.1 rfl
      rw [parts, List.append_assoc, cutAtGap_digits (plain n), List.cons_append, step, ih]
      simp

/-- A run of at least two zeros, by its start and its length. -/
def Zeros (groups : List Nat) (run : Nat × Nat) : Prop :=
  2 ≤ run.2 ∧ ((groups.drop run.1).takeWhile (· == 0)).length = run.2

theorem gap_zeros {run : Nat × Nat} (found : gap groups = some run) : Zeros groups run := by
  revert run
  unfold gap
  dsimp only
  apply List.foldlRecOn (motive := fun best => ∀ {run}, best = some run → Zeros groups run)
  · nofun
  intro best known next member run taken
  have counted : ((groups.drop next.1).takeWhile (· == 0)).length = next.2 := by
    obtain ⟨start, -, rfl⟩ := List.mem_map.mp member
    rfl
  split at taken
  · exact known taken
  next long =>
    have own : some next = some run → Zeros groups run := by
      intro same
      cases same
      exact ⟨by omega, counted⟩
    split at taken
    · exact own taken
    · split at taken
      · exact own taken
      · exact known taken

theorem Zeros.split {start length : Nat} (zeros : Zeros groups (start, length)) :
    groups = groups.take start ++ List.replicate length 0 ++ groups.drop (start + length) := by
  obtain ⟨-, counted⟩ := zeros
  have run : (groups.drop start).takeWhile (· == 0) = List.replicate length 0 :=
    List.eq_replicate_iff.mpr ⟨counted, fun n member => by
      simpa using List.mem_takeWhile_imp member⟩
  have whole : List.replicate length 0 ++ (groups.drop start).dropWhile (· == 0) =
      groups.drop start := by
    rw [← run, List.takeWhile_append_dropWhile]
  have rest : groups.drop (start + length) = (groups.drop start).dropWhile (· == 0) := by
    rw [← List.drop_drop, ← whole, List.drop_left' List.length_replicate, whole]
  rw [rest, List.append_assoc, whole, List.take_append_drop]

theorem address?_text (eight : groups.length = 8) (small : ∀ n ∈ groups, n < 65536) :
    address? (Ipv6.text groups).toList = some groups := by
  unfold Ipv6.text address?
  dsimp only
  cases found : gap groups with
  | none =>
    have whole : cutAtGap [] (written groups) = none := by
      have cut : cutAtGap [] (written groups ++ []) = _ := cutAtGap_written
      rw [List.append_nil] at cut
      rw [cut, cutAtGap]
    simp only [toList_joinText, whole, side?_written small]
    simp [eight]
  | some run =>
    obtain ⟨start, length⟩ := run
    have zeros := gap_zeros found
    have parted := zeros.split
    have before : ∀ n ∈ groups.take start, n < 65536 := fun n member =>
      small n (List.mem_of_mem_take member)
    have after : ∀ n ∈ groups.drop (start + length), n < 65536 := fun n member =>
      small n (List.mem_of_mem_drop member)
    have cut : cutAtGap [] (written (groups.take start) ++
        ':' :: ':' :: written (groups.drop (start + length))) =
          some (written (groups.take start), written (groups.drop (start + length))) := by
      rw [cutAtGap_written, cutAtGap]
      simp
    have dotless : (written (groups.take start)).contains '.' = false := by
      rw [← Bool.not_eq_true, List.contains_iff_mem]
      intro dot
      rcases mem_written dot with colon | digit
      · cases colon
      · exact digit.ne.2 rfl
    have text : (joinText ":" ((groups.take start).map groupText) ++ "::" ++
        joinText ":" ((groups.drop (start + length)).map groupText)).toList =
          written (groups.take start) ++ ':' :: ':' :: written (groups.drop (start + length)) := by
      rw [String.toList_append, String.toList_append, toList_joinText, toList_joinText]
      simp
    have missing : 8 - ((groups.take start).length + (groups.drop (start + length)).length) =
        length := by
      have := congrArg List.length parted
      simp at this
      simp
      omega
    have few : (groups.take start).length + (groups.drop (start + length)).length ≤ 7 := by
      have := zeros.1
      omega
    simp only [text, cut, dotless, Bool.false_eq_true, if_false, side?_written before,
      side?_written after, Option.bind_eq_bind, Option.bind_some, if_pos few, missing]
    rw [← parted]

end Texts

section Bounds

variable {text : List Char} {groups : List Nat} {n : Nat}

theorem ofDigits_lt {base : Nat} {digits : List Nat} (small : ∀ d ∈ digits, d < base) :
    Text.ofDigits base digits < base ^ digits.length := by
  have bound : ∀ n, digits.foldl (fun n d => n * base + d) n < (n + 1) * base ^ digits.length := by
    induction digits with
    | nil => simp
    | cons d digits ih =>
      intro n
      obtain ⟨here, later⟩ := List.forall_mem_cons.mp small
      calc digits.foldl (fun n d => n * base + d) (n * base + d)
          < (n * base + d + 1) * base ^ digits.length := ih later _
        _ ≤ ((n + 1) * base) * base ^ digits.length := by
          apply Nat.mul_le_mul_right
          rw [Nat.add_mul, Nat.one_mul]
          omega
        _ = (n + 1) * base ^ (d :: digits).length := by
          rw [List.length_cons, pow_succ']
          ring
  have whole := bound 0
  rw [Nat.zero_add, Nat.one_mul] at whole
  exact whole

theorem group?_lt (read : group? text = some n) : n < 65536 := by
  unfold group? at read
  split at read
  · cases read
  next short =>
    obtain ⟨digits, spelled, rfl⟩ := Option.map_eq_some_iff.mp read
    have digit : ∀ c d, (Text.hexValue? c).filter (· < 16) = some d → d < 16 := by
      intro c d found
      simpa using (Option.filter_eq_some_iff.mp found).2
    have small : ∀ d ∈ digits, d < 16 := mapM_all digit spelled
    have length : text.length = digits.length := (mapM_iff.mp spelled).length_eq
    have few : digits.length ≤ 4 := by
      simp at short
      omega
    calc Text.ofDigits 16 digits < 16 ^ digits.length := ofDigits_lt small
      _ ≤ 16 ^ 4 := Nat.pow_le_pow_right (by decide) few
      _ = 65536 := rfl

theorem byte?_lt (read : byte? text = some n) : n < 256 := by
  unfold byte? at read
  split at read
  · cases read
  · cases read
  · rw [Option.ite_none_left_eq_some, Option.filter_eq_some_iff] at read
    simpa using read.2.2

theorem dotted?_lt (read : dotted? text = some groups) : ∀ n ∈ groups, n < 65536 := by
  unfold dotted? at read
  split at read
  next a b c d bytes =>
    have small := mapM_all (fun _ _ => byte?_lt) bytes
    simp only [List.forall_mem_cons] at small
    cases read
    simp only [List.forall_mem_cons]
    exact ⟨by omega, by omega, by simp⟩
  · cases read

theorem groups?_lt {pieces : List (List Char)} (read : groups? pieces = some groups) :
    ∀ n ∈ groups, n < 65536 := by
  induction pieces generalizing groups with
  | nil =>
    cases read
    simp
  | cons piece pieces ih =>
    cases pieces with
    | nil =>
      rw [groups?, Option.orElse_eq_orElse, Option.orElse_eq_or, Option.or_eq_some_iff] at read
      rcases read with whole | ⟨-, dotted⟩
      · obtain ⟨n, found, rfl⟩ := Option.map_eq_some_iff.mp whole
        simpa using group?_lt found
      · exact dotted?_lt dotted
    | cons second rest =>
      simp only [groups?, Option.bind_eq_bind, Option.bind_eq_some_iff, Option.some.injEq] at read
      obtain ⟨n, here, more, later, rfl⟩ := read
      exact List.forall_mem_cons.mpr ⟨group?_lt here, ih later⟩

theorem side?_lt (read : side? text = some groups) : ∀ n ∈ groups, n < 65536 := by
  unfold side? at read
  split at read
  · cases read
    simp
  · exact groups?_lt read

theorem address?_bounds (read : address? text = some groups) :
    groups.length = 8 ∧ ∀ n ∈ groups, n < 65536 := by
  unfold address? at read
  split at read
  · obtain ⟨known, eight⟩ := Option.filter_eq_some_iff.mp read
    exact ⟨by simpa using eight, side?_lt known⟩
  next left right _ =>
    simp only [Option.bind_eq_bind] at read
    split at read
    · cases read
    · simp only [Option.bind_eq_some_iff, Option.ite_none_right_eq_some] at read
      obtain ⟨before, first, after, second, few, whole⟩ := read
      cases whole
      constructor
      · simp
        omega
      · simp only [List.forall_mem_append]
        refine ⟨⟨side?_lt first, fun n zero => ?_⟩, side?_lt second⟩
        rw [(List.mem_replicate.mp zero).2]
        decide

end Bounds

end Ipv6

end Sitemaps.Url
