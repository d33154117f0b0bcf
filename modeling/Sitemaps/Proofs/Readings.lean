import Mathlib.Data.String.Basic
import Sitemaps.Proofs.Stamps
import Sitemaps.Sitemap.LastMod

/-!
What the readers make of the forms in which pages are dated. Of the readers that are tried one
after the other only one finds a form complete, so what one refuses no other takes for something
else.
-/

namespace Sitemaps

namespace Sitemap

open Time

section Items

variable {width n : Nat} {rest : List Char} {c : Char} {items : List Item} {fields : Fields}

theorem isBlank_digit (digit : c.isDigit = true) : Text.isBlank c = false := by
  have bounds : 48 ≤ c.toNat ∧ c.toNat ≤ 57 := by
    simpa [Char.isDigit, UInt32.le_iff_toNat_le] using digit
  simp only [Text.isBlank, Bool.or_eq_false_iff, Bool.and_eq_false_iff, decide_eq_false_iff_not,
    beq_eq_false_iff_ne]
  omega

@[simp]
theorem trimLeft_numeral :
    Text.trimLeft (numeral (width + 1) n ++ rest) = numeral (width + 1) n ++ rest := by
  obtain ⟨c, tail, starts, digit⟩ := numeral_starts width n
  rw [starts, List.cons_append]
  exact List.dropWhile_cons_of_neg (by simp [isBlank_digit digit])

theorem number?_four (year : Fin 10000) :
    number? 4 4 (numeral 4 year ++ rest) = some (year.val, rest) :=
  number?_numeral (Nat.le_refl 4) (by have := year.isLt; omega)

@[simp]
theorem number?_two {least : Nat} (enough : least ≤ 2) (fits : n < 100) :
    number? least 2 (numeral 2 n ++ rest) = some (n, rest) :=
  number?_numeral enough (by omega)

theorem number?_both (n : Fin 100) :
    number? 2 2 (numeral 2 n ++ rest) = some (n.val, rest) :=
  number?_two (Nat.le_refl 2) n.isLt

@[simp]
theorem year?_numeral (year : Fin 10000) :
    year? (numeral 4 year ++ rest) = some ((year.val : Int), rest) := by
  have read : number? 1 4 (numeral 4 year ++ rest) = some (year.val, rest) :=
    number?_numeral (by decide) (by have := year.isLt; omega)
  obtain ⟨c, tail, starts, digit⟩ := numeral_starts 3 year
  rw [starts, List.cons_append] at read ⊢
  unfold year?
  split
  · rename_i same
    cases same
    cases digit
  · rename_i same
    cases same
    cases digit
  · rw [read]
    rfl

end Items

section Ends

variable {width n : Nat}

@[simp]
theorem trimLeft_numeral_end : Text.trimLeft (numeral (width + 1) n) = numeral (width + 1) n := by
  have trimmed : Text.trimLeft (numeral (width + 1) n ++ []) = numeral (width + 1) n ++ [] :=
    trimLeft_numeral
  rwa [List.append_nil] at trimmed

theorem number?_four_end (year : Fin 10000) :
    number? 4 4 (numeral 4 year) = some (year.val, []) := by
  have read : number? 4 4 (numeral 4 year ++ []) = some (year.val, []) := number?_four year
  rwa [List.append_nil] at read

@[simp]
theorem number?_two_end {least : Nat} (enough : least ≤ 2) (fits : n < 100) :
    number? least 2 (numeral 2 n) = some (n, []) := by
  have read : number? least 2 (numeral 2 n ++ []) = some (n, []) := number?_two enough fits
  rwa [List.append_nil] at read

@[simp]
theorem year?_numeral_end (year : Fin 10000) :
    year? (numeral 4 year) = some ((year.val : Int), []) := by
  have read : year? (numeral 4 year ++ []) = some ((year.val : Int), []) := year?_numeral year
  rwa [List.append_nil] at read

end Ends

section Fronts

variable {rest : List Char} {c : Char} {items : List Item} {fields : Fields}

theorem readItems_mark (other : rest.head? ≠ some c) :
    readItems (.mark c :: items) fields rest = none := by
  cases rest with
  | nil => rfl
  | cons first rest =>
    have differs : first ≠ c := by simpa using other
    simp [readItems, Item.read, differs]

theorem readItems_day (day : Day) :
    readItems (dateItems ++ items) {} (day.chars ++ rest) = readItems items day.fields rest := by
  simp [dateItems, Day.chars, Day.fields, readItems, Item.read]

theorem readItems_minute (day : Day) (hour minute : Fin 100) :
    readItems (minuteItems ++ items) {} (minuteChars day hour minute ++ rest) =
      readItems items { day.fields with hour := hour, minute := minute } rest := by
  simp [minuteItems, minuteChars, readItems_day, readItems, Item.read]

end Fronts

section Zones

variable {between : List Char → Option (List Char)} {rest : List Char}

theorem offset?_shifted (behind : Bool) (hours : Fin 24) (minutes : Fin 60)
    (parted : between (':' :: (numeral 2 minutes ++ rest)) = some (numeral 2 minutes ++ rest)) :
    offset? between ((Zone.shifted behind hours minutes).chars ++ rest) =
      some ((Zone.shifted behind hours minutes).seconds, rest) := by
  have readHours : ∀ text, number? 2 2 (numeral 2 hours ++ text) = some (hours.val, text) :=
    fun text => number?_two (Nat.le_refl 2) (by omega)
  have readMinutes : number? 2 2 (numeral 2 minutes ++ rest) = some (minutes.val, rest) :=
    number?_two (Nat.le_refl 2) (by omega)
  have small : ¬ 60 ≤ minutes.val := by omega
  cases behind with
  | false => simp [offset?, Zone.chars, Zone.seconds, parted, readHours, readMinutes, small]
  | true => simp [offset?, Zone.chars, Zone.seconds, parted, readHours, readMinutes, small]

theorem zoneOffset?_chars (zone : Zone) : zoneOffset? zone.chars = some (zone.seconds, []) := by
  cases zone with
  | universal => rfl
  | shifted behind hours minutes =>
    have parted : expect ':' (':' :: (numeral 2 minutes ++ [])) = some (numeral 2 minutes ++ []) :=
      rfl
    have read := offset?_shifted behind hours minutes parted
    rw [List.append_nil] at read
    cases behind with
    | false => exact read
    | true => exact read

theorem colonsAndBlanks_numeral (n : Nat) :
    colonsAndBlanks (':' :: (numeral 2 n ++ rest)) = some (numeral 2 n ++ rest) := by
  obtain ⟨c, tail, starts, digit⟩ := numeral_starts 1 n
  have other : c ≠ ':' := by
    rintro rfl
    cases digit
  simp [colonsAndBlanks, starts, other, isBlank_digit digit]

end Zones

section Rfc3339

variable {α β : Type} {c : Char} {rest : List Char}

theorem bind_some {a : α} {read : Option α} (found : read = some a) (onward : α → Option β) :
    (read >>= onward) = onward a := by
  rw [found]
  rfl

theorem bind_none {read : Option α} (found : read = none) (onward : α → Option β) :
    (read >>= onward) = none := by
  rw [found]
  rfl

theorem expect_self : expect c (c :: rest) = some rest := if_pos rfl

theorem expect_other (other : rest.head? ≠ some c) : expect c rest = none := by
  cases rest with
  | nil => rfl
  | cons first rest => exact if_neg (by simpa using other)

def readSeconds (day : Day) (hour minute : Fin 100) (text : List Char) : Option Instant := do
  let text ← expect ':' text
  let (second, text) ← number? 2 2 text
  let (nanos, text) ← match text with
    | '.' :: rest => nanos? rest
    | text => some (0, text)
  let (offset, text) ← zoneOffset? text
  if !text.isEmpty then none
  Instant.ofLocal? ⟨day.year.val, day.month, day.day⟩ ⟨hour, minute, second, nanos⟩ offset

theorem readRfc3339_minute (day : Day) (hour minute : Fin 100) :
    readRfc3339 (minuteChars day hour minute ++ rest) = readSeconds day hour minute rest := by
  simp only [minuteChars, Day.chars, List.append_assoc, List.cons_append]
  apply (bind_some (number?_four day.year) _).trans
  apply (bind_some expect_self _).trans
  apply (bind_some (number?_both day.month) _).trans
  apply (bind_some expect_self _).trans
  apply (bind_some (number?_both day.day) _).trans
  apply (bind_some (number?_both hour) _).trans
  apply (bind_some expect_self _).trans
  exact bind_some (number?_both minute) _

theorem zone_head {zone : Option Zone} (first : c ∈ (optionChars Zone.chars zone).head?) :
    c = 'Z' ∨ c = '+' ∨ c = '-' := by
  cases zone with
  | none => cases first
  | some zone =>
    cases zone with
    | universal =>
      cases first
      exact Or.inl rfl
    | shifted behind hours minutes =>
      cases behind with
      | false =>
        cases first
        exact Or.inr (Or.inl rfl)
      | true =>
        cases first
        exact Or.inr (Or.inr rfl)

theorem zone_undigited (zone : Option Zone) :
    ∀ c ∈ (optionChars Zone.chars zone).head?, c.isDigit = false := by
  intro c first
  rcases zone_head first with rfl | rfl | rfl <;> rfl

theorem zone_other (zone : Option Zone) (other : c ≠ 'Z' ∧ c ≠ '+' ∧ c ≠ '-') :
    (optionChars Zone.chars zone).head? ≠ some c := by
  intro first
  rcases zone_head first with same | same | same
  · exact other.1 same
  · exact other.2.1 same
  · exact other.2.2 same

theorem readSeconds_second (day : Day) (hour minute second : Fin 100)
    (fraction : Option Fraction) (zone : Option Zone) :
    readSeconds day hour minute (':' :: (numeral 2 second ++
      (optionChars Fraction.chars fraction ++ optionChars Zone.chars zone))) =
        zone.bind fun _ => (Stamp.second day hour minute second fraction zone).reading := by
  apply (bind_some expect_self _).trans
  apply (bind_some (number?_both second) _).trans
  cases fraction with
  | none =>
    have whole (text : List Char) : some (0, text) = some (0, text) := rfl
    have missing : zoneOffset? [] = none := rfl
    cases zone with
    | none => exact (bind_some (whole []) _).trans (bind_none missing _)
    | some zone =>
      have read := zoneOffset?_chars zone
      rcases zone with _ | ⟨_ | _, hours, minutes⟩
      all_goals exact (bind_some (whole _) _).trans (bind_some read _)
  | some fraction =>
    have ends := zone_undigited zone
    have nanos := nanos?_numeral fraction.wide.1 fraction.wide.2 fraction.fits ends
    have missing : zoneOffset? [] = none := rfl
    apply (bind_some nanos _).trans
    cases zone with
    | none => exact bind_none missing _
    | some zone => exact bind_some (zoneOffset?_chars zone) _

theorem second_chars (day : Day) (hour minute second : Fin 100) (fraction : Option Fraction)
    (zone : Option Zone) : (Stamp.second day hour minute second fraction zone).chars =
      minuteChars day hour minute ++ ':' :: (numeral 2 second ++
        (optionChars Fraction.chars fraction ++ optionChars Zone.chars zone)) := by
  simp [Stamp.chars]

theorem readRfc3339_stamp (stamp : Stamp) : readRfc3339 stamp.chars =
    match stamp with
    | .second _ _ _ _ _ (some _) => stamp.reading
    | _ => none := by
  have missing : expect '-' [] = none := rfl
  have last (n : Fin 100) : number? 2 2 (numeral 2 n) = some (n.val, []) :=
    number?_two_end (Nat.le_refl 2) n.isLt
  cases stamp with
  | year y =>
    apply (bind_some (number?_four_end y) _).trans
    exact bind_none missing _
  | month y m =>
    apply (bind_some (number?_four y) _).trans
    apply (bind_some expect_self _).trans
    apply (bind_some (last m) _).trans
    exact bind_none missing _
  | day d =>
    have written : (Stamp.day d).chars = numeral 4 d.year ++ '-' :: (numeral 2 d.month ++
        '-' :: numeral 2 d.day) := by simp [Stamp.chars, Day.chars]
    rw [written]
    apply (bind_some (number?_four d.year) _).trans
    apply (bind_some expect_self _).trans
    apply (bind_some (number?_both d.month) _).trans
    apply (bind_some expect_self _).trans
    exact bind_some (last d.day) _
  | minute d h m zone =>
    apply (readRfc3339_minute d h m).trans
    exact bind_none (expect_other (zone_other zone (by decide))) _
  | second d h m s fraction zone =>
    rw [second_chars, readRfc3339_minute, readSeconds_second]
    cases zone <;> rfl

end Rfc3339

section Patterns

variable {rest : List Char}

def Stamp.Bare : Stamp → Prop
  | .year _ | .month _ _ | .day _ => True
  | .minute _ _ _ _ | .second _ _ _ _ _ _ => False

theorem readItems_bare {stamp : Stamp} (bare : stamp.Bare) (items : List Item) :
    readItems (minuteItems ++ items) {} stamp.chars = none := by
  cases stamp with
  | year y => simp [Stamp.chars, minuteItems, dateItems, readItems, Item.read]
  | month y m => simp [Stamp.chars, minuteItems, dateItems, readItems, Item.read]
  | day d => simp [Stamp.chars, Day.chars, minuteItems, dateItems, readItems, Item.read]
  | minute d h m zone => cases bare
  | second d h m s fraction zone => cases bare

theorem zoneSpelledOut_append (front : List Char) (filled : rest ≠ []) :
    zoneSpelledOut (front ++ rest) = front ++ zoneSpelledOut rest := by
  have last : (front ++ rest).getLast? = rest.getLast? := by
    rw [List.getLast?_append, List.getLast?_eq_some_getLast filled, Option.some_or]
  unfold zoneSpelledOut
  rw [last]
  split
  · rw [List.dropLast_append_of_ne_nil filled, List.append_assoc]
  · rfl

theorem zoneSpelledOut_numeral (front : List Char) (width n : Nat) :
    zoneSpelledOut (front ++ numeral (width + 1) n) = front ++ numeral (width + 1) n := by
  have digits := numeral_digits (width + 1) n
  have last : ∀ c ∈ (front ++ numeral (width + 1) n).getLast?, c.isDigit = true := by
    rw [numeral] at digits ⊢
    rw [← List.append_assoc, List.getLast?_concat]
    rintro _ ⟨⟩
    exact digits _ (by simp)
  unfold zoneSpelledOut
  rw [if_neg]
  rw [Bool.or_eq_true, beq_iff_eq, beq_iff_eq]
  rintro (universal | universal)
  · cases last _ universal
  · cases last _ universal

theorem zoneSpelledOut_bare {stamp : Stamp} (bare : stamp.Bare) :
    zoneSpelledOut stamp.chars = stamp.chars := by
  cases stamp with
  | year y => exact zoneSpelledOut_numeral [] 3 y
  | month y m =>
    have spelled := zoneSpelledOut_numeral (numeral 4 y ++ ['-']) 1 m
    simpa [Stamp.chars] using spelled
  | day d =>
    have spelled := zoneSpelledOut_numeral (numeral 4 d.year ++ '-' :: numeral 2 d.month ++ ['-'])
      1 d.day
    simpa [Stamp.chars, Day.chars] using spelled
  | minute d h m zone => cases bare
  | second d h m s fraction zone => cases bare

theorem readItems_offset (fields : Fields) (behind : Bool) (hours : Fin 24) (minutes : Fin 60) :
    readItems [.offset] fields (Zone.shifted behind hours minutes).chars =
      some { fields with offset := (Zone.shifted behind hours minutes).seconds } := by
  have parted := @colonsAndBlanks_numeral [] minutes
  have read := offset?_shifted behind hours minutes parted
  have trimmed : Text.trimLeft (Zone.shifted behind hours minutes).chars =
      (Zone.shifted behind hours minutes).chars := by
    cases behind with
    | false => rfl
    | true => rfl
  rw [List.append_nil] at read
  simp [readItems, Item.read, trimmed, read]

theorem readPattern_bare {stamp : Stamp} (bare : stamp.Bare) (items : List Item) :
    readPattern (minuteItems ++ items) stamp.chars = none :=
  bind_none (readItems_bare bare items) _

theorem readPattern_minute (day : Day) (hour minute : Fin 100) (items : List Item) :
    readPattern (minuteItems ++ items) (minuteChars day hour minute ++ rest) =
      (readItems items { day.fields with hour := hour, minute := minute } rest).bind
        Fields.instant? := by
  unfold readPattern
  rw [readItems_minute]
  rfl

theorem zoneSpelledOut_shifted (front : List Char) (behind : Bool) (hours : Fin 24)
    (minutes : Fin 60) : zoneSpelledOut (front ++ (Zone.shifted behind hours minutes).chars) =
      front ++ (Zone.shifted behind hours minutes).chars := by
  have spelled := zoneSpelledOut_numeral
    (front ++ (if behind then '-' else '+') :: numeral 2 hours ++ [':']) 1 minutes
  simpa [Zone.chars] using spelled

theorem zoneSpelledOut_minute (day : Day) (hour minute : Fin 100) :
    zoneSpelledOut (minuteChars day hour minute) = minuteChars day hour minute := by
  have spelled := zoneSpelledOut_numeral (day.chars ++ 'T' :: numeral 2 hour ++ [':']) 1 minute
  simpa [minuteChars] using spelled

theorem zoneSpelledOut_second (day : Day) (hour minute second : Fin 100)
    (fraction : Option Fraction) (zone : Option Zone) :
    zoneSpelledOut (Stamp.second day hour minute second fraction zone).chars =
      minuteChars day hour minute ++ ':' :: zoneSpelledOut (numeral 2 second ++
        (optionChars Fraction.chars fraction ++ optionChars Zone.chars zone)) := by
  have filled : numeral 2 second ++ (optionChars Fraction.chars fraction ++
      optionChars Zone.chars zone) ≠ [] := by simp [numeral]
  have spelled := zoneSpelledOut_append [':'] filled
  rw [List.singleton_append] at spelled
  rw [second_chars, zoneSpelledOut_append _ (List.cons_ne_nil _ _), spelled]
  rfl

/-- An offset right behind the minutes is read by one pattern alone. -/
theorem readPattern_offset (stamp : Stamp) :
    readPattern (minuteItems ++ [.offset]) (zoneSpelledOut stamp.chars) =
      match stamp with
      | .minute _ _ _ (some _) => stamp.reading
      | _ => none := by
  have dated {stamp : Stamp} (bare : stamp.Bare) :
      readPattern (minuteItems ++ [.offset]) (zoneSpelledOut stamp.chars) = none := by
    rw [zoneSpelledOut_bare bare, readPattern_bare bare]
  rcases stamp with y | ⟨y, m⟩ | d | ⟨d, h, m, zone⟩ | ⟨d, h, m, s, fraction, zone⟩
  · exact @dated (.year y) trivial
  · exact @dated (.month y m) trivial
  · exact @dated (.day d) trivial
  · rcases zone with _ | _ | ⟨behind, hours, minutes⟩
    · rw [Stamp.chars, optionChars, List.append_nil, zoneSpelledOut_minute]
      have read := @readPattern_minute [] d h m [.offset]
      rw [List.append_nil] at read
      exact read
    · have spelled : zoneSpelledOut (minuteChars d h m ++ ['Z']) =
          minuteChars d h m ++ (Zone.shifted false 0 0).chars :=
        zoneSpelledOut_append _ (List.cons_ne_nil _ _)
      rw [Stamp.chars, optionChars, Zone.chars, spelled, readPattern_minute, readItems_offset]
      rfl
    · rw [Stamp.chars, optionChars, zoneSpelledOut_shifted, readPattern_minute, readItems_offset]
      rfl
  · rw [zoneSpelledOut_second, readPattern_minute]
    rfl

theorem readItems_seconds (fields : Fields) (second : Fin 100) (fraction : Option Fraction)
    (zone : Option Zone) :
    readItems [.mark ':', .second, .fraction] fields (':' :: (numeral 2 second ++
      (optionChars Fraction.chars fraction ++ optionChars Zone.chars zone))) =
        match zone with
        | none => some { fields with
            second := second, nanos := (fraction.map Fraction.nanos).getD fields.nanos }
        | some _ => none := by
  have front : readItems [.mark ':', .second, .fraction] fields (':' :: (numeral 2 second ++
      (optionChars Fraction.chars fraction ++ optionChars Zone.chars zone))) =
      readItems [.fraction] { fields with second := second }
        (optionChars Fraction.chars fraction ++ optionChars Zone.chars zone) := by
    simp [readItems, Item.read]
  rw [front]
  cases fraction with
  | none => rcases zone with _ | _ | ⟨_ | _, hours, minutes⟩ <;> rfl
  | some fraction =>
    have nanos := nanos?_numeral fraction.wide.1 fraction.wide.2 fraction.fits
      (zone_undigited zone)
    have read : Item.read .fraction { fields with second := second }
        (fraction.chars ++ optionChars Zone.chars zone) =
          some ({ fields with second := second, nanos := fraction.nanos },
            optionChars Zone.chars zone) := congrArg (Option.map _) nanos
    apply (bind_some read _).trans
    rcases zone with _ | _ | ⟨_ | _, hours, minutes⟩ <;> rfl

theorem readPattern_seconds (stamp : Stamp) : readPattern secondItems stamp.chars =
    match stamp with
    | .second _ _ _ _ _ none => stamp.reading
    | _ => none := by
  rcases stamp with y | ⟨y, m⟩ | d | ⟨d, h, m, zone⟩ | ⟨d, h, m, s, fraction, zone⟩
  · exact @readPattern_bare (.year y) trivial _
  · exact @readPattern_bare (.month y m) trivial _
  · exact @readPattern_bare (.day d) trivial _
  · rw [Stamp.chars, secondItems, readPattern_minute,
      readItems_mark (zone_other zone (by decide))]
    rfl
  · rw [second_chars, secondItems, readPattern_minute, readItems_seconds]
    cases zone with
    | none => rfl
    | some zone => rfl

theorem readPattern_minutes (stamp : Stamp) : readPattern minuteItems stamp.chars =
    match stamp with
    | .minute _ _ _ none => stamp.reading
    | _ => none := by
  rw [← List.append_nil minuteItems]
  rcases stamp with y | ⟨y, m⟩ | d | ⟨d, h, m, zone⟩ | ⟨d, h, m, s, fraction, zone⟩
  · exact @readPattern_bare (.year y) trivial _
  · exact @readPattern_bare (.month y m) trivial _
  · exact @readPattern_bare (.day d) trivial _
  · rw [Stamp.chars, readPattern_minute]
    rcases zone with _ | _ | ⟨behind, hours, minutes⟩
    · rfl
    · rfl
    · rfl
  · rw [second_chars, readPattern_minute]
    rfl

end Patterns

section Dates

theorem length_le_size (text : List Char) :
    text.length ≤ (String.ofList text).utf8ByteSize := by
  rw [String.utf8ByteSize_ofList]
  induction text with
  | nil => exact Nat.zero_le _
  | cons c text ih =>
    have one := Char.utf8Size_pos c
    rw [String.utf8Len_cons, List.length_cons]
    omega

theorem size_plain {text : List Char} (plain : ∀ c ∈ text, c.isDigit = true ∨ c = '-') :
    (String.ofList text).utf8ByteSize = text.length := by
  have one : ∀ {c : Char}, c.isDigit = true ∨ c = '-' → c.utf8Size = 1 := by
    rintro c (digit | rfl)
    · have bounds : 48 ≤ c.val ∧ c.val ≤ 57 := by simpa [Char.isDigit] using digit
      rw [Char.utf8Size, if_pos]
      exact UInt32.le_trans bounds.2 (by decide)
    · rfl
  rw [String.utf8ByteSize_ofList]
  induction text with
  | nil => rfl
  | cons c text ih =>
    rw [String.utf8Len_cons, one (plain c List.mem_cons_self),
      ih fun c member => plain c (List.mem_cons_of_mem _ member), List.length_cons]

theorem Stamp.Bare.plain {stamp : Stamp} (bare : stamp.Bare) :
    ∀ c ∈ stamp.chars, c.isDigit = true ∨ c = '-' := by
  have digits {c : Char} {width n : Nat} (member : c ∈ numeral width n) : c.isDigit = true :=
    numeral_digits width n c member
  intro c member
  cases stamp with
  | year y => exact Or.inl (digits member)
  | month y m =>
    rcases List.mem_append.mp member with member | member
    · exact Or.inl (digits member)
    · rcases List.mem_cons.mp member with rfl | member
      · exact Or.inr rfl
      · exact Or.inl (digits member)
  | day d =>
    simp only [Stamp.chars, Day.chars, List.mem_append, List.mem_cons] at member
    rcases member with (member | rfl | member) | rfl | member
    · exact Or.inl (digits member)
    · exact Or.inr rfl
    · exact Or.inl (digits member)
    · exact Or.inr rfl
    · exact Or.inl (digits member)
  | minute d h m zone => cases bare
  | second d h m s fraction zone => cases bare

theorem readPattern_day (day : Day) :
    readPattern dateItems day.chars = (Stamp.day day).reading := by
  have read := @readItems_day [] [] day
  rw [List.append_nil, List.append_nil] at read
  exact bind_some read _

theorem readDate_long {value : String} (long : 10 < value.utf8ByteSize) :
    readDate value = none := by
  unfold readDate
  split
  · omega
  · omega
  · omega
  · rfl

theorem Stamp.Bare.size {stamp : Stamp} (bare : stamp.Bare) :
    stamp.text.utf8ByteSize = stamp.chars.length := size_plain bare.plain

theorem readDate_year (y : Fin 10000) :
    readDate (Stamp.year y).text = (Stamp.year y).reading := by
  have bare : (Stamp.year y).Bare := trivial
  have size : (Stamp.year y).text.utf8ByteSize = 4 := by
    rw [bare.size, Stamp.chars, length_numeral]
  have digits : (numeral 4 y).all Char.isDigit = true := by
    rw [List.all_eq_true]
    exact numeral_digits 4 y
  have value : digitsValue (numeral 4 y) = y := digitsValue_numeral y.isLt
  have written : (Stamp.year y).text.toList = numeral 4 y := String.toList_ofList
  simp only [readDate, size, written, digits, value, if_true]
  rfl

theorem readDate_month (y : Fin 10000) (m : Fin 100) :
    readDate (Stamp.month y m).text = (Stamp.month y m).reading := by
  have bare : (Stamp.month y m).Bare := trivial
  have size : (Stamp.month y m).text.utf8ByteSize = 7 := by
    rw [bare.size]
    simp [Stamp.chars]
  have written : (Stamp.month y m).text.toList ++ ['-', '0', '1'] = (Day.mk y m 1).chars := by
    simp only [Stamp.text, String.toList_ofList, Stamp.chars, Day.chars, List.append_assoc,
      List.cons_append]
    rfl
  simp only [readDate, size, written]
  exact readPattern_day ⟨y, m, 1⟩

theorem readDate_day (d : Day) : readDate (Stamp.day d).text = (Stamp.day d).reading := by
  have bare : (Stamp.day d).Bare := trivial
  have size : (Stamp.day d).text.utf8ByteSize = 10 := by
    rw [bare.size]
    simp [Stamp.chars, Day.chars]
  have written : (Stamp.day d).text.toList = d.chars := String.toList_ofList
  simp only [readDate, size, written]
  exact readPattern_day d

theorem readDate_stamp (stamp : Stamp) : readDate stamp.text =
    match stamp with
    | .year _ | .month _ _ | .day _ => stamp.reading
    | _ => none := by
  have timed {stamp : Stamp} (long : 10 < stamp.chars.length) : readDate stamp.text = none :=
    readDate_long (Nat.lt_of_lt_of_le long (length_le_size stamp.chars))
  cases stamp with
  | year y => exact readDate_year y
  | month y m => exact readDate_month y m
  | day d => exact readDate_day d
  | minute d h m zone =>
    apply timed
    simp only [Stamp.chars, minuteChars, Day.chars, List.length_append, List.length_cons,
      length_numeral]
    omega
  | second d h m s fraction zone =>
    apply timed
    simp only [Stamp.chars, minuteChars, Day.chars, List.length_append, List.length_cons,
      length_numeral]
    omega

end Dates

/-- A form is read by the reader that finds it complete. -/
theorem parseLastMod_written (stamp : Stamp) : parseLastMod stamp.text = stamp.reading := by
  have written : stamp.text.toList = stamp.chars := String.toList_ofList
  unfold parseLastMod
  dsimp only
  rw [written, readRfc3339_stamp, readPattern_offset, readPattern_seconds, readPattern_minutes,
    readDate_stamp]
  rcases stamp with y | ⟨y, m⟩ | d | ⟨d, h, m, _ | zone⟩ | ⟨d, h, m, s, fraction, _ | zone⟩
  all_goals simp only [Option.orElse_eq_orElse, Option.orElse_eq_or, Option.none_or,
    Option.or_none]

/-- A stamp is read if there is such a day and such a time of day, and then as the instant that it
denotes. -/
theorem parseLastMod_stamp (stamp : Stamp) :
    parseLastMod stamp.text = if stamp.Exists then some stamp.instant else none := by
  rw [parseLastMod_written, stamp.reading_eq]

example : parseLastMod "0000-01-01T00:00+23:59" = some ⟨-62167305540, 0⟩ := by decide

example : parseLastMod "1900-02-29" = none := by decide

end Sitemap

end Sitemaps
