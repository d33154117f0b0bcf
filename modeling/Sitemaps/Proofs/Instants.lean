import Sitemaps.Proofs.Ledger
import Sitemaps.Proofs.Readings

/-!
The text in which an instant is kept. It is one of the forms in which pages are dated and leaves out
nothing of the instant, so that a date once read is read again from what was kept of it.
-/

namespace Sitemaps

namespace Time

def Yields {α : Type} (P : α → Prop) (read : Option α) : Prop := ∀ a ∈ read, P a

section Yields

variable {α β : Type} {P : β → Prop} {Q : α → Prop} {read : Option α} {f : α → Option β}

theorem Yields.none : Yields P none := nofun

theorem Yields.some {b : β} (holds : P b) : Yields P (some b) := by
  rintro _ ⟨⟩
  exact holds

theorem Yields.bind (first : Yields Q read) (next : ∀ a, Q a → Yields P (f a)) :
    Yields P (read >>= f) := by
  intro b found
  obtain ⟨a, read, found⟩ := Option.bind_eq_some_iff.mp found
  exact next a (first a read) b found

theorem Yields.onward (next : ∀ a, Yields P (f a)) : Yields P (read >>= f) := by
  have any : Yields (fun _ => True) read := fun _ _ => trivial
  exact any.bind fun a _ => next a

theorem Yields.map {g : α → β} (first : Yields Q read) (kept : ∀ a, Q a → P (g a)) :
    Yields P (read.map g) := by
  intro b found
  obtain ⟨a, read, rfl⟩ := Option.map_eq_some_iff.mp found
  exact kept a (first a read)

theorem Yields.mapped {g : α → β} (kept : ∀ a, P (g a)) : Yields P (read.map g) := by
  have any : Yields (fun _ => True) read := fun _ _ => trivial
  exact any.map fun a _ => kept a

theorem Yields.orElse {read other : Option β} (first : Yields P read) (second : Yields P other) :
    Yields P (read <|> other) := by
  cases read with
  | none => exact second
  | some b => exact first

end Yields

structure Instant.Sound (t : Instant) : Prop where
  nanos_lt : t.nanos < 2000000000
  leap : 1000000000 ≤ t.nanos → t.seconds % 60 = 59

section Sound

theorem Instant.ofLocal?_sound (date : Date) (clock : Clock) {offset : Int} (whole : 60 ∣ offset) :
    Yields Instant.Sound (Instant.ofLocal? date clock offset) := by
  unfold Instant.ofLocal?
  split
  · rename_i valid
    simp only [Clock.isValid, Bool.and_eq_true, decide_eq_true_eq] at valid
    obtain ⟨⟨-, ⟨⟨-, minute⟩, second⟩, nanos⟩, -⟩ := valid
    dsimp only
    split
    · apply Yields.some
      constructor
      · dsimp only
        split <;> omega
      · dsimp only [daySeconds]
        split <;> omega
    · exact Yields.none
  · exact Yields.none

theorem offset?_whole (between : List Char → Option (List Char)) (text : List Char) :
    Yields (fun found => 60 ∣ found.1) (offset? between text) := by
  have counted (negative : Bool) (hours minutes : Nat) : (60 : Int) ∣
      if negative then -(hours * 3600 + minutes * 60) else hours * 3600 + minutes * 60 := by
    split <;> omega
  unfold offset?
  dsimp only
  -- Whatever the sign, what follows it is read in the same way.
  repeat' split
  all_goals
    iterate 4 refine Yields.onward fun _ => ?_
    split
    · exact Yields.none
    · exact Yields.some (counted _ _ _)

theorem zoneOffset?_whole (text : List Char) :
    Yields (fun found => 60 ∣ found.1) (zoneOffset? text) := by
  unfold zoneOffset?
  split
  · exact Yields.some (dvd_zero 60)
  · exact Yields.some (dvd_zero 60)
  · exact offset?_whole _ _

theorem readRfc3339_sound (text : List Char) : Yields Instant.Sound (readRfc3339 text) := by
  unfold readRfc3339
  dsimp only
  -- Nothing that is read before the offset matters.
  iterate 5 refine Yields.onward fun _ => ?_
  repeat' split
  all_goals
    iterate 6 refine Yields.onward fun _ => ?_
    split
    all_goals
      refine Yields.onward fun _ => ?_
      refine (zoneOffset?_whole _).bind fun _ whole => ?_
      split
      · exact Yields.none
      · exact Instant.ofLocal?_sound _ _ whole

theorem Item.read_whole (item : Item) {fields : Fields} (text : List Char)
    (whole : 60 ∣ fields.offset) :
    Yields (fun found => 60 ∣ found.1.offset) (item.read fields text) := by
  cases item with
  | offset => exact (offset?_whole _ _).map fun _ read => read
  | fraction =>
    dsimp only [Item.read]
    split
    · exact Yields.mapped fun _ => whole
    · exact Yields.some whole
  | mark c =>
    dsimp only [Item.read]
    split
    · exact Yields.none
    · split
      · exact Yields.some whole
      · exact Yields.none
  | _ => exact Yields.mapped fun _ => whole

theorem readItems_whole (items : List Item) {fields : Fields} (text : List Char)
    (whole : 60 ∣ fields.offset) :
    Yields (fun found => 60 ∣ found.offset) (readItems items fields text) := by
  induction items generalizing fields text with
  | nil =>
    cases text with
    | nil => exact Yields.some whole
    | cons c text => exact Yields.none
  | cons item items ih => exact (item.read_whole text whole).bind fun _ kept => ih _ kept

theorem readPattern_sound (items : List Item) (text : List Char) :
    Yields Instant.Sound (readPattern items text) :=
  (readItems_whole items text (dvd_zero 60)).bind fun _ whole => Instant.ofLocal?_sound _ _ whole

end Sound

end Time

namespace Sitemap

open Time

theorem readDate_sound (value : String) : Yields Instant.Sound (readDate value) := by
  unfold readDate
  dsimp only
  split
  · exact readPattern_sound _ _
  · exact readPattern_sound _ _
  · split
    · exact Instant.ofLocal?_sound _ _ (dvd_zero 60)
    · exact Yields.none
  · exact Yields.none

theorem parseLastMod_sound (value : String) : Yields Instant.Sound (parseLastMod value) := by
  unfold parseLastMod
  apply (readRfc3339_sound _).orElse
  apply (readPattern_sound _ _).orElse
  apply (readPattern_sound _ _).orElse
  apply (readPattern_sound _ _).orElse
  exact readDate_sound value

end Sitemap

namespace Time

open Sitemap

section Written

variable {t : Instant}

theorem toList_padded {width n : Nat} (fits : n < 10 ^ (width + 1)) :
    (padded (width + 1) n).toList = numeral (width + 1) n := by
  have digits : (toString n).toList = Nat.toDigits 10 n := Nat.toList_repr
  unfold padded
  rw [String.toList_append, toList_pushn, numeral_filled fits, ← String.length_toList]
  rw [digits]
  rfl

def Fraction.shortest (nanos : Nat) (small : nanos < 1000000000) : Option Fraction :=
  if nanos = 0 then none
  else if nanos % 1000000 = 0 then some ⟨3, nanos / 1000000, by decide, by omega⟩
  else if nanos % 1000 = 0 then some ⟨6, nanos / 1000, by decide, by omega⟩
  else some ⟨9, nanos, by decide, small⟩

theorem Fraction.shortest_nanos {nanos : Nat} (small : nanos < 1000000000) :
    ((shortest nanos small).map Fraction.nanos).getD 0 = nanos := by
  unfold shortest
  split
  · rename_i whole
    exact whole.symm
  split
  · simp only [Option.map_some, Option.getD_some, Fraction.nanos]
    omega
  split
  · simp only [Option.map_some, Option.getD_some, Fraction.nanos]
    omega
  · simp only [Option.map_some, Option.getD_some, Fraction.nanos]
    omega

theorem Fraction.shortest_chars {nanos : Nat} (small : nanos < 1000000000) :
    optionChars Fraction.chars (shortest nanos small) = (fractionText nanos).toList := by
  have point {width n : Nat} (fits : n < 10 ^ (width + 1)) :
      ("." ++ padded (width + 1) n).toList = '.' :: numeral (width + 1) n := by
    rw [String.toList_append, toList_padded fits]
    rfl
  unfold shortest fractionText
  split
  · rfl
  split
  · have fits : nanos / 1000000 < 10 ^ 3 := by omega
    exact (point fits).symm
  split
  · have fits : nanos / 1000 < 10 ^ 6 := by omega
    exact (point fits).symm
  · exact (point small).symm

def Instant.year (t : Instant) : Int := (Date.ofDays (t.seconds / daySeconds)).year

def lastTwo (n : Nat) : Fin 100 := ⟨n % 100, Nat.mod_lt n (by decide)⟩

def lastFour (n : Nat) : Fin 10000 := ⟨n % 10000, Nat.mod_lt n (by decide)⟩

/-- The stamp by which an instant is kept. -/
def Instant.stamp (t : Instant) : Stamp :=
  let date := Date.ofDays (t.seconds / daySeconds)
  let ofDay := (t.seconds % daySeconds).toNat
  let leap := if t.nanos < 1000000000 then 0 else 1
  .second ⟨lastFour date.year.natAbs, lastTwo date.month, lastTwo date.day⟩
    (lastTwo (ofDay / 3600)) (lastTwo (ofDay / 60 % 60)) (lastTwo (ofDay % 60 + leap))
    (Fraction.shortest (t.nanos % 1000000000) (Nat.mod_lt _ (by decide)))
    (some (.shifted false 0 0))

theorem Instant.ofDay_lt (t : Instant) : (t.seconds % daySeconds).toNat < 86400 := by
  unfold daySeconds
  omega

theorem Instant.stamp_date (year : 0 ≤ t.year ∧ t.year ≤ 9999) :
    (⟨t.stamp.date.year.val, t.stamp.date.month, t.stamp.date.day⟩ : Date) =
      Date.ofDays (t.seconds / daySeconds) := by
  obtain ⟨⟨-, month⟩, -, day⟩ := Date.exists_ofDays (t.seconds / daySeconds)
  have days := daysIn_le (Date.ofDays (t.seconds / daySeconds)).year
    (Date.ofDays (t.seconds / daySeconds)).month
  unfold Instant.year at year
  unfold Instant.stamp Stamp.date
  dsimp only [lastTwo, lastFour]
  rw [Nat.mod_eq_of_lt (by omega), Nat.mod_eq_of_lt (by omega), Nat.mod_eq_of_lt (by omega),
    Int.natAbs_of_nonneg year.1]

theorem Instant.stamp_clock (t : Instant) : t.stamp.clock =
    let ofDay := (t.seconds % daySeconds).toNat
    ⟨ofDay / 3600, ofDay / 60 % 60, ofDay % 60 + if t.nanos < 1000000000 then 0 else 1,
      t.nanos % 1000000000⟩ := by
  have inside := t.ofDay_lt
  have second : (t.seconds % daySeconds).toNat % 60 +
      (if t.nanos < 1000000000 then 0 else 1) < 100 := by split <;> omega
  unfold Instant.stamp Stamp.clock
  dsimp only [lastTwo, lastFour]
  rw [@Nat.mod_eq_of_lt (_ / 3600) 100 (by omega), @Nat.mod_eq_of_lt (_ % 60) 100 (by omega),
    Nat.mod_eq_of_lt second, Fraction.shortest_nanos]

theorem Instant.stamp_exists (year : 0 ≤ t.year ∧ t.year ≤ 9999) : t.stamp.Exists := by
  have same := Instant.stamp_date year
  have clock := t.stamp_clock
  have inside := t.ofDay_lt
  obtain ⟨months, days⟩ := Date.exists_ofDays (t.seconds / daySeconds)
  rw [← same] at months days
  dsimp only at months days
  rw [daysIn_eq _ months.1 months.2] at days
  refine ⟨⟨months, days⟩, ?_, ?_, ?_⟩
  all_goals rw [clock]; dsimp only
  · omega
  · omega
  · split <;> omega

theorem Instant.stamp_second (sound : t.Sound) :
    t.stamp.clock.second = 60 ↔ 1000000000 ≤ t.nanos := by
  have leap := sound.leap
  rw [t.stamp_clock, daySeconds]
  dsimp only
  split <;> omega

theorem Instant.stamp_seconds (sound : t.Sound) (year : 0 ≤ t.year ∧ t.year ≤ 9999) :
    t.stamp.instant.seconds = t.seconds := by
  have leap := sound.leap
  rw [Stamp.instant_days (Instant.stamp_exists year), Instant.stamp_date year, Date.days_ofDays,
    t.stamp_clock]
  have offset : t.stamp.offset = 0 := rfl
  rw [offset, daySeconds]
  dsimp only
  split <;> omega

theorem Instant.stamp_nanos (sound : t.Sound) : t.stamp.instant.nanos = t.nanos := by
  have few := sound.nanos_lt
  have total : t.stamp.instant.nanos =
      t.stamp.clock.nanos + if t.stamp.clock.second = 60 then 1000000000 else 0 := rfl
  simp only [total, Instant.stamp_second sound]
  rw [t.stamp_clock]
  dsimp only
  split <;> omega

theorem Instant.stamp_chars (t : Instant) : t.stamp.chars =
    numeral 4 t.stamp.date.year ++ '-' :: numeral 2 t.stamp.date.month ++
      '-' :: numeral 2 t.stamp.date.day ++ 'T' :: numeral 2 t.stamp.clock.hour ++
      ':' :: numeral 2 t.stamp.clock.minute ++ ':' :: numeral 2 t.stamp.clock.second ++
      (fractionText (t.nanos % 1000000000)).toList ++ ['+', '0', '0', ':', '0', '0'] := by
  rw [← Fraction.shortest_chars (Nat.mod_lt _ (by decide))]
  rfl

theorem Instant.stamp_text (year : 0 ≤ t.year ∧ t.year ≤ 9999) : t.stamp.text = t.text := by
  obtain ⟨-, hour, minute, second⟩ := Instant.stamp_exists year
  have two {n : Nat} (fits : n < 100) : (padded 2 n).toList = numeral 2 n := toList_padded fits
  have four : (yearText t.stamp.date.year.val).toList = numeral 4 t.stamp.date.year := by
    have plain : 0 ≤ (t.stamp.date.year.val : Int) ∧ (t.stamp.date.year.val : Int) ≤ 9999 := by
      omega
    rw [yearText, if_pos plain]
    exact toList_padded t.stamp.date.year.isLt
  rw [t.stamp_clock] at hour minute second
  unfold Instant.text
  rw [← Instant.stamp_date year]
  apply String.toList_injective
  rw [Stamp.text, String.toList_ofList, Instant.stamp_chars, t.stamp_clock]
  simp only [String.toList_append, four, two t.stamp.date.month.isLt, two t.stamp.date.day.isLt,
    two (hour.trans (by decide)), two (minute.trans (by decide)),
    two (Nat.lt_of_le_of_lt second (by decide))]
  simp

theorem Instant.stamp_instant (sound : t.Sound) (year : 0 ≤ t.year ∧ t.year ≤ 9999) :
    t.stamp.instant = t := by
  have seconds := Instant.stamp_seconds sound year
  have nanos := Instant.stamp_nanos sound
  calc t.stamp.instant
      = ⟨t.stamp.instant.seconds, t.stamp.instant.nanos⟩ := rfl
    _ = ⟨t.seconds, t.nanos⟩ := by rw [seconds, nanos]

end Written

end Time

open Time Sitemap

/-- An instant in a year of four digits that some text tells. -/
structure Datable (t : Instant) : Prop where
  told : ∃ value, parseLastMod value = some t
  year : 0 ≤ t.year ∧ t.year ≤ 9999

/-- The date that a database shows of an entry after taking it in. -/
def Database.storedDate? (database : Database) (entry : Entry) :
    Except StoreFault (Option String) := do
  let after ← database.upsert entry
  let page ← after.page? entry.reference
  return page.bind (·.lastModified)

section Stored

variable {t u : Instant}

theorem Datable.readback (datable : Datable t) : parseLastMod t.text = some t := by
  obtain ⟨⟨value, told⟩, year⟩ := datable
  have sound := parseLastMod_sound value t told
  calc parseLastMod t.text
      = parseLastMod t.stamp.text := by rw [Instant.stamp_text year]
    _ = t.stamp.reading := parseLastMod_written t.stamp
    _ = some t.stamp.instant := by rw [Stamp.reading_eq, if_pos (Instant.stamp_exists year)]
    _ = some t := by rw [Instant.stamp_instant sound year]

theorem Datable.text_injective (first : Datable t) (second : Datable u)
    (same : t.text = u.text) : t = u := by
  have read : some t = some u := by rw [← first.readback, same, second.readback]
  exact Option.some.inj read

theorem Tables.lastModified_upsert (tables : Tables) (entry : Entry) :
    ((tables.upsert entry).page? entry.reference).bind (·.lastModified) =
      entry.lastModified.map (·.text) := by
  have named : (Page.ofEntry entry).url = entry.reference := rfl
  rw [Tables.page?, Tables.upsert, Tables.page?_insertPage, if_pos named]
  cases tables.pages.find? (·.url == entry.reference) with
  | none => rfl
  | some known => rfl

theorem Database.storedDate?_eq {database : Database} (opened : database.isOpen = true)
    (entry : Entry) : database.storedDate? entry = .ok (entry.lastModified.map (·.text)) := by
  simp only [storedDate?, Database.upsert, update, Database.page?, query, opened, if_true,
    Bind.bind, Except.bind]
  exact congrArg Except.ok (database.tables.lastModified_upsert entry)

/-- No date is lost: what was read is read again from the text in which it is kept, and entries of
different instants are kept with different texts. -/
theorem stored_dates (datable : Datable t) :
    parseLastMod t.text = some t ∧
      ∀ {database : Database} {entry : Entry}, database.isOpen = true →
        entry.lastModified = some t →
          database.storedDate? entry = .ok (some t.text) ∧
          ∀ {other : Database} {second : Entry} {u : Instant}, other.isOpen = true →
            second.lastModified = some u → Datable u → u ≠ t →
              other.storedDate? second ≠ database.storedDate? entry := by
  refine ⟨datable.readback, ?_⟩
  intro database entry opened dated
  have stored : database.storedDate? entry = .ok (some t.text) := by
    rw [Database.storedDate?_eq opened, dated, Option.map_some]
  refine ⟨stored, ?_⟩
  intro other second u opened' dated' datable' differs same
  rw [stored, Database.storedDate?_eq opened', dated', Option.map_some] at same
  injection same with same
  exact differs (datable'.text_injective datable (Option.some.inj same))

theorem stored_dates_leap :
    let leap : Instant := ⟨1483228799, 1500000000⟩
    let next : Instant := ⟨1483228800, 500000000⟩
    let dated (t : Instant) : Entry := ⟨"http://a/", some t, none, none⟩
    let database := Database.create .memory
    parseLastMod "2016-12-31T15:59:60.5-08:00" = some leap ∧
      parseLastMod "2017-01-01T00:00:00.5Z" = some next ∧
      parseLastMod leap.text = some leap ∧
      database.storedDate? (dated leap) = .ok (some "2016-12-31T23:59:60.500+00:00") ∧
      database.storedDate? (dated next) ≠ database.storedDate? (dated leap) := by
  intro leap next dated database
  have told : parseLastMod "2016-12-31T15:59:60.5-08:00" = some leap := by decide
  have told' : parseLastMod "2017-01-01T00:00:00.5Z" = some next := by decide
  have datable : Datable leap := ⟨⟨_, told⟩, by decide⟩
  have datable' : Datable next := ⟨⟨_, told'⟩, by decide⟩
  have written : leap.text = "2016-12-31T23:59:60.500+00:00" := by decide
  obtain ⟨read, kept⟩ := stored_dates datable
  obtain ⟨stored, differs⟩ := @kept database (dated leap) rfl rfl
  rw [written] at stored
  exact ⟨told, told', read, stored, differs rfl rfl datable' (by decide)⟩

end Stored

end Sitemaps
