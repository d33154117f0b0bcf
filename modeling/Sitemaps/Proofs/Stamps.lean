import Sitemaps.Proofs.Calendar
import Sitemaps.Proofs.Numerals

/-! The forms in which pages are dated, whether they name a day and a time that exist, and the
instant that they denote. -/

namespace Sitemaps

namespace Time

/-- A date by its digits, whether it exists or not. -/
structure Day where
  year : Fin 10000
  month : Fin 100
  day : Fin 100

def Day.chars (day : Day) : List Char :=
  numeral 4 day.year ++ '-' :: numeral 2 day.month ++ '-' :: numeral 2 day.day

def Day.fields (day : Day) : Fields :=
  { year := day.year.val, month := day.month, day := day.day }

/-- Universal time, or how far a clock is ahead of it or behind it. -/
inductive Zone
  | universal
  | shifted (behind : Bool) (hours : Fin 24) (minutes : Fin 60)

namespace Zone

def chars : Zone → List Char
  | universal => ['Z']
  | shifted behind hours minutes =>
    (if behind then '-' else '+') :: numeral 2 hours ++ ':' :: numeral 2 minutes

def seconds : Zone → Int
  | universal => 0
  | shifted behind hours minutes =>
    let size : Int := hours * 3600 + minutes * 60
    if behind then -size else size

theorem seconds_lt (zone : Zone) : zone.seconds.natAbs < 86400 := by
  cases zone with
  | universal => decide
  | shifted behind hours minutes =>
    have most : ((hours : Int) * 3600 + minutes * 60).natAbs < 86400 := by omega
    cases behind with
    | false => exact most
    | true => exact (Int.natAbs_neg _).trans_lt most

end Zone

structure Fraction where
  width : Nat
  number : Nat
  wide : 1 ≤ width ∧ width ≤ 9
  fits : number < 10 ^ width

namespace Fraction

def chars (fraction : Fraction) : List Char := '.' :: numeral fraction.width fraction.number

def nanos (fraction : Fraction) : Nat := fraction.number * 10 ^ (9 - fraction.width)

theorem nanos_lt (fraction : Fraction) : fraction.nanos < 1000000000 := by
  have wide := fraction.wide
  calc fraction.number * 10 ^ (9 - fraction.width)
      < 10 ^ fraction.width * 10 ^ (9 - fraction.width) :=
        Nat.mul_lt_mul_of_pos_right fraction.fits (by positivity)
    _ = 10 ^ (fraction.width + (9 - fraction.width)) := (pow_add _ _ _).symm
    _ = 10 ^ 9 := by rw [Nat.add_sub_cancel' wide.2]

end Fraction

end Time

namespace Sitemap

open Time

/-- A date as a sitemap writes it: a year, a month, a day, a minute or a second of a day. -/
inductive Stamp
  | year (year : Fin 10000)
  | month (year : Fin 10000) (month : Fin 100)
  | day (day : Day)
  | minute (day : Day) (hour minute : Fin 100) (zone : Option Zone)
  | second (day : Day) (hour minute second : Fin 100) (fraction : Option Fraction)
      (zone : Option Zone)

def minuteChars (day : Day) (hour minute : Fin 100) : List Char :=
  day.chars ++ 'T' :: numeral 2 hour ++ ':' :: numeral 2 minute

def optionChars {α : Type} (chars : α → List Char) : Option α → List Char
  | none => []
  | some a => chars a

namespace Stamp

def chars : Stamp → List Char
  | year y => numeral 4 y
  | month y m => numeral 4 y ++ '-' :: numeral 2 m
  | day d => d.chars
  | minute d h m zone => minuteChars d h m ++ optionChars Zone.chars zone
  | second d h m s fraction zone =>
    minuteChars d h m ++ ':' :: numeral 2 s ++ optionChars Fraction.chars fraction ++
      optionChars Zone.chars zone

def text (stamp : Stamp) : String := String.ofList stamp.chars

def date : Stamp → Day
  | year y => ⟨y, 1, 1⟩
  | month y m => ⟨y, m, 1⟩
  | day d | minute d _ _ _ | second d _ _ _ _ _ => d

def clock : Stamp → Clock
  | year _ | month _ _ | day _ => ⟨0, 0, 0, 0⟩
  | minute _ h m _ => ⟨h, m, 0, 0⟩
  | second _ h m s fraction _ => ⟨h, m, s, (fraction.map Fraction.nanos).getD 0⟩

def offset : Stamp → Int
  | year _ | month _ _ | day _ => 0
  | minute _ _ _ zone | second _ _ _ _ _ zone => (zone.map Zone.seconds).getD 0

structure Exists (stamp : Stamp) : Prop where
  date : DayExists stamp.date.year stamp.date.month stamp.date.day
  hour : stamp.clock.hour < 24
  minute : stamp.clock.minute < 60
  second : stamp.clock.second ≤ 60

/-- The instant that a stamp denotes. A second numbered 60 is a leap second: the one before it goes
on for another second. -/
def instant (stamp : Stamp) : Instant where
  seconds := daysSinceEpoch stamp.date.year stamp.date.month stamp.date.day * 86400 +
    (stamp.clock.hour * 3600 + stamp.clock.minute * 60 + min stamp.clock.second 59 : Nat) -
      stamp.offset
  nanos := stamp.clock.nanos + if stamp.clock.second = 60 then 1000000000 else 0

end Stamp

section Meaning

variable {stamp : Stamp}

def Stamp.reading (stamp : Stamp) : Option Instant :=
  Instant.ofLocal? ⟨stamp.date.year.val, stamp.date.month, stamp.date.day⟩ stamp.clock stamp.offset

theorem Stamp.exists_iff : stamp.Exists ↔
    DayExists stamp.date.year stamp.date.month stamp.date.day ∧ stamp.clock.hour < 24 ∧
      stamp.clock.minute < 60 ∧ stamp.clock.second ≤ 60 :=
  ⟨fun found => ⟨found.date, found.hour, found.minute, found.second⟩,
    fun ⟨dated, hours, minutes, seconds⟩ => ⟨dated, hours, minutes, seconds⟩⟩

instance (stamp : Stamp) : Decidable stamp.Exists := decidable_of_iff _ Stamp.exists_iff.symm

theorem Stamp.nanos_lt (stamp : Stamp) : stamp.clock.nanos < 1000000000 := by
  have none : 0 < 1000000000 := by decide
  cases stamp with
  | year y => exact none
  | month y m => exact none
  | day d => exact none
  | minute d h m zone => exact none
  | second d h m s fraction zone =>
    cases fraction with
    | none => exact none
    | some fraction => exact fraction.nanos_lt

theorem Stamp.offset_lt (stamp : Stamp) : stamp.offset.natAbs < 86400 := by
  have none : (0 : Int).natAbs < 86400 := by decide
  have shifted (zone : Option Zone) : ((zone.map Zone.seconds).getD 0).natAbs < 86400 := by
    cases zone with
    | none => exact none
    | some zone => exact zone.seconds_lt
  cases stamp with
  | year y => exact none
  | month y m => exact none
  | day d => exact none
  | minute d h m zone => exact shifted zone
  | second d h m s fraction zone => exact shifted zone

theorem Stamp.date_valid (stamp : Stamp) :
    Date.isValid ⟨stamp.date.year.val, stamp.date.month, stamp.date.day⟩ = true ↔
      DayExists stamp.date.year stamp.date.month stamp.date.day :=
  isValid_iff (Nat.le_of_lt_succ stamp.date.year.isLt)

theorem Stamp.clock_valid (stamp : Stamp) : stamp.clock.isValid = true ↔
    stamp.clock.hour < 24 ∧ stamp.clock.minute < 60 ∧ stamp.clock.second ≤ 60 := by
  have nanos := stamp.nanos_lt
  simp only [Clock.isValid, Bool.and_eq_true, decide_eq_true_eq]
  tauto

theorem Stamp.instant_days (found : stamp.Exists) : stamp.instant.seconds =
    Date.days ⟨stamp.date.year.val, stamp.date.month, stamp.date.day⟩ * daySeconds +
      (stamp.clock.hour * 3600 + stamp.clock.minute * 60 + (min stamp.clock.second 59 : Nat)) -
        stamp.offset := by
  rw [Date.days_eq found.date.inYear.1 found.date.inYear.2]
  simp [instant, daySeconds]

theorem Stamp.instant_within (found : stamp.Exists) :
    leastDay ≤ stamp.instant.seconds / daySeconds ∧
      stamp.instant.seconds / daySeconds ≤ greatestDay := by
  have year := Nat.le_of_lt_succ stamp.date.year.isLt
  have within := Date.days_within year found.date
  have offset := stamp.offset_lt
  have hour := found.hour
  have minute := found.minute
  rw [instant_days found, daySeconds]
  omega

theorem Stamp.reading_eq (stamp : Stamp) :
    stamp.reading = if stamp.Exists then some stamp.instant else none := by
  have small := stamp.offset_lt
  have valid := stamp.date_valid
  have clock := stamp.clock_valid
  unfold reading Instant.ofLocal?
  by_cases found : stamp.Exists
  · have within := instant_within found
    have dated := valid.mpr found.date
    have timed := clock.mpr ⟨found.hour, found.minute, found.second⟩
    dsimp only
    rw [← instant_days found, if_pos found, if_pos (by simp [dated, timed, small]),
      if_pos (by simp [within])]
    rfl
  · rw [if_neg found, if_neg]
    rw [Stamp.exists_iff, ← clock, ← valid] at found
    simp only [Bool.and_eq_true]
    tauto

end Meaning

end Sitemap

end Sitemaps
