import Sitemaps.Time.Calendar

/-! Instants of universal time, leap seconds included, and their written form. -/

namespace Sitemaps.Time

/-- Seconds since 1970 and the nanoseconds after them; within a leap second the nanoseconds run on
past one second. -/
structure Instant where
  seconds : Int
  nanos : Nat
  deriving DecidableEq, Repr

structure Clock where
  hour : Nat
  minute : Nat
  second : Nat
  nanos : Nat
  deriving DecidableEq, Repr

/-- A second numbered 60 is a leap second. -/
def Clock.isValid (clock : Clock) : Bool :=
  clock.hour < 24 && clock.minute < 60 && clock.second ≤ 60 && clock.nanos < 1000000000

def daySeconds : Int := 86400

def Instant.ofLocal? (date : Date) (clock : Clock) (offset : Int) : Option Instant :=
  if date.isValid && clock.isValid && offset.natAbs < 86400 then
    let ofDay : Int := clock.hour * 3600 + clock.minute * 60 + (min clock.second 59 : Nat)
    let seconds := date.days * daySeconds + ofDay - offset
    let day := seconds / daySeconds
    if leastDay ≤ day && day ≤ greatestDay then
      some ⟨seconds, clock.nanos + (if clock.second = 60 then 1000000000 else 0)⟩
    else none
  else none

def padded (width : Nat) (n : Nat) : String :=
  let digits := toString n
  "".pushn '0' (width - digits.length) ++ digits

def yearText (year : Int) : String :=
  if 0 ≤ year ∧ year ≤ 9999 then padded 4 year.natAbs
  else (if year < 0 then "-" else "+") ++ padded 4 year.natAbs

def fractionText (nanos : Nat) : String :=
  if nanos = 0 then ""
  else if nanos % 1000000 = 0 then "." ++ padded 3 (nanos / 1000000)
  else if nanos % 1000 = 0 then "." ++ padded 6 (nanos / 1000)
  else "." ++ padded 9 nanos

def Instant.text (t : Instant) : String :=
  let date := Date.ofDays (t.seconds / daySeconds)
  let ofDay := (t.seconds % daySeconds).toNat
  let leap := if t.nanos < 1000000000 then 0 else 1
  yearText date.year ++ "-" ++ padded 2 date.month ++ "-" ++ padded 2 date.day ++ "T" ++
    padded 2 (ofDay / 3600) ++ ":" ++ padded 2 (ofDay / 60 % 60) ++ ":" ++
    padded 2 (ofDay % 60 + leap) ++ fractionText (t.nanos % 1000000000) ++ "+00:00"

end Sitemaps.Time
