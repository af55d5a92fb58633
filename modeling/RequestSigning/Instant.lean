/-!
# Instants

An instant is a count of seconds since the start of 1970 in universal time, with the nanoseconds
that go beyond that second.

* `Instant`: the type; half a second before the start of 1970 is `⟨-1, 500000000⟩`.
* `Instant.unixText`: the seconds in decimal, the form in which a signature carries its time.
* `Instant.civil`: year, month and day in the Gregorian calendar.
* `Instant.describe`: date and time of day for people.
-/

namespace RequestSigning

structure Instant where
  seconds : Int
  nanos : Fin 1000000000
deriving DecidableEq

namespace Instant

/-- The seconds in decimal. -/
def unixText (t : Instant) : String :=
  toString t.seconds

/-- A calendar day. -/
structure CivilDate where
  year : Int
  month : Int
  day : Int
deriving DecidableEq

/-- The Gregorian date of a day counted from 1 January 1970. Years are taken to begin in March, so
that a leap day is the last day of its year, and the 400 years of a full cycle have 146097 days. -/
def civil (day : Int) : CivilDate :=
  let shifted := day + 719468
  let cycle := shifted.fdiv 146097
  let dayOfCycle := shifted.fmod 146097
  let yearOfCycle := (dayOfCycle - dayOfCycle.fdiv 1460 + dayOfCycle.fdiv 36524 -
    dayOfCycle.fdiv 146096).fdiv 365
  let dayOfYear := dayOfCycle - (365 * yearOfCycle + yearOfCycle.fdiv 4 - yearOfCycle.fdiv 100)
  let marchMonth := (5 * dayOfYear + 2).fdiv 153
  let month := if marchMonth < 10 then marchMonth + 3 else marchMonth - 9
  let year := yearOfCycle + 400 * cycle
  ⟨if month ≤ 2 then year + 1 else year, month, dayOfYear - (153 * marchMonth + 2).fdiv 5 + 1⟩

/-- The decimal digits of `n`, with zeros in front up to `width` of them. -/
def padded (width n : Nat) : String :=
  let digits := Nat.toDigits 10 n
  String.ofList (List.replicate (width - digits.length) '0' ++ digits)

/-- Years from 0 to 9999 have four digits, and other years a sign before at least four. -/
def yearText (year : Int) : String :=
  if 0 ≤ year && year ≤ 9999 then padded 4 year.toNat
  else (if year < 0 then "-" else "+") ++ padded 4 year.natAbs

/-- The fraction of a second with three, six or nine digits, whichever is the shortest exact
form, and nothing for a whole second. -/
def fractionText (nanos : Nat) : String :=
  if nanos = 0 then ""
  else if nanos % 1000000 = 0 then "." ++ padded 3 (nanos / 1000000)
  else if nanos % 1000 = 0 then "." ++ padded 6 (nanos / 1000)
  else "." ++ padded 9 nanos

/-- Date and time of day in universal time, as in `2011-10-14T20:09:18Z`. -/
def describe (t : Instant) : String :=
  let date := civil (t.seconds.fdiv 86400)
  let second := (t.seconds.fmod 86400).toNat
  yearText date.year ++ "-" ++ padded 2 date.month.toNat ++ "-" ++ padded 2 date.day.toNat ++
    "T" ++ padded 2 (second / 3600) ++ ":" ++ padded 2 (second / 60 % 60) ++ ":" ++
    padded 2 (second % 60) ++ fractionText t.nanos ++ "Z"

example : describe ⟨1318622958, 0⟩ = "2011-10-14T20:09:18Z" := by decide +kernel

example : civil 0 = ⟨1970, 1, 1⟩ ∧ civil (-1) = ⟨1969, 12, 31⟩ ∧ civil 11016 = ⟨2000, 2, 29⟩ := by
  decide

end Instant

end RequestSigning
