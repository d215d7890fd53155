/-!
# Instants

Points in time and their text in the proleptic Gregorian calendar, at the resolution of
seconds. A leap second is a second whose fraction counts past the whole.
-/

namespace Gatehouse

/-- Seconds since the beginning of 1970 and nanoseconds on top of them; from a thousand million on
these belong to a leap second. -/
structure Instant where
  seconds : Int
  nanoseconds : Nat
deriving DecidableEq, Repr, Inhabited

/-- A day of the calendar. -/
structure CalendarDay where
  year : Int
  month : Nat
  day : Nat
deriving DecidableEq, Repr

namespace Instant

/-- The seconds of a day. -/
def secondsPerDay : Int := 86400

/-- The days between the first of March of the year 0 and the beginning of 1970. -/
def daysBeforeEpoch : Int := 719468

/-- The days of four hundred years. -/
def daysPerEra : Int := 146097

/-- The years after which the calendar repeats. -/
def yearsPerEra : Int := 400

/-- The day a number of days after the first of January 1970. Years are counted from March on, so
that the day of a leap year is the last of its year. -/
def calendarDay (days : Int) : CalendarDay :=
  let shifted := days + daysBeforeEpoch
  let era := shifted.fdiv daysPerEra
  let dayOfEra := (shifted.fmod daysPerEra).toNat
  let yearOfEra := (dayOfEra - dayOfEra / 1460 + dayOfEra / 36524 - dayOfEra / 146096) / 365
  let dayOfYear := dayOfEra - (365 * yearOfEra + yearOfEra / 4 - yearOfEra / 100)
  let monthFromMarch := (5 * dayOfYear + 2) / 153
  let day := dayOfYear - (153 * monthFromMarch + 2) / 5 + 1
  let month := if monthFromMarch < 10 then monthFromMarch + 3 else monthFromMarch - 9
  let year := yearOfEra + era * yearsPerEra + if month ≤ 2 then 1 else 0
  ⟨year, month, day⟩

/-- A number in at least a number of digits. -/
def padded (width number : Nat) : String :=
  let digits := toString number
  String.ofList (List.replicate (width - digits.length) '0') ++ digits

/-- The text of a year: four digits, and a sign and as many as it takes outside their range. -/
def writeYear (year : Int) : String :=
  if 0 ≤ year ∧ year ≤ 9999 then padded 4 year.toNat
  else (if year < 0 then "-" else "+") ++ padded 4 year.natAbs

/-- The text of an instant: day and time at the zero meridian, the leap second as the 61st. -/
def write (instant : Instant) : String :=
  let date := calendarDay (instant.seconds.fdiv secondsPerDay)
  let second := (instant.seconds.fmod secondsPerDay).toNat
  let leap := if instant.nanoseconds < 1000000000 then 0 else 1
  writeYear date.year ++ "-" ++ padded 2 date.month ++ "-" ++ padded 2 date.day ++ "T" ++
    padded 2 (second / 3600) ++ ":" ++ padded 2 (second / 60 % 60) ++ ":" ++
    padded 2 (second % 60 + leap) ++ "Z"

example : write ⟨951868799, 0⟩ = "2000-02-29T23:59:59Z" := by decide +kernel

example : write ⟨1483228799, 1000000000⟩ = "2016-12-31T23:59:60Z" := by decide +kernel

example : write ⟨-62135596801, 0⟩ = "0000-12-31T23:59:59Z" := by decide +kernel

example : write ⟨8210266876799, 0⟩ = "+262142-12-31T23:59:59Z" := by decide +kernel

example : write ⟨-8334601228800, 0⟩ = "-262143-01-01T00:00:00Z" := by decide +kernel

end Instant

end Gatehouse
