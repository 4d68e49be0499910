import Mathlib.Data.Int.Basic

/-! The proleptic Gregorian calendar in UTC. Instants are milliseconds since the
first of January 1970. -/

set_option autoImplicit false

namespace Tamanor.Library

def millisecondsPerDay : Int := 86400000

/-- Days since the epoch of the first day of a month. The years of an era of 400
are counted from March, so that the leap day is the last day of a year. -/
def daysFromCivil (year month : Int) : Int :=
  let year := if month ≤ 2 then year - 1 else year
  let era := year.fdiv 400
  let yearOfEra := year - era * 400
  let dayOfYear := (153 * (month + 9).fmod 12 + 2).fdiv 5
  era * 146097 + (yearOfEra * 365 + yearOfEra.fdiv 4 - yearOfEra.fdiv 100 + dayOfYear) - 719468

def civilFromDays (days : Int) : Int × Int :=
  let shifted := days + 719468
  let era := shifted.fdiv 146097
  let dayOfEra := shifted - era * 146097
  let yearOfEra := (dayOfEra - dayOfEra.fdiv 1460 + dayOfEra.fdiv 36524 -
    dayOfEra.fdiv 146096).fdiv 365
  let dayOfYear := dayOfEra - (365 * yearOfEra + yearOfEra.fdiv 4 - yearOfEra.fdiv 100)
  let fromMarch := (5 * dayOfYear + 2).fdiv 153
  let month := if fromMarch < 10 then fromMarch + 3 else fromMarch - 9
  (yearOfEra + era * 400 + (if month ≤ 2 then 1 else 0), month)

example : civilFromDays (daysFromCivil 2024 3 - 1) = (2024, 2) := by decide

def monthBounds (now : Int) : Int × Int :=
  let (year, month) := civilFromDays (now.fdiv millisecondsPerDay)
  let next := if month = 12 then daysFromCivil (year + 1) 1 else daysFromCivil year (month + 1)
  (daysFromCivil year month * millisecondsPerDay, next * millisecondsPerDay)

/-- A number with leading zeros, at least `width` digits long. -/
def padDigits (width number : Nat) : String :=
  let digits := toString number
  String.ofList (List.replicate (width - digits.length) '0') ++ digits

/-- `Date.prototype.toISOString`. -/
def toISOString (instant : Int) : String :=
  let days := instant.fdiv millisecondsPerDay
  let (year, month) := civilFromDays days
  let day := days - daysFromCivil year month + 1
  let milliseconds := (instant - days * millisecondsPerDay).toNat
  let printedYear :=
    if 0 ≤ year ∧ year ≤ 9999 then padDigits 4 year.toNat
    else (if year < 0 then "-" else "+") ++ padDigits 6 year.natAbs
  printedYear ++ "-" ++ padDigits 2 month.toNat ++ "-" ++ padDigits 2 day.toNat ++ "T" ++
    padDigits 2 (milliseconds / 3600000) ++ ":" ++ padDigits 2 (milliseconds / 60000 % 60) ++ ":" ++
    padDigits 2 (milliseconds / 1000 % 60) ++ "." ++ padDigits 3 (milliseconds % 1000) ++ "Z"

example : toISOString 1709251199007 = "2024-02-29T23:59:59.007Z" := by decide +kernel

/-- The days of a time zone, by their first instants. -/
structure LocalDays where
  dayStart : Int → Int
  dayStart_le : ∀ instant, dayStart instant ≤ instant
  dayStart_eq : ∀ {instant earlier}, dayStart instant ≤ earlier → earlier ≤ instant →
    dayStart earlier = dayStart instant

theorem LocalDays.dayStart_mono (days : LocalDays) {earlier later : Int} (le : earlier ≤ later) :
    days.dayStart earlier ≤ days.dayStart later := by
  by_cases within : days.dayStart later ≤ earlier
  · exact Int.le_of_eq (days.dayStart_eq within le)
  · have first := days.dayStart_le earlier
    omega

def utcDays : LocalDays where
  dayStart instant := instant.fdiv millisecondsPerDay * millisecondsPerDay
  dayStart_le instant := by
    simp only [millisecondsPerDay, Int.fdiv_eq_ediv_of_nonneg _ (show (0 : Int) ≤ 86400000 by decide)]
    omega
  dayStart_eq := by
    intro instant earlier
    simp only [millisecondsPerDay, Int.fdiv_eq_ediv_of_nonneg _ (show (0 : Int) ≤ 86400000 by decide)]
    omega

end Tamanor.Library
