import ContentLine.Civil.RangeFault
import ContentLine.Text.Decimal

/-!
# Calendar dates

Dates of the proleptic Gregorian calendar in the years 1 to 9999. Days are numbered from 0, the
first of January of the year 1.

## Main definitions

- `Date`: a date, valid by construction.
- `Date.of?`: a date from its components, or the first component out of range.
- `Date.dayNumber`, `Date.ofDayNumber?`: a date and the number of its day.
- `yearOfDay`: the year that a day number falls in.

## Main statements

- `Date.of?_eq_ok_iff`: the components of a date are exactly those that `Date.of?` accepts.
-/

namespace ContentLine

/-- Whether a year has a 29th of February. -/
def isLeapYear (year : Nat) : Bool :=
  year % 4 == 0 && (year % 100 != 0 || year % 400 == 0)

/-- The number of days of a month; there is none outside 1 to 12. -/
def monthLength (year : Nat) : Nat → Nat
  | 1 | 3 | 5 | 7 | 8 | 10 | 12 => 31
  | 4 | 6 | 9 | 11 => 30
  | 2 => if isLeapYear year then 29 else 28
  | _ => 0

/-- A date of the years 1 to 9999. -/
structure Date where
  /-- The year, counted from 1. -/
  year : Nat
  /-- The month, counted from 1. -/
  month : Nat
  /-- The day of the month, counted from 1. -/
  day : Nat
  year_range : 1 ≤ year ∧ year ≤ 9999 := by omega
  month_range : 1 ≤ month ∧ month ≤ 12 := by omega
  day_range : 1 ≤ day ∧ day ≤ monthLength year month := by omega
deriving DecidableEq, Repr

/-- The number of days before the first of January of a year. -/
def daysBeforeYear (year : Nat) : Nat :=
  let past := year - 1
  365 * past + past / 4 - past / 100 + past / 400

/-- The number of days of a year before the first of a month. -/
def daysBeforeMonth (year : Nat) : Nat → Nat
  | 0 => 0
  | month + 1 => daysBeforeMonth year month + monthLength year month

/-- The year of a day number: whole cycles of 400, 100, 4 and 1 years, where the last day of a cycle
that ends in a leap day still belongs to it. -/
def yearOfDay (dayNumber : Nat) : Nat :=
  let inEra := dayNumber % 146097
  let centuries := min 3 (inEra / 36524)
  let inCentury := inEra - 36524 * centuries
  let inQuad := inCentury % 1461
  400 * (dayNumber / 146097) + 100 * centuries + 4 * (inCentury / 1461) + min 3 (inQuad / 365) + 1

/-- Step through the months, `left` at most, from the first of `month` until `days` more days fit
into the month; the month and the day of the month. -/
def monthAndDay (year : Nat) (month days : Nat) : Nat → Nat × Nat
  | 0 => (month, days + 1)
  | left + 1 =>
    if days < monthLength year month then (month, days + 1)
    else monthAndDay year (month + 1) (days - monthLength year month) left

namespace Date

/-- The date with the given components, or the first component out of range. -/
def of? (year month day : Nat) : Except RangeFault Date :=
  if year_range : 1 ≤ year ∧ year ≤ 9999 then
    if month_range : 1 ≤ month ∧ month ≤ 12 then
      if day_range : 1 ≤ day ∧ day ≤ monthLength year month then
        .ok { year, month, day, year_range, month_range, day_range }
      else .error .day
    else .error .month
  else .error (.year year)

/-- The number of days since the first of January of the year 1. -/
def dayNumber (date : Date) : Nat :=
  daysBeforeYear date.year + daysBeforeMonth date.year date.month + (date.day - 1)

/-- The date with a day number, if it is in the years 1 to 9999. -/
def ofDayNumber? (n : Int) : Option Date :=
  if n < 0 then none
  else
    let year := yearOfDay n.toNat
    let (month, day) := monthAndDay year 1 (n.toNat - daysBeforeYear year) 11
    (of? year month day).toOption

/-- The extended form: four digits of year, two of month and two of day, between hyphens. -/
def extended (date : Date) : List Char :=
  Text.padded 4 date.year ++ '-' :: Text.padded 2 date.month ++ '-' :: Text.padded 2 date.day

/-- The basic form: the digits of the year, then two of month and two of day. The year is written
without leading zeros. -/
def basic (date : Date) : List Char :=
  Text.unpadded date.year ++ Text.padded 2 date.month ++ Text.padded 2 date.day

@[simp] theorem of?_components (date : Date) :
    of? date.year date.month date.day = .ok date := by
  simp [of?, date.year_range, date.month_range, date.day_range]

/-- The components of a date are exactly those that are accepted. -/
theorem of?_eq_ok_iff {year month day : Nat} {date : Date} :
    of? year month day = .ok date ↔ date.year = year ∧ date.month = month ∧ date.day = day := by
  constructor
  · intro h
    unfold of? at h
    split at h
    · split at h
      · split at h
        · cases h; exact ⟨rfl, rfl, rfl⟩
        · cases h
      · cases h
    · cases h
  · rintro ⟨rfl, rfl, rfl⟩
    exact of?_components date

end Date

end ContentLine
