import ContentLine.Civil.Date
import ContentLine.Civil.TimeOfDay

/-!
# Local times

A date and a time of day, as a clock on the wall shows them, with no zone. Their distance is
measured in seconds from the start of the year 1970 on the same clock.

## Main definitions

- `LocalTime`: a date with a time of day.
- `LocalTime.seconds`: the seconds since the start of 1970.
- `LocalTime.atSeconds?`: the local time at a number of seconds, if its year is 1 to 9999.
- `LocalTime.extended`, `LocalTime.basic`: the two written forms.
-/

namespace ContentLine

/-- A date with a time of day. -/
structure LocalTime where
  /-- The date. -/
  date : Date
  /-- The time of day. -/
  time : TimeOfDay
deriving DecidableEq, Repr

/-- The day number of the first of January 1970. -/
def epochDay : Nat := 719162

/-- The number of seconds from the start of 1970 to the start of a day. -/
def startOfDay (dayNumber : Nat) : Int :=
  86400 * ((dayNumber : Int) - epochDay)

/-- The year that a number of seconds since the start of 1970 falls in; at least 1. -/
def yearOfSecond (seconds : Int) : Nat :=
  yearOfDay (seconds / 86400 + epochDay).toNat

namespace LocalTime

/-- The start of a date. -/
def midnight (date : Date) : LocalTime :=
  ⟨date, .midnight⟩

/-- The number of whole seconds since the start of 1970. -/
def seconds (wall : LocalTime) : Int :=
  startOfDay wall.date.dayNumber + wall.time.secondOfDay

/-- The local time at a number of seconds since the start of 1970, with the fraction of `wall`, if
its year is 1 to 9999. -/
def atSeconds? (wall : LocalTime) (seconds : Int) : Option LocalTime :=
  (Date.ofDayNumber? (seconds / 86400 + epochDay)).map fun date =>
    ⟨date, wall.time.atSecond (seconds % 86400).toNat⟩

/-- The extended form, with `separator` between the date and the time. -/
def extended (wall : LocalTime) (separator : Char) : List Char :=
  wall.date.extended ++ separator :: wall.time.extended

/-- The basic form, with a `T` between the date and the time. -/
def basic (wall : LocalTime) : List Char :=
  wall.date.basic ++ 'T' :: wall.time.basic

end LocalTime

end ContentLine
