import ContentLine.Civil.LocalTime

/-!
# Shifts and seasons

A shift is a moment at which the clocks of a zone change their offset from UTC. A season is a rule
that gives two shifts for every year: one to an alternate offset and one back.

A wall clock that is set back shows some times twice, and one that is set forward skips some. The
`fold` of a reading tells which of two occurrences is meant: `false` for the first, `true` for the
second. In a gap, `false` reads with the offset before the shift and `true` with the one after it.

## Main definitions

- `Shift`: a change of offset, `Shift.wallMark` the wall time from which a reading lies after it.
- `YearlyMark`: a weekday of a month, with a time.
- `Season`: the two shifts of a year.
- `Season.offsetAtWall`, `Season.offsetAtUtc`, `Season.repeatsAt`: what the rule alone says.
-/

namespace ContentLine

/-- A change of the offset at a moment, in seconds of UTC since 1970. -/
structure Shift where
  /-- The first moment with the new offset. -/
  instant : Int
  /-- The offset before the moment, in seconds east. -/
  before : Int
  /-- The offset from the moment on, in seconds east. -/
  after : Int
deriving DecidableEq, Repr

namespace Shift

/-- The wall time from which a reading with this `fold` has the new offset. -/
def wallMark (shift : Shift) (fold : Bool) : Int :=
  shift.instant + if fold then min shift.before shift.after else max shift.before shift.after

/-- Whether a moment from the shift on shows a wall time that was already shown before the shift,
when the offset at the moment is `offset`. -/
def repeatsUnder (shift : Shift) (offset utc : Int) : Bool :=
  shift.instant ≤ utc && utc - shift.instant < shift.before - offset

/-- Whether a moment shows, for the second time, a wall time that the shift repeats. -/
def repeatsAt (shift : Shift) (utc : Int) : Bool :=
  shift.repeatsUnder shift.after utc

end Shift

/-- A day of the year given by month, week and weekday, and a wall time in seconds from its
midnight, which may lie outside the day. -/
structure YearlyMark where
  /-- The month, from 1. -/
  month : Nat
  /-- Which such weekday of the month, from 1; 5 stands for the last one. -/
  week : Nat
  /-- The weekday, from 0 for Sunday. -/
  weekday : Nat
  /-- The wall time in seconds from midnight. -/
  time : Int
deriving DecidableEq, Repr

/-- The day of the month that a mark names in a year, counted from 0. -/
def YearlyMark.dayIndex (mark : YearlyMark) (year : Nat) : Nat :=
  -- Day number 0 is a Monday.
  let firstWeekday := (daysBeforeYear year + daysBeforeMonth year mark.month + 1) % 7
  let day := (mark.weekday + 7 - firstWeekday) % 7 + 7 * (mark.week - 1)
  if day < monthLength year mark.month then day else day - 7

/-- The wall time of a mark in a year, in seconds since the start of 1970. -/
def YearlyMark.wall (mark : YearlyMark) (year : Nat) : Int :=
  let monthStart := daysBeforeYear year + daysBeforeMonth year mark.month
  startOfDay (monthStart + mark.dayIndex year) + mark.time

/-- Two offsets that alternate within every year. -/
structure Season where
  /-- The offset outside the season. -/
  base : Int
  /-- The offset during the season. -/
  alternate : Int
  /-- The start of the season, on the clock of `base`. -/
  starts : YearlyMark
  /-- The end of the season, on the clock of `alternate`. -/
  ends : YearlyMark
deriving DecidableEq, Repr

/-- Whether `x` lies in the part of the year from `start` to `finish`, which may run around the turn
of the year. -/
def withinYear (start finish x : Int) : Bool :=
  if start < finish then start ≤ x && x < finish else x < finish || start ≤ x

namespace Season

/-- The shift to the alternate offset in a year. -/
def start (season : Season) (year : Nat) : Shift :=
  ⟨season.starts.wall year - season.base, season.base, season.alternate⟩

/-- The shift back to the base offset in a year. -/
def finish (season : Season) (year : Nat) : Shift :=
  ⟨season.ends.wall year - season.alternate, season.alternate, season.base⟩

/-- The offset at a wall time. -/
def offsetAtWall (season : Season) (wall : Int) (fold : Bool) : Int :=
  let year := yearOfSecond wall
  if withinYear ((season.start year).wallMark fold) ((season.finish year).wallMark fold) wall then
    season.alternate
  else season.base

/-- The offset at a moment of UTC. -/
def offsetAtUtc (season : Season) (utc : Int) : Int :=
  let year := yearOfSecond utc
  if withinYear (season.start year).instant (season.finish year).instant utc then season.alternate
  else season.base

/-- Whether a moment of UTC shows a wall time for the second time. -/
def repeatsAt (season : Season) (utc : Int) : Bool :=
  let year := yearOfSecond utc
  (season.start year).repeatsAt utc || (season.finish year).repeatsAt utc

end Season

end ContentLine
