import ContentLine.Temporal.Basic

/-!
# Moments offered as values

A date, a local time or a time in a zone can be offered to each variant of temporal values. A
variant takes what fits it and refuses the rest; a date offered as a time stands for its midnight.

## Main definitions

- `Moment`: what can be offered.
- `Temporal.ofDate`, `Temporal.ofUtc`, `Temporal.ofZoned`: the checked variants.
-/

namespace ContentLine

/-- A date, a local time without a zone, or a time in a zone. -/
inductive Moment where
  | date (date : Date)
  /-- A local time without a zone. -/
  | floating (wall : LocalTime)
  | zoned (time : ZonedTime)
deriving DecidableEq, Repr

namespace Moment

/-- The extended form, with a blank before the time. -/
def text : Moment → String
  | date d => String.ofList d.extended
  | floating wall => String.ofList (wall.extended ' ')
  | zoned time => String.ofList (time.extended ' ')

/-- The moment as a time: a date stands for its midnight. -/
def asTime : Moment → Moment
  | date d => floating (.midnight d)
  | moment => moment

end Moment

namespace Temporal

/-- A date, unless the moment has a time. -/
def ofDate : Moment → Except Fault Temporal
  | .date given => .ok (date given)
  | moment => .error (.specification (.hasTime moment.text))

/-- A moment in UTC, if the moment is a time in a zone whose offset then is zero. -/
def ofUtc (moment : Moment) : Except Fault Temporal :=
  match moment.asTime with
  | .zoned time =>
    if time.offset = 0 then
      match time.inZone? .utc with
      | some inUtc => .ok (utc inUtc.wall inUtc.fold)
      | none => .error .overflow
    else .error (.specification (.notUtc (Moment.zoned time).text))
  | other => .error (.specification (.notUtc other.text))

/-- A local time bound to a zone, if the moment has one. -/
def ofZoned (moment : Moment) (tzid : String) : Except Fault Temporal :=
  match moment.asTime with
  | .zoned time => .ok (zoned time tzid)
  | other => .error (.specification (.noZone other.text))

end Temporal

end ContentLine
