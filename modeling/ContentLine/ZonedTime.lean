import ContentLine.Zone.Basic

/-!
# Times in a zone

A local time read in a zone, with the fold that tells which occurrence is meant where the clock
repeats itself. Every such reading has an offset and hence a moment of UTC, also in a gap, where no
clock shows it.

## Main definitions

- `ZonedTime`: a local time, a fold and a zone.
- `ZonedTime.offset`, `ZonedTime.utcSeconds`: the offset of a reading and the moment it denotes.
- `ZonedTime.inZone?`: the same moment in another zone.
- `ZonedTime.agrees`: the equality of readings.
- `ZonedTime.instantKey`: what equal readings share.

## Main statements

- `ZonedTime.inZone?_self`: a reading is kept as it is in its own zone.
- `ZonedTime.agrees_self`: every reading agrees with itself.
-/

namespace ContentLine

/-- A local time read in a zone. -/
structure ZonedTime where
  /-- The local time. -/
  wall : LocalTime
  /-- Whether the second of two occurrences is meant. -/
  fold : Bool
  /-- The zone. -/
  zone : Zone
deriving DecidableEq, Repr

namespace ZonedTime

/-- The offset from UTC, in seconds east. -/
def offset (time : ZonedTime) : Int :=
  time.zone.rules.offsetAtWall time.wall.seconds time.fold

/-- The moment of UTC, in whole seconds since 1970. -/
def utcSeconds (time : ZonedTime) : Int :=
  time.wall.seconds - time.offset

/-- The same local time with a given fold. -/
def withFold (time : ZonedTime) (fold : Bool) : ZonedTime :=
  { time with fold }

/-- Whether the two folds are read with different offsets: a time in a gap or in an overlap. -/
def dependsOnFold (time : ZonedTime) : Bool :=
  time.offset != (time.withFold !time.fold).offset

/-- The time of a zone at a moment of UTC, with the fraction of `wall`, if its year is 1 to 9999. -/
def ofUtc? (zone : Zone) (utc : Int) (wall : LocalTime) : Option ZonedTime :=
  (wall.atSeconds? (utc + zone.rules.offsetAtUtc utc)).map fun shown =>
    ⟨shown, zone.rules.foldAtUtc utc, zone⟩

/-- The same moment in a zone. The reading is kept as it is if it is in that very zone; otherwise
both the moment of UTC and the local time in the zone must be in the years 1 to 9999. -/
def inZone? (time : ZonedTime) (zone : Zone) : Option ZonedTime :=
  if time.zone = zone then some time
  else
    match time.wall.atSeconds? time.utcSeconds with
    | some _ => ofUtc? zone time.utcSeconds time.wall
    | none => none

/-- The equality of readings. In one zone the local times are compared and the folds ignored; in two
zones the moments are compared, and a reading that depends on its fold equals nothing. -/
def agrees (a b : ZonedTime) : Bool :=
  if a.zone = b.zone then a.wall = b.wall
  else
    a.utcSeconds == b.utcSeconds && a.wall.time.microsecond == b.wall.time.microsecond &&
      !a.dependsOnFold && !b.dependsOnFold

/-- The moment that the first occurrence denotes, in seconds and microseconds. -/
def instantKey (time : ZonedTime) : Int × Nat :=
  ((time.withFold false).utcSeconds, time.wall.time.microsecond)

/-- The extended form of the local time, followed by the offset. -/
def extended (time : ZonedTime) (separator : Char) : List Char :=
  time.wall.extended separator ++ Zone.offsetText time.offset

/-- A reading is kept as it is in its own zone. -/
@[simp] theorem inZone?_self (time : ZonedTime) : time.inZone? time.zone = some time := by
  simp [inZone?]

/-- Every reading agrees with itself. -/
@[simp] theorem agrees_self (time : ZonedTime) : time.agrees time = true := by
  simp [agrees]

end ZonedTime

end ContentLine
