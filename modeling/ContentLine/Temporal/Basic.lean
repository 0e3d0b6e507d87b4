import ContentLine.Fault
import ContentLine.ZonedTime

/-!
# Temporal values

The value of a date property is a date, a moment in UTC, or a local time bound to a zone. A value
can be read as it is or viewed at another zone; neither changes it.

## Main definitions

- `Reading`: what reading a value gives, a date or a time in a zone.
- `Temporal`: the three variants.
- `Temporal.reading`, `Temporal.viewedAt`: the value itself, and the value at a zone.
- `Temporal.ics`: the literal of a value.
- `Reading.agrees`, `Temporal.agrees`: equality; `Reading.key`, `Temporal.key`: what equals share.
-/

namespace ContentLine

/-- A date, or a time in a zone. -/
inductive Reading where
  | date (date : Date)
  | time (time : ZonedTime)
deriving DecidableEq, Repr

/-- A date or a moment, to tell readings apart. -/
inductive InstantKey where
  | date (date : Date)
  /-- A moment of UTC in seconds since 1970 and microseconds. -/
  | moment (seconds : Int) (microsecond : Nat)
deriving DecidableEq, Repr

namespace Reading

/-- The equality of readings: a date never equals a time. -/
def agrees : Reading → Reading → Bool
  | date a, date b => a == b
  | time a, time b => a.agrees b
  | _, _ => false

/-- The date, or the moment of the first occurrence of the time. -/
def key : Reading → InstantKey
  | date d => .date d
  | time t => .moment t.instantKey.1 t.instantKey.2

end Reading

/-- The value of a date property. -/
inductive Temporal where
  | date (date : Date)
  /-- A moment, by the local time that UTC shows. -/
  | utc (wall : LocalTime) (fold : Bool)
  /-- A local time in a zone, with the identifier it was bound by. -/
  | zoned (time : ZonedTime) (tzid : String)
deriving DecidableEq, Repr

namespace Temporal

/-- The name of the variant. -/
def kind : Temporal → String
  | date _ => "DateOnly"
  | utc .. => "UtcInstant"
  | zoned .. => "ZonedDateTime"

/-- Whether the value is a moment in UTC. -/
def isUtc : Temporal → Bool
  | utc .. => true
  | _ => false

/-- The identifier of the zone that a local time is bound to. -/
def tzid? : Temporal → Option String
  | zoned _ tzid => some tzid
  | _ => none

/-- The value as it is. -/
def reading : Temporal → Reading
  | date d => .date d
  | utc wall fold => .time ⟨wall, fold, .utc⟩
  | zoned time _ => .time time

/-- The value at a zone: a date stays what it is, and a time is converted. -/
def viewedAt (value : Temporal) (zone : Zone) : Except Fault Reading :=
  match value.reading with
  | .date d => .ok (.date d)
  | .time time =>
    match time.inZone? zone with
    | some viewed => .ok (.time viewed)
    | none => .error .overflow

/-- The literal of a value: the basic form, with a `Z` for a moment in UTC and without the zone of a
local time. -/
def ics : Temporal → String
  | date d => String.ofList d.basic
  | utc wall _ => String.ofList (wall.basic ++ ['Z'])
  | zoned time _ => String.ofList time.wall.basic

/-- The equality of values: of one variant, with equal readings and the same identifier. -/
def agrees : Temporal → Temporal → Bool
  | date a, date b => a == b
  | utc a foldA, utc b foldB => (ZonedTime.mk a foldA .utc).agrees ⟨b, foldB, .utc⟩
  | zoned a tzidA, zoned b tzidB => a.agrees b && tzidA == tzidB
  | _, _ => false

/-- The date or the moment, and the identifier of the zone if there is one. -/
def key (value : Temporal) : InstantKey × Option String :=
  (value.reading.key, value.tzid?)

/-- A date is the same date at every zone. -/
@[simp] theorem viewedAt_date (d : Date) (zone : Zone) :
    (date d).viewedAt zone = .ok (.date d) := rfl

end Temporal

end ContentLine
