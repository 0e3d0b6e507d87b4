import ContentLine.Factory
import ContentLine.Temporal.Moment

/-!
# Specifications

Descriptions of zones, values, registries and factories from which a session makes the things
themselves. Things with identity get theirs when they are made, from a serial number.

## Main definitions

- `ZoneSpec`, `MomentSpec`, `TemporalSpec`: a zone, a moment, a temporal value.
- `RegistrySpec`: a registry.
- `ScriptSpec`: a scripted factory.
-/

namespace ContentLine

variable [ZoneDatabase]

/-- A description of a zone. -/
inductive ZoneSpec where
  | utc
  /-- The zone of the database under a name. -/
  | named (key : String)
  /-- The zone with one offset and an optional name. -/
  | fixed (offset : Int) (name : Option String)
deriving DecidableEq, Repr

/-- The zone described. -/
def ZoneSpec.make (serial : Nat) : ZoneSpec → Zone
  | utc => .utc
  | named key => .named key
  | fixed offset name => .fixed serial offset name

/-- A description of a moment. -/
inductive MomentSpec where
  | date (date : Date)
  /-- A time, with the zone it is in, if any. -/
  | time (wall : LocalTime) (fold : Bool) (zone : Option ZoneSpec)
deriving DecidableEq, Repr

/-- The moment described. -/
def MomentSpec.make (serial : Nat) : MomentSpec → Moment
  | date d => .date d
  | time wall fold (some zone) => .zoned ⟨wall, fold, zone.make serial⟩
  | time wall _ none => .floating wall

/-- A description of a temporal value. -/
inductive TemporalSpec where
  | date (moment : MomentSpec)
  | utc (moment : MomentSpec)
  /-- A local time bound to its zone by an identifier. -/
  | zoned (moment : MomentSpec) (tzid : String)
deriving DecidableEq, Repr

/-- The value described, if the moment fits the variant. -/
def TemporalSpec.make (serial : Nat) : TemporalSpec → Except Fault Temporal
  | date moment => Temporal.ofDate (moment.make serial)
  | utc moment => Temporal.ofUtc (moment.make serial)
  | zoned moment tzid => Temporal.ofZoned (moment.make serial) tzid

/-- A description of a registry. -/
inductive RegistrySpec where
  /-- The registry of the database, with a default if one is given. -/
  | database (defaultTzid : Option String)
  /-- The registry of a table of zones with one offset and an optional name each. -/
  | table (zones : List (String × Int × Option String)) (defaultTzid : String)
deriving DecidableEq, Repr

/-- The number of serial numbers that the zones of a registry take. -/
def RegistrySpec.zoneCount : RegistrySpec → Nat
  | database _ => 0
  | table zones _ => zones.length

/-- Make each zone of a table, with serial numbers from `serial` on. -/
def RegistrySpec.makeZones (serial : Nat) :
    List (String × Int × Option String) → List (String × Zone)
  | [] => []
  | (tzid, offset, name) :: rest =>
    (tzid, .fixed serial offset name) :: makeZones (serial + 1) rest

/-- The registry described, whose zones have serial numbers from `serial` on. -/
def RegistrySpec.make (serial : Nat) : RegistrySpec → ZoneRegistry
  | database defaultTzid => .database (defaultTzid.getD ZoneRegistry.standard.defaultTzid)
  | table zones defaultTzid => .table (makeZones serial zones) defaultTzid

/-- A description of a scripted factory. -/
structure ScriptSpec where
  /-- The label. -/
  label : String
  /-- The names supported. -/
  names : List String
  /-- The kind of the properties created. -/
  kind : Kind
  /-- What happens on every question. -/
  outcome : Factory.Outcome
deriving DecidableEq, Repr

/-- The factory described. -/
def ScriptSpec.make (script : ScriptSpec) : Factory :=
  .scripted script.label script.names script.kind script.outcome

end ContentLine
