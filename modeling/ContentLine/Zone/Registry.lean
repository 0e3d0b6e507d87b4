import ContentLine.Action
import ContentLine.Leniency
import ContentLine.Zone.Database
import ContentLine.Zone.Windows

/-!
# Zone registries

A registry resolves zone identifiers and names the zone of local times that come without one. How it
resolves is its own affair: a registry may know the database, a table of its own, or anything else.

## Main definitions

- `ZoneRegistry`: a way to resolve identifiers, with a default.
- `ZoneRegistry.database`, `ZoneRegistry.standard`: registries backed by the database.
- `ZoneRegistry.table`: a registry backed by a table.
- `ZoneRegistry.recorded`: a registry whose questions are events.

## Main statements

- `ZoneRegistry.resolveInDatabase_of_isName`: the database resolves its own names.
-/

namespace ContentLine

/-- A way to resolve zone identifiers. -/
structure ZoneRegistry where
  /-- The identifier of the zone for local times without one. -/
  defaultTzid : String
  /-- Find the zone of an identifier, or fail. -/
  resolve : Leniency → String → Action Zone

namespace ZoneRegistry

section Database

variable [ZoneDatabase]

/-- The zone of the database under a name, where `tzid` is the identifier asked for. -/
def find (tzid key : String) : Except Fault Zone :=
  if ZoneDatabase.isName key then .ok (.named key) else .error (.zone (.notInDatabase tzid))

/-- Look an identifier up in the database, after replacing it if it is a Windows name and those are
resolved. -/
def resolveInDatabase (leniency : Leniency) (tzid : String) : Action Zone :=
  match if leniency.windowsZones then Zone.ofWindowsName? tzid else none with
  | some key => do
    Action.note (.windowsZone key)
    Action.lift (find tzid key)
  | none => Action.lift (find tzid tzid)

/-- A name of the database is resolved to its zone where no Windows names are. -/
theorem resolveInDatabase_of_isName {leniency : Leniency} {tzid : String}
    (hwindows : leniency.windowsZones = false) (hname : ZoneDatabase.isName tzid = true) :
    (resolveInDatabase leniency tzid).result = .ok (.named tzid) := by
  simp [resolveInDatabase, hwindows, find, hname]

/-- The registry of the database with a default. -/
def database (defaultTzid : String) : ZoneRegistry :=
  ⟨defaultTzid, resolveInDatabase⟩

/-- The registry of the database with UTC as the default. -/
def standard : ZoneRegistry :=
  database "UTC"

end Database

/-- The registry that knows exactly the zones of a table. -/
def table (zones : List (String × Zone)) (defaultTzid : String) : ZoneRegistry where
  defaultTzid := defaultTzid
  resolve _ tzid :=
    match zones.lookup tzid with
    | some zone => pure zone
    | none => Action.fail (.zone (.notInTable tzid))

/-- The registry that answers like another and records each question under a serial number. -/
def recorded (serial : Nat) (registry : ZoneRegistry) : ZoneRegistry where
  defaultTzid := registry.defaultTzid
  resolve leniency tzid := do
    Action.emit (.lookup serial tzid)
    registry.resolve leniency tzid

/-- The description of the registry of the database with a default. -/
def description (defaultTzid : String) : String :=
  "ZoneInfoRegistry(default_tzid=" ++ Text.quote defaultTzid ++ ")"

@[simp] theorem recorded_defaultTzid (serial : Nat) (registry : ZoneRegistry) :
    (recorded serial registry).defaultTzid = registry.defaultTzid := rfl

end ZoneRegistry

end ContentLine
