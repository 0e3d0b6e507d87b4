import ContentLine.Parameter

/-!
# Events

What happens while properties are built and read, apart from the result: the questions put to
registries and factories, and notes for a log.

## Main definitions

- `Note`, `Note.message`: an entry of the log and its wording.
- `Event`: a note, a question to a registry or a question to a factory.
-/

namespace ContentLine

/-- The part of the library that writes a note. -/
inductive NoteTopic where
  /-- Building a property. -/
  | builder
  /-- Collecting factories. -/
  | factories
  /-- Resolving a zone. -/
  | zones
  /-- Choosing how lenient to be. -/
  | leniency
deriving DecidableEq, Repr

/-- An entry of the log. -/
inductive Note where
  /-- A Windows name was taken for the zone named. -/
  | windowsZone (zone : String)
  /-- A factory was added to a registry. -/
  | registered (factory : String)
  /-- A factory's property takes the place of an earlier one's. -/
  | overrides (factory earlier name : String)
  /-- A property was built. -/
  | built (property : String)
  /-- A property without a factory was built. -/
  | builtExtra (name : String)
  /-- The producer of a calendar needs leniency. -/
  | lenientProducer
  /-- The producer of a calendar needs no leniency. -/
  | strictProducer
deriving DecidableEq, Repr

/-- The part of the library that writes a note. -/
def Note.topic : Note → NoteTopic
  | .windowsZone _ => .zones
  | .registered _ => .factories
  | .overrides .. | .built _ | .builtExtra _ => .builder
  | .lenientProducer | .strictProducer => .leniency

/-- The wording of a note. -/
def Note.message : Note → String
  | .windowsZone zone => "Using extended timezone: " ++ zone
  | .registered factory => "Registering property factory " ++ factory
  | .overrides factory earlier name =>
    "Property factory " ++ factory ++ " overrides " ++ earlier ++ " for " ++ name
  | .built property => "Built property " ++ property
  | .builtExtra name => "Building extra property " ++ name
  | .lenientProducer => "Enabling compatibility mode for Microsoft Exchange Server"
  | .strictProducer => "No compatibility mode needed"

/-- Something that happens besides the result. -/
inductive Event where
  /-- The registry with this serial number is asked for a zone. -/
  | lookup (registry : Nat) (tzid : String)
  /-- The factory with this serial number is asked for a property. -/
  | create (factory : Nat) (parameters : List Parameter) (value : String)
  /-- A note is written. -/
  | note (note : Note)
deriving DecidableEq, Repr

namespace Event

/-- The identifier asked for, if the event is a question to the given registry. -/
def lookupOf? (registry : Nat) : Event → Option String
  | lookup serial tzid => if serial = registry then some tzid else none
  | _ => none

/-- The parameters and the value, if the event is a question to the given factory. -/
def createOf? (factory : Nat) : Event → Option (List Parameter × String)
  | create serial parameters value => if serial = factory then some (parameters, value) else none
  | _ => none

/-- The note, if the event is one. -/
def note? : Event → Option Note
  | note entry => some entry
  | _ => none

end Event

end ContentLine
