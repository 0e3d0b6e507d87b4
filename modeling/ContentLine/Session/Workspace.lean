import ContentLine.Session.Step

/-!
# The workspace of a session

The state that steps see and change: what the variables hold, the positions of the switches, and all
events so far.

## Main definitions

- `Binding`: what a variable holds.
- `Workspace`: the state, `Workspace.empty` the state before the first step.
- `Workspace.registry?`, `Workspace.builder?`, `Workspace.property?`: look a variable up.
- `Workspace.factoriesOf`: the factories of a list of sources.
-/

namespace ContentLine.Session

/-- What a variable holds. -/
inductive Binding where
  /-- A registry, with the serial number its questions are recorded under. -/
  | registry (serial : Nat) (registry : ZoneRegistry)
  /-- A scripted factory, with its serial number. -/
  | factory (serial : Nat) (factory : Factory)
  | factories (factories : List Factory)
  | builder (builder : Builder)
  | property (property : Property)

/-- The state of a session. -/
structure Workspace where
  /-- The variables, the latest binding of a name first. -/
  bindings : List (String × Binding)
  /-- The positions of the switches. -/
  leniency : Leniency
  /-- All events so far, in order. -/
  events : List Event
  /-- The first serial number not yet given away. -/
  next : Nat

namespace Workspace

/-- The state before the first step. Serial number 0 is never given away. -/
def empty : Workspace :=
  ⟨[], .strict, [], 1⟩

/-- Bind a variable. -/
def bind (workspace : Workspace) (id : String) (binding : Binding) : Workspace :=
  { workspace with bindings := (id, binding) :: workspace.bindings }

/-- What a variable holds, if it is of the sort that `select` picks. -/
def get {α : Type} (workspace : Workspace) (id : String) (select : Binding → Option α) :
    Except Fault α :=
  match (workspace.bindings.lookup id).bind select with
  | some value => .ok value
  | none => .error (.unbound id)

/-- The registry that a variable holds, with its serial number. -/
def registry? (workspace : Workspace) (id : String) : Except Fault (Nat × ZoneRegistry) :=
  workspace.get id fun
    | .registry serial registry => some (serial, registry)
    | _ => none

/-- The serial number of the scripted factory that a variable holds. -/
def factorySerial? (workspace : Workspace) (id : String) : Except Fault Nat :=
  workspace.get id fun
    | .factory serial _ => some serial
    | _ => none

/-- The list of factories that a variable holds. -/
def factoryList? (workspace : Workspace) (id : String) : Except Fault (List Factory) :=
  workspace.get id fun
    | .factories factories => some factories
    | _ => none

/-- The builder that a variable holds. -/
def builder? (workspace : Workspace) (id : String) : Except Fault Builder :=
  workspace.get id fun
    | .builder builder => some builder
    | _ => none

/-- The property that a variable holds. -/
def property? (workspace : Workspace) (id : String) : Except Fault Property :=
  workspace.get id fun
    | .property property => some property
    | _ => none

variable [ZoneDatabase]

/-- The registry that a variable holds, or the standard one if no variable is given. -/
def registryOr (workspace : Workspace) : Option String → Except Fault ZoneRegistry
  | none => .ok .standard
  | some id => (workspace.registry? id).map (·.2)

/-- The factories of a source. -/
def factoriesOfSource (workspace : Workspace) : FactorySource → Except Fault (List Factory)
  | .standard => .ok Factory.standard
  | .named name kind => .ok [.named name kind]
  | .stored id =>
    workspace.get id fun
      | .factory _ factory => some [factory]
      | .factories factories => some factories
      | _ => none

/-- The factories of several sources, in order. -/
def factoriesOf (workspace : Workspace) (sources : List FactorySource) :
    Except Fault (List Factory) := do
  let lists ← sources.mapM workspace.factoriesOfSource
  return lists.flatten

/-- The setting described, with the variables it refers to. -/
def setting (workspace : Workspace) : SettingSpec → Except Fault Builder.Setting
  | .factories sources => (workspace.factoriesOf sources).map .factories
  | .registry none => .ok (.registry none)
  | .registry (some id) => (workspace.registry? id).map fun (_, zones) => .registry (some zones)
  | .plain setting => .ok setting

end Workspace

end ContentLine.Session
