import ContentLine.Parameter
import ContentLine.Property.Kind
import ContentLine.Temporal.Parse

/-!
# Date properties

A property whose value is a date or a date-time. The value is decided when it is set, with the TZID
parameter and the registry of that moment. Reading consults the TZID parameter and the registry of
the moment of reading, and never changes the stored value.

## Main definitions

- `DateProperty`: kind, name, parameters, stored value and registry.
- `DateProperty.setValue`, `DateProperty.create`: store the value of a text.
- `DateProperty.read`: the stored value as the parameters now present it.
- `DateProperty.value`: the literal of the stored value.

## Main statements

- `DateProperty.result_read`: what a property reads as, case by case.
-/

namespace ContentLine

/-- A property whose value is a date or a date-time. -/
structure DateProperty where
  /-- The kind. -/
  kind : DateKind
  /-- The name, in upper case when made by `create`. -/
  name : String
  /-- The parameters, in order. -/
  parameters : List Parameter
  /-- The stored value, if one is set. -/
  stored : Option Temporal
  /-- The registry that resolves zone identifiers. -/
  registry : ZoneRegistry

namespace DateProperty

/-- The value of the first TZID parameter. -/
def tzid (property : DateProperty) : Option String :=
  (Parameter.first? Parameter.tzidName property.parameters).map (·.value)

/-- The literal of the stored value, empty if there is none. -/
def value (property : DateProperty) : String :=
  match property.stored with
  | some temporal => temporal.ics
  | none => ""

/-- Whether the stored value is a moment in UTC. -/
def isUtc (property : DateProperty) : Bool :=
  property.stored.any Temporal.isUtc

/-- Store the value of a text, or nothing for the empty text. -/
def setValue (leniency : Leniency) (text : String) (property : DateProperty) :
    Action DateProperty :=
  if text = "" then pure { property with stored := none }
  else do
    let temporal ← Temporal.parse property.registry leniency property.tzid text
    return { property with stored := some temporal }

/-- The property with the given name, in upper case, and parameters, and no value. -/
def empty (kind : DateKind) (name : String) (parameters : List Parameter)
    (registry : ZoneRegistry) : DateProperty :=
  ⟨kind, Text.upper name, parameters, none, registry⟩

/-- The property with the given name, in upper case, and parameters, and the value of a text. -/
def create (leniency : Leniency) (kind : DateKind) (name : String) (parameters : List Parameter)
    (value : String) (registry : ZoneRegistry) : Action DateProperty :=
  (empty kind name parameters registry).setValue leniency value

/-- The stored value as it is, or viewed at the zone of the TZID parameter if there is one. -/
def read (leniency : Leniency) (property : DateProperty) : Action (Option Reading) :=
  match property.stored, property.tzid with
  | none, _ => pure none
  | some temporal, none => pure (some temporal.reading)
  | some temporal, some tzid => do
    let zone ← property.registry.resolve leniency tzid
    let reading ← Action.lift (temporal.viewedAt zone)
    return some reading

/-- What a property reads as, by what is stored and the TZID parameter. -/
theorem result_read (leniency : Leniency) (property : DateProperty) :
    (property.read leniency).result =
      match property.stored, property.tzid with
      | none, _ => .ok none
      | some temporal, none => .ok (some temporal.reading)
      | some temporal, some tzid =>
        match (property.registry.resolve leniency tzid).result with
        | .ok zone => (temporal.viewedAt zone).map some
        | .error fault => .error fault := by
  rw [read]
  cases property.stored with
  | none => rfl
  | some temporal =>
    cases property.tzid with
    | none => rfl
    | some tzid =>
      dsimp only
      rw [Action.result_bind]
      cases (property.registry.resolve leniency tzid).result with
      | error fault => rfl
      | ok zone =>
        dsimp only [Except.bind]
        rw [Action.result_bind, Action.result_lift]
        cases temporal.viewedAt zone <;> rfl

/-- Whether two properties read the same. The second is read after the first, and only if the first
can be read. -/
def agrees (leniency : Leniency) (a b : DateProperty) : Action Bool := do
  let readingA ← a.read leniency
  let readingB ← b.read leniency
  return match readingA, readingB with
    | none, none => true
    | some x, some y => x.agrees y
    | _, _ => false

/-- What properties that read the same share. -/
def key (leniency : Leniency) (property : DateProperty) : Action (Option InstantKey) := do
  let reading ← property.read leniency
  return reading.map Reading.key

end DateProperty

end ContentLine
