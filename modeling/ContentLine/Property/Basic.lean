import ContentLine.Property.Literal
import ContentLine.Property.Validity

/-!
# Properties

A property is a literal property or a date property. The operations on both are gathered here; those
that only a date property has fail on a literal one.

## Main definitions

- `Property`: the two cases.
- `Property.create`: the property of a kind with a name, parameters and a value.
- `Property.description`: the unambiguous text of a property.
- `Property.agrees`, `Property.key`: equality, and what equal date properties share.
- `Property.Change`, `Property.change`: the changes a property can undergo.
-/

namespace ContentLine

/-- A property. -/
inductive Property where
  /-- A property with a literal value. -/
  | literal (property : LiteralProperty)
  /-- A property with a date or date-time value. -/
  | dated (property : DateProperty)

namespace Property

/-- The property of a kind with the given name, parameters and value. The registry is of use to date
properties alone. -/
def create (leniency : Leniency) (kind : Kind) (name : String) (parameters : List Parameter)
    (value : String) (registry : ZoneRegistry) : Action Property :=
  match kind with
  | .literal kind => pure (literal (.create kind name parameters value))
  | .date kind => do
    let property ← DateProperty.create leniency kind name parameters value registry
    return dated property

/-- The kind. -/
def kind : Property → Kind
  | literal property => .literal property.kind
  | dated property => .date property.kind

/-- The name. -/
def name : Property → String
  | literal property => property.name
  | dated property => property.name

/-- The parameters, in order. -/
def parameters : Property → List Parameter
  | literal property => property.parameters
  | dated property => property.parameters

/-- The value as a text. -/
def value : Property → String
  | literal property => property.value
  | dated property => property.value

/-- The property with other parameters. -/
def withParameters (parameters : List Parameter) : Property → Property
  | literal property => literal { property with parameters }
  | dated property => dated { property with parameters }

/-- The unambiguous text of a property: its kind, and its name, parameters and value. -/
def description (property : Property) : String :=
  property.kind.name ++ "(name=" ++ Text.quote property.name ++ ", params=" ++
    Parameter.descriptions property.parameters ++ ", value=" ++ Text.quote property.value ++ ")"

/-- The date property, for an operation that only date properties have. -/
def dated? (operation : DateOperation) : Property → Except Fault DateProperty
  | literal property => .error (.noOperation property.kind.name operation)
  | dated property => .ok property

/-- The date or date-time that a date property reads as. -/
def read (leniency : Leniency) (property : Property) : Action (Option Reading) := do
  let property ← Action.lift (property.dated? .read)
  property.read leniency

/-- No fault if the property is consistent; a literal property always is. -/
def validate : Property → Except ValidityFault Unit
  | literal _ => .ok ()
  | dated property => property.validate

/-- Whether two properties are equal. Literal properties are equal if all their parts are; date
properties are if they read the same, where a property restricted to UTC is read before one that is
not, and else the first before the second; a literal property never equals a date property. -/
def agrees (leniency : Leniency) : Property → Property → Action Bool
  | literal a, literal b => pure (a == b)
  | dated a, dated b =>
    if a.kind = .any ∧ b.kind = .utcOnly then b.agrees leniency a else a.agrees leniency b
  | _, _ => pure false

/-- What equal date properties share. Literal properties have no such key. -/
def key (leniency : Leniency) : Property → Action (Option InstantKey)
  | literal property => Action.fail (.unhashable property.kind.name)
  | dated property => property.key leniency

/-- A change of a property. -/
inductive Change where
  /-- Set the value to that of a text. -/
  | setValue (text : String)
  | store (value : Option Temporal)
  /-- Resolve zones by another registry. -/
  | setRegistry (registry : ZoneRegistry)
  | addParameter (parameter : Parameter)
  /-- Put a parameter in the place of all of its name. -/
  | replaceParameter (parameter : Parameter)
  /-- Remove all parameters of a name. -/
  | removeParameters (name : String)

/-- The property after a change. A property whose change fails is left as it was. -/
def change (leniency : Leniency) (property : Property) : Change → Action Property
  | .setValue text =>
    match property with
    | literal property => pure (literal { property with value := text })
    | dated property => do
      let changed ← property.setValue leniency text
      return dated changed
  | .store value => do
    let property ← Action.lift (property.dated? .store)
    return dated { property with stored := value }
  | .setRegistry registry => do
    let property ← Action.lift (property.dated? .changeRegistry)
    return dated { property with registry }
  | .addParameter parameter =>
    pure (property.withParameters (Parameter.add parameter property.parameters))
  | .replaceParameter parameter =>
    pure (property.withParameters (Parameter.replace parameter property.parameters))
  | .removeParameters name =>
    pure (property.withParameters (Parameter.remove name property.parameters))

end Property

end ContentLine
