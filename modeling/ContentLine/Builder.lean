import ContentLine.Factory
import ContentLine.Text.Blank
import ContentLine.Text.Escape

/-!
# Building properties

A builder gathers what is known of one content line: factories, name, value, parameters and the
registry for zones. Building asks every factory that supports the name, in order, and the last one
that creates a property decides. A text value is then unescaped, and a date value set under the
registry. Without such a factory the line becomes an extra property, if its name may do so.

## Main definitions

- `Builder`, `Builder.Setting`, `Builder.configure`: what a builder gathers, and how.
- `isExperimental`: whether a name needs no factory.
- `Builder.choose`: the property of the last factory that creates one.
- `Builder.finish`: the property with the value of the line.
- `Builder.build`: the property of the line.
-/

namespace ContentLine

/-- A content line split into its parts. -/
structure RawLine where
  /-- The name. -/
  name : String
  /-- The value. -/
  value : String
  /-- The parameters, if there are any. -/
  parameters : Option (List RawParameter)
deriving DecidableEq, Repr

/-- The parameters of a content line. -/
def RawLine.parameterList (parameters : Option (List RawParameter)) : List Parameter :=
  (parameters.getD []).map Parameter.ofRaw

/-- Whether a name starts with `X-` and goes on. -/
def isExperimental (name : String) : Bool :=
  match name.toList with
  | 'X' :: '-' :: _ :: _ => true
  | _ => false

/-- What is known of a property to be built. -/
structure Builder where
  /-- The factories, later ones taking precedence. -/
  factories : List Factory
  /-- The name, in upper case. -/
  name : String
  /-- The value, without blanks at its ends. -/
  value : String
  /-- The parameters, in order. -/
  parameters : List Parameter
  /-- The registry for zones, if one is set. -/
  registry : Option ZoneRegistry
  /-- Whether any name may be built; left to the leniency if not set. -/
  allowAnyName : Option Bool

namespace Builder

/-- The builder that knows nothing yet. -/
def new (allowAnyName : Option Bool) : Builder :=
  ⟨[], "", "", [], none, allowAnyName⟩

/-- A piece of knowledge for a builder. -/
inductive Setting where
  | factories (more : List Factory)
  | name (text : String)
  | value (text : String)
  | parameter (parameter : Parameter)
  | parameters (more : List Parameter)
  /-- The registry for zones, or none. -/
  | registry (registry : Option ZoneRegistry)
  /-- The name, the value and more parameters. -/
  | line (line : RawLine)

/-- Set the name, in upper case. -/
def setName (text : String) (builder : Builder) : Builder :=
  { builder with name := Text.upper text }

/-- Set the value, without blanks at its ends. -/
def setValue (text : String) (builder : Builder) : Builder :=
  { builder with value := Text.trim text }

/-- Append parameters. -/
def addParameters (more : List Parameter) (builder : Builder) : Builder :=
  { builder with parameters := builder.parameters ++ more }

/-- Take a setting over. -/
def configure (builder : Builder) : Setting → Builder
  | .factories more => { builder with factories := builder.factories ++ more }
  | .name text => builder.setName text
  | .value text => builder.setValue text
  | .parameter parameter => builder.addParameters [parameter]
  | .parameters more => builder.addParameters more
  | .registry registry => { builder with registry }
  | .line line =>
    ((builder.setName line.name).setValue line.value).addParameters
      (RawLine.parameterList line.parameters)

/-- Whether a name without a factory may be built. -/
def allowsAnyName (builder : Builder) (leniency : Leniency) : Bool :=
  builder.allowAnyName.getD leniency.anyName

/-- A property and the factory that created it. -/
structure Candidate where
  /-- The property. -/
  property : Property
  /-- The label of the factory. -/
  factory : String

/-- Ask a factory, if it supports the name; its property takes the place of an earlier one. -/
def consider (builder : Builder) (leniency : Leniency) (best : Option Candidate)
    (factory : Factory) : Action (Option Candidate) :=
  if factory.supports builder.name then do
    match ← factory.create leniency builder.parameters builder.value with
    | none => return best
    | some property => do
      match best with
      | some earlier =>
        Action.note (.overrides factory.label earlier.factory builder.name)
      | none => pure ()
      return some ⟨property, factory.label⟩
  else pure best

/-- The property of the last factory that creates one. -/
def choose (builder : Builder) (leniency : Leniency) : Action (Option Property) := do
  let best ← builder.factories.foldlM (builder.consider leniency) none
  return best.map (·.property)

variable [ZoneDatabase]

/-- Give a created property the value of the line: text is unescaped, and a date is set under the
registry of the builder. -/
def finish (builder : Builder) (leniency : Leniency) : Property → Action Property
  | .literal property =>
    match property.kind with
    | .text => pure (.literal { property with value := Text.unescape builder.value })
    | _ => pure (.literal property)
  | .dated property => do
    let registry := builder.registry.getD .standard
    let bound ← { property with registry }.setValue leniency builder.value
    return .dated bound

/-- Build a property without a factory, if the name may do without. -/
def buildExtra (builder : Builder) (leniency : Leniency) : Action Property :=
  if isExperimental builder.name || builder.allowsAnyName leniency then do
    Action.note (.builtExtra builder.name)
    return .literal (.create .extra builder.name builder.parameters builder.value)
  else Action.fail (.unsupportedName builder.name)

/-- Build the property. -/
def build (builder : Builder) (leniency : Leniency) : Action Property := do
  match ← builder.choose leniency with
  | some property => do
    let property ← builder.finish leniency property
    Action.note (.built property.description)
    return property
  | none => builder.buildExtra leniency

end Builder

end ContentLine
