import ContentLine.Property.Basic

/-!
# Property factories

A factory tells which names it supports and creates a property from parameters and a value, or
declines, or fails. The usual factory creates properties of one name and one kind.

## Main definitions

- `Factory`: what a factory can do.
- `Factory.named`: the factory of one name and kind.
- `Factory.scripted`: a factory whose outcome is laid down.
- `Factory.recorded`: a factory whose questions are events.
- `Factory.register`: add a factory to a list.
- `Factory.standard`: the factories of the standard properties.
-/

namespace ContentLine

/-- A source of properties. -/
structure Factory where
  /-- The text by which the factory appears in notes. -/
  label : String
  /-- Whether properties of a name, in upper case, are supported. -/
  supports : String → Bool
  /-- The property of the given parameters and value; none if the factory declines. -/
  create : Leniency → List Parameter → String → Action (Option Property)

namespace Factory

variable [ZoneDatabase]

/-- The factory of properties of one name, in upper case, and one kind. A date property is created
without a value, which can be set only once the registry is known. -/
def named (name : String) (kind : Kind) : Factory where
  label := "NamedPropertyFactory(" ++ Text.upper name ++ ", " ++ kind.name ++ ")"
  supports requested := requested == Text.upper name
  create leniency parameters value := do
    let value := match kind with
      | .literal _ => value
      | .date _ => ""
    let property ← Property.create leniency kind (Text.upper name) parameters value .standard
    return some property

/-- What a scripted factory does when it is asked for a property. -/
inductive Outcome where
  /-- Create a property whose value is the label. -/
  | create
  | decline
  | fail
deriving DecidableEq, Repr

/-- The factory that supports the given names and always has the same outcome. -/
def scripted (label : String) (names : List String) (kind : Kind) (outcome : Outcome) :
    Factory where
  label := "FakeFactory(" ++ label ++ ")"
  supports requested := names.contains requested
  create leniency parameters _ :=
    match outcome with
    | .fail => Action.fail (.factory label)
    | .decline => return none
    | .create => do
      let name := names.headD ""
      let property ← Property.create leniency kind name parameters label .standard
      return some property

/-- The factory that answers like another and records each question under a serial number. -/
def recorded (serial : Nat) (factory : Factory) : Factory where
  label := factory.label
  supports := factory.supports
  create leniency parameters value := do
    Action.emit (.create serial parameters value)
    factory.create leniency parameters value

/-- The factories for several names of one kind. -/
def forNames (names : List String) (kind : Kind) : List Factory :=
  names.map fun name => named name kind

/-- Add a factory at the end of a list. -/
def register (factories : List Factory) (factory : Factory) : Action (List Factory) := do
  Action.note (.registered factory.label)
  return factories ++ [factory]

/-- Add several factories at the end of a list, one after the other. -/
def registerAll (factories added : List Factory) : Action (List Factory) :=
  added.foldlM register factories

/-- The names of the standard properties by kind, in order. -/
def standardNames : List (Kind × List String) :=
  [(.literal .plain,
      ["VERSION", "CALSCALE", "METHOD", "STATUS", "CLASS", "TRANSP", "PRIORITY", "SEQUENCE", "URL",
        "GEO", "RRULE", "DURATION"]),
    (.literal .text,
      ["SUMMARY", "DESCRIPTION", "LOCATION", "COMMENT", "CONTACT", "UID", "CATEGORIES", "RESOURCES",
        "PRODID", "TZNAME", "TZID"]),
    (.date .any, ["DTSTART", "DTEND", "DUE", "RECURRENCE-ID"]),
    (.date .utcOnly, ["DTSTAMP", "CREATED", "LAST-MODIFIED", "COMPLETED"])]

/-- The factories of the standard properties. -/
def standard : List Factory :=
  standardNames.flatMap fun (kind, names) => forNames names kind

@[simp] theorem supports_named (name requested : String) (kind : Kind) :
    (named name kind).supports requested = (requested == Text.upper name) := rfl

/-- The usual factory of a literal kind creates a property with the parameters and the value. -/
theorem create_named_literal (leniency : Leniency) (name : String) (kind : LiteralKind)
    (parameters : List Parameter) (value : String) :
    (named name (.literal kind)).create leniency parameters value =
      ⟨[], .ok (some (.literal ⟨kind, Text.upper (Text.upper name), parameters, value⟩))⟩ := rfl

/-- The usual factory of a date kind creates a property with the parameters and without a value. -/
theorem create_named_date (leniency : Leniency) (name : String) (kind : DateKind)
    (parameters : List Parameter) (value : String) :
    (named name (.date kind)).create leniency parameters value =
      ⟨[], .ok (some (.dated ⟨kind, Text.upper (Text.upper name), parameters, none,
        .standard⟩))⟩ := rfl

end Factory

end ContentLine
