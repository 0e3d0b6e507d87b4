import ContentLine.Parameter
import ContentLine.Property.Kind

/-!
# Literal properties

A property whose value is kept as a text.

## Main definitions

- `LiteralProperty`: kind, name, parameters and value.
- `LiteralProperty.create`: the property with a name in upper case.
-/

namespace ContentLine

/-- A property whose value is a text. -/
structure LiteralProperty where
  /-- The kind. -/
  kind : LiteralKind
  /-- The name, in upper case when made by `create`. -/
  name : String
  /-- The parameters, in order. -/
  parameters : List Parameter
  /-- The value. -/
  value : String
deriving DecidableEq, Repr

/-- The property with the given name, in upper case, parameters and value. -/
def LiteralProperty.create (kind : LiteralKind) (name : String) (parameters : List Parameter)
    (value : String) : LiteralProperty :=
  ⟨kind, Text.upper name, parameters, value⟩

end ContentLine
