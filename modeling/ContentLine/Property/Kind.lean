/-!
# Kinds of properties

What a property holds is decided by its kind: a literal value, of which only text is unescaped when
built, or a date or date-time value, which some properties require to be in UTC.

## Main definitions

- `LiteralKind`, `DateKind`, `Kind`: the kinds, `Kind.name` the name of one.
-/

namespace ContentLine

/-- The kinds of properties with a literal value. -/
inductive LiteralKind where
  /-- A property of no particular kind. -/
  | base
  /-- A value without escape sequences. -/
  | plain
  /-- A TEXT value, unescaped when built. -/
  | text
  /-- A property without a factory. -/
  | extra
deriving DecidableEq, Repr

/-- The kinds of properties with a date or date-time value. -/
inductive DateKind where
  /-- Any value is allowed. -/
  | any
  /-- Only a moment in UTC is allowed. -/
  | utcOnly
deriving DecidableEq, Repr

/-- The kinds of properties. -/
inductive Kind where
  | literal (kind : LiteralKind)
  | date (kind : DateKind)
deriving DecidableEq, Repr

/-- The name of a literal kind. -/
def LiteralKind.name : LiteralKind → String
  | .base => "Property"
  | .plain => "PlainProperty"
  | .text => "TextProperty"
  | .extra => "ExtraProperty"

/-- The name of a date kind. -/
def DateKind.name : DateKind → String
  | .any => "DateProperty"
  | .utcOnly => "UtcDateProperty"

/-- The name of a kind. -/
def Kind.name : Kind → String
  | literal kind => kind.name
  | date kind => kind.name

end ContentLine
