import ContentLine.Text.Decimal
import ContentLine.Zone.Rules

/-!
# Zones

A zone is UTC itself, a zone that a database lists under some name, or a custom zone. Zones have
identity: two names for the same rules are two zones, and custom zones differ by serial number.

## Main definitions

- `Zone`: a zone, equal only to itself.
- `Zone.fixed`: the zone with one offset and an optional name.
- `Zone.rules`, `Zone.name`: what a zone says about time, and what it is called.
- `Zone.offsetText`: an offset in hours, minutes and, if needed, seconds.
-/

namespace ContentLine

/-- A zone. -/
inductive Zone where
  | utc
  /-- The zone that a database lists under this name. -/
  | listed (key : String) (rules : Rules)
  /-- A zone outside the database; the serial number tells it from others like it. -/
  | custom (serial : Nat) (name : String) (rules : Rules)
deriving DecidableEq, Repr

namespace Zone

/-- The rules of a zone. -/
def rules : Zone → Rules
  | utc => .constant 0
  | listed _ rules => rules
  | custom _ _ rules => rules

/-- An offset in hours and minutes with its sign, and seconds if there are any. -/
def offsetText (offset : Int) : List Char :=
  let size := offset.natAbs
  let seconds := if size % 60 = 0 then [] else ':' :: Text.padded 2 (size % 60)
  (if offset < 0 then '-' else '+') :: Text.padded 2 (size / 3600) ++
    ':' :: Text.padded 2 (size / 60 % 60) ++ seconds

/-- The zone with one offset. Without a name it is named for its offset, and at offset 0 it is UTC
itself. -/
def fixed (serial : Nat) (offset : Int) (name : Option String) : Zone :=
  match name with
  | some name => custom serial name (.constant offset)
  | none =>
    if offset = 0 then utc
    else custom serial ("UTC" ++ String.ofList (offsetText offset)) (.constant offset)

/-- The name of a zone. -/
def name : Zone → String
  | utc => "UTC"
  | listed key _ => key
  | custom _ name _ => name

@[simp] theorem rules_utc : utc.rules = .constant 0 := rfl

@[simp] theorem rules_listed (key : String) (rules : Rules) :
    (listed key rules).rules = rules := rfl

@[simp] theorem rules_custom (serial : Nat) (name : String) (rules : Rules) :
    (custom serial name rules).rules = rules := rfl

end Zone

end ContentLine
