import ContentLine.Zone.Basic

/-!
# Zone databases

A database lists zones under names. Which zones there are, and what time they keep, is decided by
the database that a program finds where it runs. Registries, factories and builders work with any.

## Main definitions

- `ZoneDatabase`: the database at hand.
- `Zone.named`: the zone that it lists under a name.
-/

namespace ContentLine

/-- The database at hand. -/
class ZoneDatabase where
  /-- Whether a zone is listed under this name. -/
  isName : String → Bool
  /-- The rules of the zone under a name; they are of no importance for other texts. -/
  rules : String → Rules

/-- The zone under a name of the database. -/
def Zone.named [ZoneDatabase] (key : String) : Zone :=
  .listed key (ZoneDatabase.rules key)

@[simp] theorem Zone.rules_named [ZoneDatabase] (key : String) :
    (named key).rules = ZoneDatabase.rules key := rfl

@[simp] theorem Zone.name_named [ZoneDatabase] (key : String) : (named key).name = key := rfl

end ContentLine
