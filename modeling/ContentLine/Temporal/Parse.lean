import ContentLine.Temporal.Basic
import ContentLine.Temporal.Literal
import ContentLine.Zone.Registry

/-!
# Reading temporal values

The form of a text decides the variant: a date, a moment in UTC, or a local time, which is bound to
the zone of the identifier given or else to the default zone of the registry. With an identifier
only a local time is accepted. The text is judged first, so a faulty text asks the registry nothing.

## Main definitions

- `Temporal.parse`: the value of a text.
-/

namespace ContentLine.Temporal

/-- The local time of a text, bound to a zone of the registry. -/
def bindLocal (registry : ZoneRegistry) (leniency : Leniency) (tzid : String) (wall : LocalTime) :
    Action Temporal := do
  let zone ← registry.resolve leniency tzid
  return zoned ⟨wall, false, zone⟩ tzid

/-- The value of a text, under an optional zone identifier. -/
def parse (registry : ZoneRegistry) (leniency : Leniency) (tzid : Option String) (text : String) :
    Action Temporal :=
  match Literal.read? text.toList, tzid with
  | some (.floating dateDigits timeDigits), _ =>
    match LocalTime.ofDigits dateDigits timeDigits with
    | .ok wall => bindLocal registry leniency (tzid.getD registry.defaultTzid) wall
    | .error fault => Action.fail (.format (.badDateTime text fault))
  | _, some tzid => Action.fail (.format (.notLocal tzid text))
  | some (.date digits), none =>
    match digits.date with
    | .ok given => pure (date given)
    | .error fault => Action.fail (.format (.badDate text fault))
  | some (.utc dateDigits timeDigits), none =>
    match LocalTime.ofDigits dateDigits timeDigits with
    | .ok wall => pure (utc wall false)
    | .error fault => Action.fail (.format (.badDateTime text fault))
  | none, none => Action.fail (.format (.notTemporal text))

end ContentLine.Temporal
