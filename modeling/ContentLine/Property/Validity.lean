import ContentLine.Property.Dated

/-!
# Validity of date properties

A date property may be put together inconsistently; `validate` judges whether its VALUE and TZID
parameters fit the stored value. The rules are judged in order and the first one broken is reported.

## Main definitions

- `DateProperty.validate`: no fault, or the first rule broken.
-/

namespace ContentLine.DateProperty

/-- The rules on how often parameters occur: VALUE at most once; TZID at most once, and never for a
moment in UTC. -/
def validateCounts (property : DateProperty) : Except ValidityFault Unit :=
  let tzids := (Parameter.all Parameter.tzidName property.parameters).length
  if (Parameter.all Parameter.valueName property.parameters).length > 1 then
    .error .repeatedValue
  else if property.isUtc then
    if tzids > 0 then .error .tzidForUtc else .ok ()
  else if tzids > 1 then .error .repeatedTzid
  else .ok ()

/-- The rules on a date: VALUE must be given, and be DATE. -/
def validateDate (declared : Option String) : Except ValidityFault Unit :=
  match declared with
  | none => .error .undeclaredDate
  | some type => if type = Parameter.dateType then .ok () else .error (.dateDeclaredAs type)

/-- The rule on a date-time: VALUE, if given, must be DATE-TIME. -/
def validateDateTime (declared : Option String) : Except ValidityFault Unit :=
  match declared with
  | none => .ok ()
  | some type =>
    if type = Parameter.dateTimeType then .ok () else .error (.dateTimeDeclaredAs type)

/-- The rule on a local time: TZID must be given, and be the identifier the time is bound to. -/
def validateZone (given : Option String) (bound : String) : Except ValidityFault Unit :=
  if given = some bound then .ok () else .error (.tzidMismatch given bound)

/-- The rules that fit the stored value. -/
def validateStored (property : DateProperty) : Except ValidityFault Unit :=
  let declared := (Parameter.first? Parameter.valueName property.parameters).map (·.value)
  match property.stored with
  | none => .ok ()
  | some (.date _) => validateDate declared
  | some (.utc ..) => validateDateTime declared
  | some (.zoned _ bound) => do
    validateDateTime declared
    validateZone property.tzid bound

/-- The rule of the kind: a value that must be in UTC is. -/
def validateKind (property : DateProperty) : Except ValidityFault Unit :=
  match property.kind with
  | .any => .ok ()
  | .utcOnly =>
    if property.stored.isSome && !property.isUtc then .error (.utcRequired property.name)
    else .ok ()

/-- No fault if the parameters fit the stored value, and the first rule broken otherwise. -/
def validate (property : DateProperty) : Except ValidityFault Unit := do
  property.validateCounts
  property.validateStored
  property.validateKind

end ContentLine.DateProperty
