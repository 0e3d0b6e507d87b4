import ContentLine.Civil.RangeFault

/-!
# Faults

The causes for which reading, building, viewing or validating fails, each with its wording. The
wording of a cause is decided here and nowhere else.

## Main definitions

- `FormatFault`: a text is no date or date-time literal.
- `ZoneFault`: a zone identifier has no zone.
- `SpecificationFault`: a value does not fit the variant it is offered to.
- `ValidityFault`: the parameters of a property contradict its value.
- `Fault`, `Fault.message`: all causes, and their wording.
-/

namespace ContentLine

/-- Why a text is not accepted as a date or date-time literal. -/
inductive FormatFault where
  /-- A zone is given, so the text must be a local date-time. -/
  | notLocal (tzid text : String)
  /-- The text has neither form. -/
  | notTemporal (text : String)
  /-- The text has the form of a date, with a component out of range. -/
  | badDate (text : String) (fault : RangeFault)
  /-- The text has the form of a date-time, with a component out of range. -/
  | badDateTime (text : String) (fault : RangeFault)
deriving DecidableEq, Repr

/-- The wording of a format fault. -/
def FormatFault.message : FormatFault → String
  | .notLocal tzid text =>
    "Expected DATE-TIME value without UTC marker for TZID '" ++ tzid ++ "': '" ++ text ++ "'"
  | .notTemporal text =>
    "Expected value to match DATE or DATE-TIME pattern: '" ++ text ++ "'"
  | .badDate text _ => "Invalid DATE value: '" ++ text ++ "'"
  | .badDateTime text _ => "Invalid DATE-TIME value: '" ++ text ++ "'"

/-- The particulars of a format fault: the offending text, or the component out of range. -/
def FormatFault.detail : FormatFault → String
  | .notLocal _ text | .notTemporal text => text
  | .badDate _ fault | .badDateTime _ fault => fault.message

/-- Why a zone identifier cannot be resolved. -/
inductive ZoneFault where
  /-- The database has no zone of the name. -/
  | notInDatabase (tzid : String)
  /-- The table of a registry has no such identifier. -/
  | notInTable (tzid : String)
deriving DecidableEq, Repr

/-- The wording of a zone fault. -/
def ZoneFault.message : ZoneFault → String
  | .notInDatabase tzid => "Unable to find timezone for TZID '" ++ tzid ++ "'"
  | .notInTable tzid => "Unknown timezone " ++ tzid

/-- Why a value does not fit the variant it is offered to; each constructor holds the value's text.
-/
inductive SpecificationFault where
  /-- A date was expected. -/
  | hasTime (text : String)
  /-- A time with offset zero was expected. -/
  | notUtc (text : String)
  /-- A time in a zone was expected. -/
  | noZone (text : String)
deriving DecidableEq, Repr

/-- The wording of a specification fault. -/
def SpecificationFault.message : SpecificationFault → String
  | .hasTime text => "Value error, Expected a date without a time, got " ++ text
  | .notUtc text => "Value error, Expected a UTC date-time, got " ++ text
  | .noZone text => "Value error, Expected a date-time with a timezone, got " ++ text

/-- How the parameters of a property contradict its value. -/
inductive ValidityFault where
  /-- The value type is declared more than once. -/
  | repeatedValue
  /-- A zone is given for a time in UTC. -/
  | tzidForUtc
  /-- A zone is given more than once. -/
  | repeatedTzid
  /-- A date is not declared to be one. -/
  | undeclaredDate
  /-- A date is declared to be of another type. -/
  | dateDeclaredAs (type : String)
  /-- A date-time is declared to be of another type. -/
  | dateTimeDeclaredAs (type : String)
  /-- The zone given, if any, is not the zone that the time is bound to. -/
  | tzidMismatch (given : Option String) (bound : String)
  /-- The property of this name requires a time in UTC. -/
  | utcRequired (name : String)
deriving DecidableEq, Repr

/-- The wording of a validity fault. -/
def ValidityFault.message : ValidityFault → String
  | .repeatedValue => "Parameter [VALUE] must be specified no more than once"
  | .tzidForUtc => "Parameter [TZID] is not applicable for a UTC value"
  | .repeatedTzid => "Parameter [TZID] must be specified no more than once"
  | .undeclaredDate => "VALUE parameter [DATE] must be specified for DATE instance"
  | .dateDeclaredAs type => "VALUE parameter [" ++ type ++ "] is invalid for DATE instance"
  | .dateTimeDeclaredAs type =>
    "VALUE parameter [" ++ type ++ "] is invalid for DATE-TIME instance"
  | .tzidMismatch given bound =>
    "TZID parameter [" ++ given.getD "None" ++ "] does not match the timezone [" ++ bound ++ "]"
  | .utcRequired name => "Property [" ++ name ++ "] must be specified as a UTC date-time"

/-- An operation that only properties with a date or date-time value have. -/
inductive DateOperation where
  /-- Read the value. -/
  | read
  /-- Store a value. -/
  | store
  /-- Change the registry that resolves zones. -/
  | changeRegistry
deriving DecidableEq, Repr

/-- The word for an operation in messages. -/
def DateOperation.word : DateOperation → String
  | .read => "get_date"
  | .store => "set_date"
  | .changeRegistry => "set_timezone_registry"

/-- Why an operation fails. -/
inductive Fault where
  /-- A text is no literal. -/
  | format (fault : FormatFault)
  /-- A zone identifier has no zone. -/
  | zone (fault : ZoneFault)
  /-- A moment has no local time in the years 1 to 9999. -/
  | overflow
  /-- A value does not fit its variant. -/
  | specification (fault : SpecificationFault)
  /-- A property is not consistent. -/
  | invalid (fault : ValidityFault)
  /-- No factory builds a property of the name, and the name is not allowed without one. -/
  | unsupportedName (name : String)
  | factory (label : String)
  /-- A property of the kind named has no such operation. -/
  | noOperation (kind : String) (operation : DateOperation)
  /-- A property of the kind named has no hash. -/
  | unhashable (kind : String)
  /-- No value is bound to the name. -/
  | unbound (name : String)
deriving DecidableEq, Repr

/-- The wording of a fault. -/
def Fault.message : Fault → String
  | .format fault => fault.message
  | .zone fault => fault.message
  | .overflow => "date value out of range"
  | .specification fault => fault.message
  | .invalid fault => fault.message
  | .unsupportedName name => "Illegal property [" ++ name ++ "]"
  | .factory label => "Factory failure " ++ label
  | .noOperation kind operation =>
    "'" ++ kind ++ "' object has no attribute '" ++ operation.word ++ "'"
  | .unhashable kind => "unhashable type: '" ++ kind ++ "'"
  | .unbound name => name

end ContentLine
