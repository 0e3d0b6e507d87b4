import ContentLine.Text.Quoted
import ContentLine.Text.UppercaseStable

/-!
# Parameters

The parameters of a content line are an ordered list of names and values, in which a name may occur
more than once. Names are kept in upper case, so two spellings that differ in case are one name.

## Main definitions

- `Parameter`: a name in upper case and a value; `Parameter.of` makes one from any name.
- `Parameter.first?`, `Parameter.all`: look up by name.
- `Parameter.add`, `Parameter.remove`, `Parameter.replace`: edit a list.
- `RawParameter`: a parameter as a content line gives it, with its separated values.
-/

namespace ContentLine

/-- A parameter of a content line. -/
structure Parameter where
  /-- The name. -/
  name : String
  /-- The value. -/
  value : String
  /-- The name is in upper case. -/
  name_upper : Text.upper name = name
deriving DecidableEq, Repr

/-- A parameter as it is split off a content line: a name and the values between commas. -/
structure RawParameter where
  /-- The name, as written. -/
  name : String
  /-- The values, in order. -/
  values : List String
deriving DecidableEq, Repr

namespace Parameter

/-- The name of the parameter that declares the type of a value. -/
def valueName : String := "VALUE"

/-- The name of the parameter that refers to a zone. -/
def tzidName : String := "TZID"

/-- The value type of dates. -/
def dateType : String := "DATE"

/-- The value type of dates with a time. -/
def dateTimeType : String := "DATE-TIME"

/-- The parameter with the given name, in upper case, and value. -/
def of (name value : String) : Parameter :=
  ⟨Text.upper name, value, Text.upper_upper name⟩

/-- The parameter of a content line, its values joined by commas. -/
def ofRaw (raw : RawParameter) : Parameter :=
  of raw.name (",".intercalate raw.values)

/-- The form `NAME=value`. -/
def text (parameter : Parameter) : String :=
  parameter.name ++ "=" ++ parameter.value

/-- The description of a parameter, with both texts quoted. -/
def description (parameter : Parameter) : String :=
  "Parameter(name=" ++ Text.quote parameter.name ++ ", value=" ++ Text.quote parameter.value ++ ")"

/-- The description of a list of parameters. -/
def descriptions (parameters : List Parameter) : String :=
  "[" ++ ", ".intercalate (parameters.map description) ++ "]"

/-- Whether a parameter has a name, in whatever case that is spelled. -/
def isNamed (name : String) (parameter : Parameter) : Bool :=
  parameter.name == Text.upper name

/-- The first parameter of a name. -/
def first? (name : String) (parameters : List Parameter) : Option Parameter :=
  parameters.find? (isNamed name)

/-- All parameters of a name, in order. -/
def all (name : String) (parameters : List Parameter) : List Parameter :=
  parameters.filter (isNamed name)

/-- Append a parameter, also if its name is present. -/
def add (parameter : Parameter) (parameters : List Parameter) : List Parameter :=
  parameters ++ [parameter]

/-- Remove all parameters of a name. -/
def remove (name : String) (parameters : List Parameter) : List Parameter :=
  parameters.filter fun parameter => !isNamed name parameter

/-- Put one parameter, at the end, in the place of all of its name. -/
def replace (parameter : Parameter) (parameters : List Parameter) : List Parameter :=
  add parameter (remove parameter.name parameters)

/-- The first parameter of a name is the head of all of them. -/
theorem head?_all (name : String) (parameters : List Parameter) :
    (all name parameters).head? = first? name parameters := by
  simp [all, first?]

end Parameter

end ContentLine
