import ContentLine.Builder
import Mathlib.Data.List.Induction

/-!
# What settings leave

Whatever settings a builder is given, and in whatever order, its factories and its parameters are
all that were added, in order, and its name, its value and its registry are those that were given
last.

## Main definitions

* `Builder.ofSettings`: the builder that settings make.
* `Builder.latest?`: what the settings give last.

## Main results

* `Builder.ofSettings_eq`: the builder that settings make, field by field.
-/

namespace ContentLine

namespace Builder

/-- The builder that settings make, one after the other. -/
def ofSettings (allowAnyName : Option Bool) (settings : List Setting) : Builder :=
  settings.foldl configure (new allowAnyName)

namespace Setting

/-- The factories that a setting adds. -/
def addedFactories : Setting → List Factory
  | .factories more => more
  | .name _ | .value _ | .parameter _ | .parameters _ | .registry _ | .line _ => []

/-- The parameters that a setting adds. -/
def addedParameters : Setting → List Parameter
  | .parameter more => [more]
  | .parameters more => more
  | .line given => RawLine.parameterList given.parameters
  | .factories _ | .name _ | .value _ | .registry _ => []

/-- The name that a setting gives, if it does. -/
def givenName? : Setting → Option String
  | .name text => some text
  | .line given => some given.name
  | .factories _ | .value _ | .parameter _ | .parameters _ | .registry _ => none

/-- The value that a setting gives, if it does. -/
def givenValue? : Setting → Option String
  | .value text => some text
  | .line given => some given.value
  | .factories _ | .name _ | .parameter _ | .parameters _ | .registry _ => none

/-- The registry that a setting gives, if it does. It may give none, in place of an earlier one. -/
def givenRegistry? : Setting → Option (Option ZoneRegistry)
  | .registry given => some given
  | .factories _ | .name _ | .value _ | .parameter _ | .parameters _ | .line _ => none

end Setting

/-- What the settings give last, if they do. -/
def latest? {α : Type} (given? : Setting → Option α) (settings : List Setting) : Option α :=
  (settings.filterMap given?).getLast?

/-- One more setting gives what it gives, and else leaves what was given before. -/
theorem latest?_append_singleton {α : Type} (given? : Setting → Option α) (settings : List Setting)
    (setting : Setting) :
    latest? given? (settings ++ [setting]) = (given? setting).or (latest? given? settings) := by
  rw [latest?, List.filterMap_append]
  cases hgiven : given? setting <;> simp [latest?, hgiven]

/-- The builder that settings make has all factories and all parameters that they add, in order, and
the name, the value and the registry that they give last. -/
theorem ofSettings_eq (allowAnyName : Option Bool) (settings : List Setting) :
    ofSettings allowAnyName settings =
      { factories := settings.flatMap Setting.addedFactories
        name := Text.upper ((latest? Setting.givenName? settings).getD "")
        value := Text.trim ((latest? Setting.givenValue? settings).getD "")
        parameters := settings.flatMap Setting.addedParameters
        registry := (latest? Setting.givenRegistry? settings).getD none
        allowAnyName } := by
  -- The induction is on the last setting, which is the one that takes effect.
  induction settings using List.reverseRecOn with
  | nil => rfl
  | append_singleton settings setting ih =>
    rw [ofSettings] at ih
    rw [ofSettings, List.foldl_append, ih]
    simp only [List.foldl_cons, List.foldl_nil, latest?_append_singleton, List.flatMap_append,
      List.flatMap_singleton]
    cases setting <;>
      simp [configure, setName, setValue, addParameters, Setting.addedFactories,
        Setting.addedParameters, Setting.givenName?, Setting.givenValue?, Setting.givenRegistry?]

end Builder

end ContentLine
