import ContentLine.Proofs.Builder.Registration

/-!
# Building standard properties

The outcome of building a content line with the standard factories, for every line, every registry
and every setting of leniency. The name is compared in upper case, the value is taken without blank
ends, and the parameters of the line become parameters of the property in order. The kind that the
name is registered under decides what is done with the value.

## Main definitions

* `Factory.standardRegistrations`: the standard names, each with its kind.
* `RawLine.tzid`: the identifier that a content line gives for its zone.
* `Builder.ofLine`, `Builder.ofParts`: the builder of a content line, or of its parts, with the
  standard factories.

## Main results

* `isExperimental_iff`: an experimental name starts with `X-` and is longer.
* `Builder.build_of_standard`: the outcome for any builder with the standard factories.
* `Builder.build_ofLine`: the outcome for a content line, in terms of its parts.
-/

namespace ContentLine

/-- A name is experimental exactly if it starts with `X-` and is longer than that. -/
theorem isExperimental_iff (name : String) :
    isExperimental name = true ↔ ['X', '-'] <+: name.toList ∧ 2 < name.toList.length := by
  unfold isExperimental
  constructor
  · intro h
    -- Only the branch of two letters and one more character answers `true`.
    split at h
    next c rest hname => rw [hname]; exact ⟨⟨c :: rest, rfl⟩, by simp⟩
    next => cases h
  · rintro ⟨⟨tail, htail⟩, hlength⟩
    rw [← htail] at hlength ⊢
    cases tail with
    | nil => simp at hlength
    | cons c rest => rfl

namespace Factory

/-- The standard names, each with the kind it is registered under. -/
def standardRegistrations : List (String × Kind) :=
  standardNames.flatMap fun (kind, names) => names.map fun name => (name, kind)

theorem standard_eq_ofRegistrations [ZoneDatabase] :
    standard = ofRegistrations standardRegistrations := rfl

/-- The standard names are in upper case. -/
theorem upper_standardRegistrations :
    ∀ registration ∈ standardRegistrations, Text.upper registration.1 = registration.1 := by
  decide +kernel

/-- No standard name is registered twice. -/
theorem nodup_standardRegistrations : (standardRegistrations.map (·.1)).Nodup := by
  decide +kernel

end Factory

/-- The identifier that a content line gives for its zone: the value of the first parameter whose
name is TZID in upper case, its parts joined by commas. -/
def RawLine.tzid (line : RawLine) : Option String :=
  ((line.parameters.getD []).find? fun raw => Text.upper raw.name == "TZID").map fun raw =>
    ",".intercalate raw.values

theorem upper_tzidName : Text.upper Parameter.tzidName = "TZID" := by decide +kernel

/-- The first TZID parameter of a property made from a line has the identifier that the line gives.
-/
theorem RawLine.first?_parameterList (line : RawLine) :
    (Parameter.first? Parameter.tzidName (RawLine.parameterList line.parameters)).map (·.value) =
      line.tzid := by
  rw [Parameter.first?, RawLine.parameterList, List.find?_map, Option.map_map]
  -- A parameter made from a line is named TZID if the line spells that in any case.
  have hnamed : Parameter.isNamed Parameter.tzidName ∘ Parameter.ofRaw =
      fun raw => Text.upper raw.name == "TZID" := by
    funext raw
    simp only [Function.comp, Parameter.isNamed, upper_tzidName]
    rfl
  rw [hnamed]
  rfl

namespace Builder

variable [ZoneDatabase]

/-- A builder with the standard factories builds the property of the kind that its name is
registered under, and has no factory for any other name. -/
theorem build_of_standard (builder : Builder) (leniency : Leniency)
    (hfactories : builder.factories = Factory.standard)
    (hname : Text.upper builder.name = builder.name) :
    (builder.build leniency).result =
      match Factory.standardRegistrations.lookup builder.name with
      | some kind => builder.propertyOf leniency kind
      | none => builder.propertyWithout leniency := by
  rw [Factory.standard_eq_ofRegistrations] at hfactories
  have hlast : Factory.lastKind? Factory.standardRegistrations builder.name =
      Factory.standardRegistrations.lookup builder.name :=
    Factory.lastKind?_eq_lookup Factory.upper_standardRegistrations
      Factory.nodup_standardRegistrations builder.name
  have hbuild := builder.build_of_registrations leniency hfactories hname
  rw [hlast] at hbuild
  refine hbuild.trans ?_
  cases Factory.standardRegistrations.lookup builder.name <;> rfl

/-- The builder of a content line: the standard factories, a registry if one is given, and the line.
-/
def ofLine (allowAnyName : Option Bool) (registry : Option ZoneRegistry) (line : RawLine) :
    Builder :=
  [Setting.factories Factory.standard, .registry registry, .line line].foldl configure
    (new allowAnyName)

/-- The builder of the parts of a content line: the standard factories, a registry if one is given,
the name, the parameters and the value. -/
def ofParts (allowAnyName : Option Bool) (registry : Option ZoneRegistry) (name : String)
    (parameters : List Parameter) (value : String) : Builder :=
  [Setting.factories Factory.standard, .registry registry, .name name, .parameters parameters,
    .value value].foldl configure (new allowAnyName)

/-- The outcome of building a content line with the standard factories. With `name` the name in
upper case and `value` the value without blank ends, a text name gives the unescaped value, a plain
name the value itself, and a date name what the value is read as under the first TZID parameter of
the line, with the fault of that reading passed on. Any other name gives the value itself if it
starts with `X-` and is longer or if any name is allowed, and is not supported otherwise. -/
theorem build_ofLine (allowAnyName : Option Bool) (registry : Option ZoneRegistry)
    (leniency : Leniency) (line : RawLine) :
    let name := Text.upper line.name
    let value := Text.trim line.value
    let parameters := (line.parameters.getD []).map fun raw =>
      Parameter.of raw.name (",".intercalate raw.values)
    let zones := registry.getD .standard
    ((ofLine allowAnyName registry line).build leniency).result =
      match Factory.standardRegistrations.lookup name with
      | some (.literal .text) => .ok (.literal ⟨.text, name, parameters, Text.unescape value⟩)
      | some (.literal kind) => .ok (.literal ⟨kind, name, parameters, value⟩)
      | some (.date kind) =>
        if value = "" then .ok (.dated ⟨kind, name, parameters, none, zones⟩)
        else
          match (Temporal.parse zones leniency line.tzid value).result with
          | .ok temporal => .ok (.dated ⟨kind, name, parameters, some temporal, zones⟩)
          | .error fault => .error fault
      | none =>
        if (['X', '-'] <+: name.toList ∧ 2 < name.toList.length) ∨
            allowAnyName.getD leniency.anyName = true then
          .ok (.literal ⟨.extra, name, parameters, value⟩)
        else .error (.unsupportedName name) := by
  intro name value parameters zones
  have hname : (ofLine allowAnyName registry line).name = name := rfl
  have hvalue : (ofLine allowAnyName registry line).value = value := rfl
  have hparameters : (ofLine allowAnyName registry line).parameters = parameters := rfl
  have hregistry : (ofLine allowAnyName registry line).registry.getD .standard = zones := rfl
  have hallows : (ofLine allowAnyName registry line).allowsAnyName leniency =
    allowAnyName.getD leniency.anyName := rfl
  have htzid : (Parameter.first? Parameter.tzidName parameters).map (·.value) = line.tzid :=
    line.first?_parameterList
  have hupper : Text.upper name = name := Text.upper_upper line.name
  have hfactories : (ofLine allowAnyName registry line).factories = Factory.standard := rfl
  rw [build_of_standard _ leniency hfactories (by rw [hname, hupper]), hname]
  -- From here on the parts of the builder are opaque, so that no step evaluates them.
  clear_value name value parameters zones
  cases Factory.standardRegistrations.lookup name with
  | none =>
    simp only [propertyWithout, hname, hvalue, hparameters, hallows, Bool.or_eq_true,
      isExperimental_iff]
  | some kind =>
    cases kind with
    | literal kind => cases kind <;> simp only [propertyOf, hname, hvalue, hparameters]
    | date kind =>
      simp only [propertyOf, hname, hvalue, hparameters, hregistry, htzid]
      by_cases hempty : value = ""
      · rw [if_pos hempty, if_pos hempty]
      · rw [if_neg hempty, if_neg hempty]
        cases (Temporal.parse zones leniency line.tzid value).result <;> rfl

end Builder

end ContentLine
