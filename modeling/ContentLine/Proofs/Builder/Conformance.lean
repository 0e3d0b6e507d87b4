import ContentLine.Proofs.Builder.Standard
import ContentLine.Proofs.Property.Consistency
import ContentLine.Proofs.Temporal.Grammar
import ContentLine.Zone.Excerpt

/-!
# Conforming date lines

Which content lines give a valid date property: the value, its VALUE parameters and its TZID
parameters are in one of four cases, of which a property restricted to UTC allows two. A value that
cannot be read gives no property, and one that can be read may still contradict its parameters; both
count against the line.

## Main definitions

* `DateProperty.Conforms`: the values that a line with given VALUE and TZID parameters may have.

## Main results

* `DateProperty.conforms_iff_denotes`: a value that is not empty conforms exactly if it denotes a
  value that the parameters fit.
* `Builder.build_valid_iff`: a line with a date name is built and valid exactly if it conforms.
-/

namespace ContentLine

theorem Date.literal_ne_nil (date : Date) : date.literal ≠ [] := by
  have hlength : date.literal.length = 8 := by simp [Date.literal]
  intro h
  simp [h] at hlength

theorem LocalTime.literal_ne_nil (wall : LocalTime) : wall.literal ≠ [] := by
  simp [LocalTime.literal]

namespace DateProperty

/-- The values that a line of a date kind may have, by its VALUE and TZID parameters. -/
inductive Conforms (registry : ZoneRegistry) (leniency : Leniency) (types tzids : List String) :
    DateKind → List Char → Prop
  /-- An empty value, with at most one VALUE and at most one TZID. -/
  | empty (kind : DateKind) (htypes : types.length ≤ 1) (htzids : tzids.length ≤ 1) :
      Conforms registry leniency types tzids kind []
  /-- The literal of a date, with exactly one VALUE, which is `DATE`, and no TZID. -/
  | date (date : Date) (htypes : types = ["DATE"]) (htzids : tzids = []) :
      Conforms registry leniency types tzids .any date.literal
  /-- The literal of a time in UTC, with no TZID and at most one VALUE, which is `DATE-TIME`. -/
  | utc (kind : DateKind) (wall : LocalTime) (hwhole : wall.time.microsecond = 0)
      (htypes : types = [] ∨ types = ["DATE-TIME"]) (htzids : tzids = []) :
      Conforms registry leniency types tzids kind (wall.literal ++ ['Z'])
  /-- The literal of a local time, with exactly one TZID, which the registry resolves, and at most
  one VALUE, which is `DATE-TIME`. -/
  | zoned (wall : LocalTime) (hwhole : wall.time.microsecond = 0) (tzid : String) (zone : Zone)
      (htypes : types = [] ∨ types = ["DATE-TIME"]) (htzids : tzids = [tzid])
      (hzone : (registry.resolve leniency tzid).result = .ok zone) :
      Conforms registry leniency types tzids .any wall.literal

variable {registry : ZoneRegistry} {leniency : Leniency} {types tzids : List String}
  {kind : DateKind} {text : List Char}

/-- The empty text conforms exactly if there is at most one VALUE and at most one TZID. -/
theorem conforms_nil_iff :
    Conforms registry leniency types tzids kind [] ↔ Consistent types tzids kind none := by
  constructor
  · intro h
    -- Every literal has characters, so only the case of the empty text remains.
    generalize hnil : ([] : List Char) = text at h
    cases h with
    | empty _ htypes htzids => exact .empty kind htypes htzids
    | date date => exact absurd hnil.symm date.literal_ne_nil
    | utc _ wall => simp at hnil
    | zoned wall => exact absurd hnil.symm wall.literal_ne_nil
  · intro h
    cases h with
    | empty _ htypes htzids => exact .empty kind htypes htzids

/-- A text that is not empty conforms exactly if it denotes, under the first TZID, a value that the
parameters fit. -/
theorem conforms_iff_denotes (htext : text ≠ []) :
    Conforms registry leniency types tzids kind text ↔
      ∃ value, Temporal.Denotes registry leniency tzids.head? text value ∧
        Consistent types tzids kind (some value) := by
  constructor
  · intro h
    cases h with
    | empty => exact absurd rfl htext
    | date date htypes htzids =>
      subst htzids
      exact ⟨.date date, .date date, .date date htypes (Nat.zero_le 1)⟩
    | utc _ wall hwhole htypes htzids =>
      subst htzids
      exact ⟨.utc wall false, .utc wall hwhole, .utc kind wall false htypes rfl⟩
    | zoned wall hwhole tzid zone htypes htzids hzone =>
      subst htzids
      exact ⟨.zoned ⟨wall, false, zone⟩ tzid, .zoned (some tzid) wall hwhole zone hzone,
        .zoned ⟨wall, false, zone⟩ tzid htypes rfl⟩
  · rintro ⟨value, hdenotes, hconsistent⟩
    generalize hfirst : tzids.head? = first at hdenotes
    cases hdenotes with
    | date date =>
      cases hconsistent with
      | date _ htypes => exact .date date htypes (List.head?_eq_none_iff.mp hfirst)
    | utc wall hwhole =>
      cases hconsistent with
      | utc _ _ _ htypes htzids => exact .utc kind wall hwhole htypes htzids
    | zoned _ wall hwhole zone hzone =>
      -- The parameters fit only if the zone was bound by the one TZID and not by the default.
      cases hconsistent with
      | zoned _ _ htypes htzids =>
        cases first with
        | none => rw [htzids] at hfirst; cases hfirst
        | some tzid => exact .zoned wall hwhole tzid zone htypes htzids hzone

end DateProperty

namespace Builder

/-- A property of a date kind results and is valid exactly if the value of the builder conforms. -/
theorem propertyOf_date_valid_iff [ZoneDatabase] (builder : Builder) (leniency : Leniency)
    (kind : DateKind) :
    (∃ property, builder.propertyOf leniency (.date kind) = .ok property ∧
        property.validate = .ok ()) ↔
      DateProperty.Conforms (builder.registry.getD .standard) leniency
        (Parameter.values Parameter.valueName builder.parameters)
        (Parameter.values Parameter.tzidName builder.parameters) kind builder.value.toList := by
  -- Only the stored value of the property depends on what is read.
  have hvalid (stored : Option Temporal) :
      (Property.dated ⟨kind, builder.name, builder.parameters, stored,
          builder.registry.getD .standard⟩).validate = .ok () ↔
        DateProperty.Consistent (Parameter.values Parameter.valueName builder.parameters)
          (Parameter.values Parameter.tzidName builder.parameters) kind stored :=
    DateProperty.validate_eq_ok_iff
  unfold propertyOf
  by_cases hempty : builder.value = ""
  · -- An empty value is not read, and stores nothing.
    have hnil : builder.value.toList = [] := by rw [hempty]; rfl
    rw [hnil, DateProperty.conforms_nil_iff, ← hvalid none]
    simp [hempty]
  · have hne : builder.value.toList ≠ [] := by simpa using hempty
    rw [DateProperty.conforms_iff_denotes hne, Parameter.head?_values]
    simp only [hempty, if_false, ← hvalid, ← Temporal.parse_eq_ok_iff]
    cases (Temporal.parse (builder.registry.getD .standard) leniency _ builder.value).result with
    | error fault => simp [Except.map]
    | ok value => simp [Except.map]

/-- A line with a date name is built with the standard factories, and the property is valid, exactly
if the value without blank ends conforms under the VALUE and TZID parameters. -/
theorem build_valid_iff [ZoneDatabase] (allowAnyName : Option Bool) (registry : Option ZoneRegistry)
    (leniency : Leniency) (name value : String) (parameters : List Parameter) (kind : DateKind)
    (hname : Factory.standardRegistrations.lookup (Text.upper name) = some (.date kind)) :
    (∃ property,
      ((ofParts allowAnyName registry name parameters value).build leniency).result =
        .ok property ∧ property.validate = .ok ()) ↔
      DateProperty.Conforms (registry.getD .standard) leniency
        (Parameter.values Parameter.valueName parameters)
        (Parameter.values Parameter.tzidName parameters) kind (Text.trim value).toList := by
  have hfactories : (ofParts allowAnyName registry name parameters value).factories =
    Factory.standard := rfl
  have hupper : (ofParts allowAnyName registry name parameters value).name = Text.upper name := rfl
  rw [build_of_standard _ leniency hfactories (by rw [hupper, Text.upper_upper]), hupper, hname]
  exact propertyOf_date_valid_iff _ leniency kind

/-- The leap day of 2024 between blanks, declared as a date, starts an event. -/
theorem build_valid_leapDay :
    Factory.standardRegistrations.lookup (Text.upper "dtstart") = some (.date .any) ∧
      ∃ property,
        ((ofParts none none "dtstart" [Parameter.of "value" "DATE"] " 20240229 ").build
          .strict).result = .ok property ∧ property.validate = .ok () := by
  have hname : Factory.standardRegistrations.lookup (Text.upper "dtstart") =
    some (.date .any) := by decide +kernel
  have hvalue : (Text.trim " 20240229 ").toList =
    (⟨2024, 2, 29, by decide, by decide, by decide⟩ : Date).literal := by decide +kernel
  have htypes : Parameter.values Parameter.valueName [Parameter.of "value" "DATE"] = ["DATE"] := by
    decide +kernel
  have htzids : Parameter.values Parameter.tzidName [Parameter.of "value" "DATE"] = [] := by
    decide +kernel
  refine ⟨hname, (build_valid_iff none none .strict "dtstart" " 20240229 "
    [Parameter.of "value" "DATE"] .any hname).mpr ?_⟩
  rw [hvalue]
  exact .date _ htypes htzids

end Builder

end ContentLine
