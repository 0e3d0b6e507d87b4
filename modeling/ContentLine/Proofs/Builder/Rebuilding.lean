import ContentLine.Proofs.Builder.Conformance
import ContentLine.Proofs.Property.Soundness
import ContentLine.Proofs.Temporal.RoundTrip
import ContentLine.Proofs.Text.Trim

/-!
# Building what was written

A date property is written as its name, its parameters and the literal of its value, and a builder
with a factory of the name and the kind makes a property of them again. The value is then bound
anew, under the TZID parameter that the property has now, which need not be the one that the value
was bound under. Validity makes up for that: the one TZID parameter of a valid property is the
identifier that its value is bound to. Only dates escape it, which are bound to nothing: a date with
a TZID parameter is valid, while no text of a date is accepted under one.

## Main definitions

* `Temporal.WrittenInFull`: a literal holds all of a value.
* `Builder.rebuild`: building a property again from what is written of it.

## Main results

* `Temporal.parse_ics_of_writtenInFull`: a value that is written in full is read back.
* `Property.upper_name_of_provenance`, `Property.upper_name_after`: an operation, and a history,
  leaves date properties with names in upper case.
* `Builder.build_written`, `Builder.build_written_of_dateWithZone`: a valid property is built again,
  and a date with a TZID parameter is refused.
* `Builder.build_written_after`: what becomes of every date property that a history leaves.
-/

namespace ContentLine

/-! ## Values that a literal holds in full -/

/-- A value loses nothing in writing: its year has four digits, and if it is a time, it is a whole
second, the first occurrence of it, in the zone that the registry finds for its identifier. -/
structure Temporal.WrittenInFull (registry : ZoneRegistry) (leniency : Leniency)
    (value : Temporal) : Prop where
  /-- The year has four digits. -/
  year : 1000 ≤ value.day.year
  /-- A time is a whole second. -/
  whole : ∀ time, value.reading = .time time → time.wall.time.microsecond = 0
  /-- A time is the first of its occurrences. -/
  first : ∀ time, value.reading = .time time → time.fold = false
  /-- A local time is in the zone that the registry finds. -/
  bound : value.BoundBy registry leniency

theorem LocalTime.wholeSecond_eq_self {wall : LocalTime} (h : wall.time.microsecond = 0) :
    wall.wholeSecond = wall := by
  rcases wall with ⟨date, ⟨hour, minute, second, microsecond⟩⟩
  obtain rfl : microsecond = 0 := h
  rfl

namespace Temporal

variable {registry : ZoneRegistry} {leniency : Leniency} {value : Temporal}

/-- What a text denotes is written in full, if its year has four digits. -/
theorem Denotes.writtenInFull {tzid : Option String} {text : List Char}
    (h : Denotes registry leniency tzid text value) (hyear : 1000 ≤ value.day.year) :
    value.WrittenInFull registry leniency := by
  refine ⟨hyear, ?_, ?_, h.boundBy⟩
  · rintro time hreading
    cases h with
    | date => cases hreading
    | utc wall hwhole => cases hreading; exact hwhole
    | zoned tzid wall hwhole zone hzone => cases hreading; exact hwhole
  · rintro time hreading
    cases h <;> cases hreading <;> rfl

/-- All of a value that is written in full is left once it is read back. -/
theorem WrittenInFull.restores (h : value.WrittenInFull registry leniency) :
    Restores registry leniency value value := by
  -- A time is left at the start of its second and as its first occurrence, which is where it is.
  cases value with
  | date day => exact .date day
  | utc wall fold =>
    obtain rfl : fold = false := h.first _ rfl
    have hrestores : Restores registry leniency (.utc wall false) (.utc wall.wholeSecond false) :=
      .utc wall false
    rwa [LocalTime.wholeSecond_eq_self (h.whole _ rfl)] at hrestores
  | zoned time tzid =>
    rcases time with ⟨wall, fold, zone⟩
    obtain rfl : fold = false := h.first _ rfl
    have hrestores : Restores registry leniency (.zoned ⟨wall, false, zone⟩ tzid)
        (.zoned ⟨wall.wholeSecond, false, zone⟩ tzid) :=
      .zoned ⟨wall, false, zone⟩ tzid zone h.bound
    rwa [LocalTime.wholeSecond_eq_self (h.whole _ rfl)] at hrestores

theorem ics_eq_literal (hyear : 1000 ≤ value.day.year) : value.ics.toList = value.literal := by
  rw [literal_eq_zeros_append_ics, value.day.yearZeros_eq_nil_iff.mpr hyear, List.nil_append]

theorem ics_ne_empty (hyear : 1000 ≤ value.day.year) : value.ics ≠ "" := by
  intro hempty
  have hliteral := ics_eq_literal hyear
  rw [hempty] at hliteral
  cases value with
  | date day => exact day.literal_ne_nil hliteral.symm
  | utc wall fold => exact List.append_ne_nil_of_right_ne_nil _ (List.cons_ne_nil _ _) hliteral.symm
  | zoned time tzid => exact time.wall.literal_ne_nil hliteral.symm

/-- A value that is written in full is read back from its literal, under its own identifier. -/
theorem parse_ics_of_writtenInFull (h : value.WrittenInFull registry leniency) :
    (parse registry leniency value.tzid? value.ics).result = .ok value := by
  rw [parse_eq_ok_iff, ics_eq_literal h.year]
  exact h.restores.denotes

/-! ### Blanks -/

theorem isBlank_of_mem_padded {width n : Nat} {c : Char} (h : c ∈ Text.padded width n) :
    Text.isBlank c = false := by
  -- The codes of the digits, 48 to 57, are between those of the blank characters.
  have hdigit := Text.isSome_digitValue?_of_mem_padded h
  unfold Text.digitValue? at hdigit
  split at hdigit
  next hrange =>
    simp only [Text.isBlank, Bool.or_eq_false_iff, Bool.and_eq_false_iff, decide_eq_false_iff_not,
      beq_eq_false_iff_ne]
    omega
  next => cases hdigit

theorem isBlank_of_mem_date_literal {date : Date} {c : Char} (h : c ∈ date.literal) :
    Text.isBlank c = false := by
  simp only [Date.literal, List.mem_append] at h
  rcases h with (h | h) | h <;> exact isBlank_of_mem_padded h

theorem isBlank_of_mem_wall_literal {wall : LocalTime} {c : Char} (h : c ∈ wall.literal) :
    Text.isBlank c = false := by
  simp only [LocalTime.literal, TimeOfDay.basic, List.mem_append, List.mem_cons] at h
  rcases h with h | rfl | (h | h) | h
  · exact isBlank_of_mem_date_literal h
  · decide
  all_goals exact isBlank_of_mem_padded h

/-- A literal has no blanks, so trimming leaves it as it is. -/
theorem trim_ics (hyear : 1000 ≤ value.day.year) : Text.trim value.ics = value.ics := by
  have hblank : ∀ c ∈ value.ics.toList, Text.isBlank c = false := by
    rw [ics_eq_literal hyear]
    intro c hc
    cases value with
    | date day => exact isBlank_of_mem_date_literal hc
    | utc wall fold =>
      rcases List.mem_append.mp hc with hc | hc
      · exact isBlank_of_mem_wall_literal hc
      · obtain rfl := List.mem_singleton.mp hc
        decide
    | zoned time tzid => exact isBlank_of_mem_wall_literal hc
  apply String.toList_inj.mp
  rw [Text.toList_trim, Text.trimChars_eq_dropEnds]
  exact Text.dropEnds_eq_self (fun c hc => hblank c (List.mem_of_mem_head? hc))
    (fun c hc => hblank c (List.mem_of_mem_getLast? hc))

end Temporal

/-! ## Names -/

namespace Property

theorem name_of_change {leniency : Leniency} {old property : DateProperty} {edit : Change}
    (h : ((Property.dated old).change leniency edit).result = .ok (.dated property)) :
    property.name = old.name := by
  cases edit with
  | setValue text =>
    -- Only this change can fail; the others give their property at once.
    obtain ⟨stored, -, rfl⟩ := setValue_eq_ok_iff.mp (change_setValue_eq_ok_iff.mp h)
    rfl
  | store | setRegistry | addParameter | replaceParameter | removeParameters =>
    cases h
    rfl

/-- An operation leaves every date property with a name in upper case, if each had one before. -/
theorem upper_name_of_provenance {leniency : Leniency} {before : List Property} {position : Nat}
    {operation : Operation} {property : DateProperty}
    (hbefore : ∀ (position : Nat) (old : DateProperty),
      before[position]? = some (.dated old) → Text.upper old.name = old.name)
    (h : Provenance leniency before position property operation) :
    Text.upper property.name = property.name := by
  cases h with
  | created kind name parameters text registry hposition hcreate =>
    obtain ⟨stored, -, rfl⟩ := setValue_eq_ok_iff.mp hcreate
    exact Text.upper_upper name
  | copied source hposition hsource => exact hbefore source property hsource
  | changed edit old hold hedit =>
    rw [name_of_change hedit]
    exact hbefore position old hold
  | kept operation hproperty hfailed => exact hbefore position property hproperty

/-- The date properties that a history leaves have names in upper case. -/
theorem upper_name_after {history : List (Leniency × Operation)} {position : Nat}
    {property : DateProperty} (hproperty : (after history)[position]? = some (.dated property)) :
    Text.upper property.name = property.name :=
  forall_after (fun _ _ _ _ _ hbefore => upper_name_of_provenance hbefore) hproperty

end Property

/-! ## Binding the value again -/

namespace DateProperty

variable {registry : ZoneRegistry} {leniency : Leniency} {property : DateProperty}
  {value : Temporal}

/-- The literal of a value that is written in full has no blanks, nor has that of no value. -/
theorem trim_value (hstored : ∀ value ∈ property.stored, value.WrittenInFull registry leniency) :
    Text.trim property.value = property.value := by
  rw [DateProperty.value]
  cases hvalue : property.stored with
  | none => decide
  | some value => exact Temporal.trim_ics (hstored value hvalue).year

/-- The TZID parameter of a valid property is the identifier that its value is bound to, if it is no
date. -/
theorem tzid_eq_of_valid (hvalid : property.validate = .ok ())
    (hvalue : property.stored = some value) (hnotDate : ∀ date, value ≠ .date date) :
    property.tzid = value.tzid? := by
  -- Of the four cases of consistency, the value leaves those of its variant.
  have hconsistent := validate_eq_ok_iff.mp hvalid
  rw [hvalue] at hconsistent
  rw [tzid_eq_head?]
  generalize property.types = types, property.tzids = tzids, property.kind = kind at hconsistent ⊢
  cases hconsistent with
  | date date => exact absurd rfl (hnotDate date)
  | utc _ wall fold _ htzids => rw [htzids]; rfl
  | zoned time tzid _ htzids => rw [htzids]; rfl

/-- The literal of a valid property fixes the value that is stored, if a date has no zone. -/
theorem outcome_value (hvalid : property.validate = .ok ())
    (hstored : ∀ value ∈ property.stored, value.WrittenInFull registry leniency)
    (hdate : ∀ date, property.stored = some (.date date) → property.tzid = none) :
    (Property.Setting.text registry leniency property.tzid property.value).outcome =
      .ok property.stored := by
  rw [DateProperty.value]
  cases hvalue : property.stored with
  | none => rfl
  | some value =>
    have hfull := hstored value hvalue
    -- The text is read under the TZID parameter, which must be the identifier of the value.
    have htzid : property.tzid = value.tzid? := by
      cases value with
      | date date => exact hdate date hvalue
      | utc wall fold => exact tzid_eq_of_valid hvalid hvalue (by simp)
      | zoned time tzid => exact tzid_eq_of_valid hvalid hvalue (by simp)
    rw [Property.Setting.outcome, if_neg (Temporal.ics_ne_empty hfull.year), htzid,
      Temporal.parse_ics_of_writtenInFull hfull]
    rfl

/-- The literal of a date fixes no value where a zone is given. -/
theorem outcome_value_of_dateWithZone {date : Date} {tzid : String} (hyear : 1000 ≤ date.year)
    (hvalue : property.stored = some (.date date)) (htzid : property.tzid = some tzid) :
    (Property.Setting.text registry leniency property.tzid property.value).outcome =
      .error (.format (.notLocal tzid property.value)) := by
  -- The text has the form of a date, which is refused before anything is asked of the registry.
  have hics : property.value = (Temporal.date date).ics := by rw [DateProperty.value, hvalue]
  have hliteral : property.value.toList = date.literal := by
    rw [hics]
    exact Temporal.ics_eq_literal hyear
  have hform : Literal.read? property.value.toList = some (.date date.toDigits) := by
    rw [hliteral]
    exact Temporal.read?_date date
  have hne : property.value ≠ "" := by
    rw [hics]
    exact Temporal.ics_ne_empty hyear
  rw [Property.Setting.outcome, if_neg hne, htzid,
    Temporal.parse_of_not_floating (by simp [hform])]
  rfl

end DateProperty

namespace Builder

/-- A builder for a date kind has the property of the value that its text fixes. -/
theorem propertyOf_date [ZoneDatabase] (builder : Builder) (leniency : Leniency) (kind : DateKind) :
    builder.propertyOf leniency (.date kind) =
      (Property.Setting.text (builder.registry.getD .standard) leniency
        ((Parameter.first? Parameter.tzidName builder.parameters).map (·.value))
        builder.value).outcome.map fun stored =>
        .dated ⟨kind, builder.name, builder.parameters, stored,
          builder.registry.getD .standard⟩ := by
  rw [propertyOf, Property.Setting.outcome]
  -- Both sides are decided by whether there is a text, and then by what it is read as.
  by_cases hempty : builder.value = ""
  · rw [if_pos hempty, if_pos hempty]
    rfl
  · rw [if_neg hempty, if_neg hempty]
    cases (Temporal.parse (builder.registry.getD .standard) leniency _ builder.value).result <;> rfl

/-- A builder for a date kind stands for a property exactly if its text fixes a value, and for the
property of that value. -/
theorem propertyOf_date_eq_ok_iff [ZoneDatabase] {builder : Builder} {leniency : Leniency}
    {kind : DateKind} {property : Property} :
    builder.propertyOf leniency (.date kind) = .ok property ↔
      ∃ stored, (Property.Setting.text (builder.registry.getD .standard) leniency
          ((Parameter.first? Parameter.tzidName builder.parameters).map (·.value))
          builder.value).outcome = .ok stored ∧
        property = .dated ⟨kind, builder.name, builder.parameters, stored,
          builder.registry.getD .standard⟩ := by
  rw [propertyOf_date]
  cases (Property.Setting.text (builder.registry.getD .standard) leniency _
      builder.value).outcome with
  | error fault => simp [Except.map]
  | ok stored => simp [Except.map, eq_comm]

section Rebuilding

variable [ZoneDatabase]

/-- The outcome of building a date property again, from its name, its parameters and the literal of
its value, with the factories of registrations and a registry. -/
def rebuild (registrations : List (String × Kind)) (allowAnyName : Option Bool)
    (registry : ZoneRegistry) (leniency : Leniency) (property : DateProperty) :
    Except Fault Property :=
  ((ofRegistrations registrations allowAnyName (some registry) property.name property.parameters
    property.value).build leniency).result

variable {registrations : List (String × Kind)} {registry : ZoneRegistry} {leniency : Leniency}
  {property : DateProperty}

/-- The value of a property that is built again is bound anew, under the parameters that the
property has now. -/
theorem rebuild_eq
    (hkind : Factory.lastKind? registrations property.name = some (.date property.kind))
    (hname : Text.upper property.name = property.name)
    (hstored : ∀ value ∈ property.stored, value.WrittenInFull registry leniency)
    (allowAnyName : Option Bool) :
    rebuild registrations allowAnyName registry leniency property =
      (Property.Setting.text registry leniency property.tzid property.value).outcome.map
        fun stored => .dated { property with stored, registry } := by
  have hupper : Factory.lastKind? registrations (Text.upper property.name) =
      some (.date property.kind) := by rwa [hname]
  rw [rebuild, build_ofRegistrations leniency hupper, propertyOf_date,
    DateProperty.trim_value hstored, hname]
  rfl

/-- A valid property is built again from its name, its parameters and its literal, unless it is a
date with a TZID parameter. -/
theorem build_written
    (hkind : Factory.lastKind? registrations property.name = some (.date property.kind))
    (hname : Text.upper property.name = property.name)
    (hvalid : property.validate = .ok ())
    (hstored : ∀ value ∈ property.stored, value.WrittenInFull registry leniency)
    (hdate : ∀ date, property.stored = some (.date date) → property.tzid = none)
    (allowAnyName : Option Bool) :
    rebuild registrations allowAnyName registry leniency property =
      .ok (.dated { property with registry }) := by
  rw [rebuild_eq hkind hname hstored, DateProperty.outcome_value hvalid hstored hdate]
  rfl

/-- A date with a TZID parameter is not built again. -/
theorem build_written_of_dateWithZone
    (hkind : Factory.lastKind? registrations property.name = some (.date property.kind))
    (hname : Text.upper property.name = property.name)
    (hstored : ∀ value ∈ property.stored, value.WrittenInFull registry leniency)
    {date : Date} {tzid : String} (hdate : property.stored = some (.date date))
    (htzid : property.tzid = some tzid) (allowAnyName : Option Bool) :
    rebuild registrations allowAnyName registry leniency property =
      .error (.format (.notLocal tzid property.value)) := by
  rw [rebuild_eq hkind hname hstored,
    DateProperty.outcome_value_of_dateWithZone (hstored _ hdate).year hdate htzid]
  rfl

/-- After any history, a valid date property whose value is written in full is built again, with
the value it has and valid, by a builder with a factory of its name and kind, from its parameters
and its literal. Only a date that has a TZID parameter is refused, though it is valid. -/
theorem build_written_after {history : List (Leniency × Property.Operation)} {position : Nat}
    (hproperty : (Property.after history)[position]? = some (.dated property))
    (hvalid : property.validate = .ok ())
    (hstored : ∀ value ∈ property.stored, value.WrittenInFull registry leniency)
    (hkind : Factory.lastKind? registrations property.name = some (.date property.kind))
    (allowAnyName : Option Bool) :
    ((∀ date, property.stored = some (.date date) → property.tzid = none) →
        rebuild registrations allowAnyName registry leniency property =
            .ok (.dated { property with registry }) ∧
          { property with registry }.validate = .ok ()) ∧
      ∀ date tzid, property.stored = some (.date date) → property.tzid = some tzid →
        rebuild registrations allowAnyName registry leniency property =
          .error (.format (.notLocal tzid property.value)) := by
  have hname : Text.upper property.name = property.name := Property.upper_name_after hproperty
  constructor
  · intro hdate
    -- Validity does not depend on the registry.
    exact ⟨build_written hkind hname hvalid hstored hdate allowAnyName, hvalid⟩
  · intro date tzid hdate htzid
    exact build_written_of_dateWithZone hkind hname hstored hdate htzid allowAnyName

end Rebuilding

/-- A start in Berlin is given the zone of New York and declared as a date-time, and then set to
half past one on the day when the clocks there show that twice; the operations are listed the latest
first. -/
def resetInNewYork : List (Leniency × Property.Operation) :=
  [(.strict, .change 0 (.setValue "20231105T013000")),
    (.strict, .change 0 (.addParameter (Parameter.of "value" "DATE-TIME"))),
    (.strict, .change 0 (.replaceParameter (Parameter.of "tzid" "America/New_York"))),
    (.strict, .create (.date .any) "dtstart" [Parameter.of "tzid" "Europe/Berlin"]
      "20240701T120000" .standard)]

/-- Half past one in New York is built again. -/
theorem build_written_after_resetInNewYork :
    ∃ property, (Property.after resetInNewYork)[0]? = some (.dated property) ∧
      property.value = "20231105T013000" ∧ property.tzid = some "America/New_York" ∧
      rebuild Factory.standardRegistrations none .standard .strict property =
        .ok (.dated { property with registry := .standard }) := by
  have hstate : (Property.datedAt? (Property.after resetInNewYork) 0).map (fun property =>
      (property.kind, property.name, property.types, property.tzids, property.stored)) =
      some (.any, "DTSTART", ["DATE-TIME"], ["America/New_York"],
        some (.zoned ⟨⟨⟨2023, 11, 5, by decide, by decide, by decide⟩, ⟨1, 30, 0, 0, by decide,
          by decide, by decide, by decide⟩⟩, false, .named "America/New_York"⟩
          "America/New_York")) := by decide +kernel
  have hzone : (ZoneRegistry.standard.resolve .strict "America/New_York").result =
      .ok (.named "America/New_York") :=
    ZoneRegistry.resolveInDatabase_of_isName rfl (by decide +kernel)
  obtain ⟨property, hdated, hfields⟩ := Option.map_eq_some_iff.mp hstate
  have hproperty := Property.datedAt?_eq_some_iff.mp hdated
  simp only [Prod.mk.injEq] at hfields
  obtain ⟨hkind, hname, htypes, htzids, hhalfPastOne⟩ := hfields
  have hvalid : property.validate = .ok () := by
    rw [DateProperty.validate_eq_ok_iff, htypes, htzids, hkind, hhalfPastOne]
    exact .zoned _ _ (Or.inr rfl) rfl
  have hstored : ∀ value ∈ property.stored, value.WrittenInFull .standard .strict := by
    rw [hhalfPastOne]
    rintro _ ⟨⟩
    exact (Temporal.Denotes.zoned (some "America/New_York") _ rfl _ hzone).writtenInFull (by decide)
  have hlast : Factory.lastKind? Factory.standardRegistrations property.name =
      some (.date property.kind) := by
    rw [hname, hkind]
    decide +kernel
  have hnotDate : ∀ date, property.stored = some (.date date) → property.tzid = none := by
    rw [hhalfPastOne]
    rintro date ⟨⟩
  refine ⟨property, hproperty, ?_, ?_,
    ((build_written_after hproperty hvalid hstored hlast none).1 hnotDate).1⟩
  · rw [DateProperty.value, hhalfPastOne]
    decide +kernel
  · rw [DateProperty.tzid_eq_head?, htzids]
    rfl

/-- A start on a day is given a zone after it is set; the operations are listed the latest first. -/
def dayWithZone : List (Leniency × Property.Operation) :=
  [(.strict, .change 0 (.addParameter (Parameter.of "tzid" "America/New_York"))),
    (.strict, .create (.date .any) "dtstart" [Parameter.of "value" "DATE"] "20230615" .standard)]

/-- The day with a zone is valid and written in full, but it is refused when it is built again. -/
theorem not_build_written_dayWithZone :
    ∃ property, (Property.after dayWithZone)[0]? = some (.dated property) ∧
      property.validate = .ok () ∧
      (∀ value ∈ property.stored, value.WrittenInFull .standard .strict) ∧
      Factory.lastKind? Factory.standardRegistrations property.name =
        some (.date property.kind) ∧
      rebuild Factory.standardRegistrations none .standard .strict property =
        .error (.format (.notLocal "America/New_York" "20230615")) := by
  have hstate : (Property.datedAt? (Property.after dayWithZone) 0).map (fun property =>
      (property.kind, property.name, property.types, property.tzids, property.stored)) =
      some (.any, "DTSTART", ["DATE"], ["America/New_York"],
        some (.date ⟨2023, 6, 15, by decide, by decide, by decide⟩)) := by decide +kernel
  obtain ⟨property, hdated, hfields⟩ := Option.map_eq_some_iff.mp hstate
  simp only [Prod.mk.injEq] at hfields
  obtain ⟨hkind, hname, htypes, htzids, hday⟩ := hfields
  have hvalid : property.validate = .ok () := by
    rw [DateProperty.validate_eq_ok_iff, htypes, htzids, hkind, hday]
    exact .date _ rfl (by decide)
  have hstored : ∀ value ∈ property.stored, value.WrittenInFull .standard .strict := by
    rw [hday]
    rintro _ ⟨⟩
    exact (Temporal.Denotes.date _).writtenInFull (by decide)
  have hlast : Factory.lastKind? Factory.standardRegistrations property.name =
      some (.date property.kind) := by
    rw [hname, hkind]
    decide +kernel
  have hupper : Text.upper property.name = property.name := by
    rw [hname]
    decide +kernel
  have htzid : property.tzid = some "America/New_York" := by
    rw [DateProperty.tzid_eq_head?, htzids]
    rfl
  have htext : property.value = "20230615" := by
    rw [DateProperty.value, hday]
    decide +kernel
  refine ⟨property, Property.datedAt?_eq_some_iff.mp hdated, hvalid, hstored, hlast, ?_⟩
  rw [← htext]
  exact build_written_of_dateWithZone hlast hupper hstored hday htzid none

end Builder

end ContentLine
