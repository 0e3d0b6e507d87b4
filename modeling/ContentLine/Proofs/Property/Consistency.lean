import ContentLine.Property.Validity

/-!
# Consistent date properties

Which parameters fit which stored value. Only the values of the VALUE and the TZID parameters count,
each taken in order; a moment in UTC allows no TZID, a local time requires exactly its own, and a
date must be declared as one.

## Main definitions

* `Parameter.values`: the values of all parameters of a name.
* `DateProperty.Consistent`: the stored values that the VALUE and TZID parameters fit.

## Main results

* `DateProperty.validate_eq_ok_iff`: a property is valid exactly if it is consistent.
-/

namespace ContentLine

namespace Parameter

/-- The values of all parameters of a name, in order. -/
def values (name : String) (parameters : List Parameter) : List String :=
  (all name parameters).map (·.value)

theorem length_values (name : String) (parameters : List Parameter) :
    (values name parameters).length = (all name parameters).length :=
  List.length_map ..

/-- The first value of a name is that of the first parameter. -/
theorem head?_values (name : String) (parameters : List Parameter) :
    (values name parameters).head? = (first? name parameters).map (·.value) := by
  rw [values, List.head?_map, head?_all]

end Parameter

namespace DateProperty

/-- The values of the VALUE parameters. -/
def types (property : DateProperty) : List String :=
  Parameter.values Parameter.valueName property.parameters

/-- The values of the TZID parameters. -/
def tzids (property : DateProperty) : List String :=
  Parameter.values Parameter.tzidName property.parameters

/-- The stored values that a property of a kind may have with given VALUE and TZID parameters. -/
inductive Consistent (types tzids : List String) : DateKind → Option Temporal → Prop
  /-- Nothing is stored. -/
  | empty (kind : DateKind) (htypes : types.length ≤ 1) (htzids : tzids.length ≤ 1) :
      Consistent types tzids kind none
  /-- A date, declared as one. -/
  | date (date : Date) (htypes : types = [Parameter.dateType]) (htzids : tzids.length ≤ 1) :
      Consistent types tzids .any (some (.date date))
  /-- A moment in UTC, not declared otherwise and without a zone. -/
  | utc (kind : DateKind) (wall : LocalTime) (fold : Bool)
      (htypes : types = [] ∨ types = [Parameter.dateTimeType]) (htzids : tzids = []) :
      Consistent types tzids kind (some (.utc wall fold))
  /-- A local time, not declared otherwise and with the zone that it is bound to. -/
  | zoned (time : ZonedTime) (tzid : String)
      (htypes : types = [] ∨ types = [Parameter.dateTimeType]) (htzids : tzids = [tzid]) :
      Consistent types tzids .any (some (.zoned time tzid))

variable {property : DateProperty}

theorem tzid_eq_head? (property : DateProperty) : property.tzid = property.tzids.head? :=
  (Parameter.head?_values ..).symm

/-- The rules on how often parameters occur are kept exactly if VALUE occurs at most once, and TZID
not at all for a moment in UTC and at most once otherwise. -/
theorem validateCounts_eq_ok_iff :
    property.validateCounts = .ok () ↔
      property.types.length ≤ 1 ∧ property.tzids.length ≤ if property.isUtc then 0 else 1 := by
  rw [types, tzids, Parameter.length_values, Parameter.length_values, validateCounts]
  by_cases hvalues : (Parameter.all Parameter.valueName property.parameters).length > 1
  · rw [if_pos hvalues]
    have hnot : ¬ (Parameter.all Parameter.valueName property.parameters).length ≤ 1 := by omega
    simp [hnot]
  · rw [if_neg hvalues]
    have hle : (Parameter.all Parameter.valueName property.parameters).length ≤ 1 := by omega
    cases property.isUtc <;> simp [hle]

/-- A date is declared as one exactly if its declaration is `DATE`. -/
theorem validateDate_eq_ok_iff {declared : Option String} :
    validateDate declared = .ok () ↔ declared = some Parameter.dateType := by
  cases declared with
  | none => simp [validateDate]
  | some type => by_cases htype : type = Parameter.dateType <;> simp [validateDate, htype]

/-- A date-time is not declared otherwise exactly if it has no declaration or `DATE-TIME`. -/
theorem validateDateTime_eq_ok_iff {declared : Option String} :
    validateDateTime declared = .ok () ↔
      declared = none ∨ declared = some Parameter.dateTimeType := by
  cases declared with
  | none => simp [validateDateTime]
  | some type =>
    by_cases htype : type = Parameter.dateTimeType <;> simp [validateDateTime, htype]

theorem validateZone_eq_ok_iff {given : Option String} {bound : String} :
    validateZone given bound = .ok () ↔ given = some bound := by
  by_cases h : given = some bound <;> simp [validateZone, h]

/-- The rule of the kind is kept exactly if any value is allowed, none is stored, or one in UTC. -/
theorem validateKind_eq_ok_iff :
    property.validateKind = .ok () ↔
      property.kind = .any ∨ property.stored = none ∨ property.isUtc = true := by
  unfold validateKind
  cases property.kind with
  | any => simp
  | utcOnly =>
    cases property.stored with
    | none => simp
    | some value => cases property.isUtc <;> simp

/-- A sequence of rules is kept exactly if each of them is. -/
theorem andThen_eq_ok_iff {first second : Except ValidityFault Unit} :
    (first >>= fun _ => second) = .ok () ↔ first = .ok () ∧ second = .ok () := by
  cases first with
  | error fault => simp [bind, Except.bind]
  | ok => simp [bind, Except.bind]

/-- A list with at most one element is decided by its head. -/
theorem head?_eq_some_iff_of_length_le {l : List String} {a : String} (hlength : l.length ≤ 1) :
    l.head? = some a ↔ l = [a] := by
  match l, hlength with
  | [], _ => simp
  | [x], _ => simp

/-- The rules that fit the stored value, in terms of the VALUE and TZID parameters. -/
theorem validateStored_eq_ok_iff :
    property.validateStored = .ok () ↔
      match property.stored with
      | none => True
      | some (.date _) => property.types.head? = some Parameter.dateType
      | some (.utc ..) =>
        property.types.head? = none ∨ property.types.head? = some Parameter.dateTimeType
      | some (.zoned _ bound) =>
        (property.types.head? = none ∨ property.types.head? = some Parameter.dateTimeType) ∧
          property.tzids.head? = some bound := by
  have htypes : (Parameter.first? Parameter.valueName property.parameters).map (·.value) =
      property.types.head? := (Parameter.head?_values ..).symm
  cases hstored : property.stored with
  | none => simp only [validateStored, hstored]
  | some value =>
    cases value with
    | date date => simp only [validateStored, hstored, htypes, validateDate_eq_ok_iff]
    | utc wall fold => simp only [validateStored, hstored, htypes, validateDateTime_eq_ok_iff]
    | zoned time bound =>
      simp only [validateStored, hstored, htypes, andThen_eq_ok_iff, validateDateTime_eq_ok_iff,
        validateZone_eq_ok_iff, tzid_eq_head?]

/-- A property is valid exactly if its VALUE and TZID parameters fit its stored value. -/
theorem validate_eq_ok_iff :
    property.validate = .ok () ↔
      Consistent property.types property.tzids property.kind property.stored := by
  rw [validate, andThen_eq_ok_iff, andThen_eq_ok_iff, validateCounts_eq_ok_iff,
    validateStored_eq_ok_iff, validateKind_eq_ok_iff, isUtc]
  generalize property.types = types, property.tzids = tzids, property.kind = kind,
    property.stored = stored
  constructor
  · -- The counts turn the rules on the first VALUE and the first TZID into rules on all of them.
    rintro ⟨⟨htypes, htzids⟩, hstored, hkind⟩
    cases stored with
    | none => exact .empty kind htypes htzids
    | some value => cases value with
      | date date =>
        obtain rfl : kind = .any := by simpa [Temporal.isUtc] using hkind
        exact .date date ((head?_eq_some_iff_of_length_le htypes).mp hstored) htzids
      | utc wall fold =>
        simp only [List.head?_eq_none_iff, head?_eq_some_iff_of_length_le htypes] at hstored
        exact .utc kind wall fold hstored (by simpa [Temporal.isUtc] using htzids)
      | zoned time tzid =>
        obtain rfl : kind = .any := by simpa [Temporal.isUtc] using hkind
        obtain ⟨hdeclared, hbound⟩ := hstored
        rw [List.head?_eq_none_iff, head?_eq_some_iff_of_length_le htypes] at hdeclared
        exact .zoned time tzid hdeclared ((head?_eq_some_iff_of_length_le htzids).mp hbound)
  · intro h
    cases h with
    | empty _ htypes htzids => simp [htypes, htzids]
    | date _ htypes htzids => simp [htypes, htzids, Temporal.isUtc]
    | utc _ _ _ htypes htzids =>
      rcases htypes with rfl | rfl <;> simp [htzids, Temporal.isUtc]
    | zoned _ _ htypes htzids =>
      rcases htypes with rfl | rfl <;> simp [htzids, Temporal.isUtc]

end DateProperty

end ContentLine
