import ContentLine.Proofs.Property.Consistency
import ContentLine.Zone.Excerpt

/-!
# What validity reads of the parameters

A property is judged by the parameters that are named VALUE or TZID, and not by their order. Some of
the rules speak of the first parameter of a name, and reading depends on which TZID is the first;
but the rules on how often a name occurs are judged before those, so that wherever a rule looks for
the first parameter of a name there is at most one to find.

## Main definitions

* `Parameter.declarations`: the parameters that are named VALUE or TZID.

## Main results

* `DateProperty.validateCounts_congr`, `DateProperty.validateStored_congr`: what each group of rules
  depends on.
* `DateProperty.validate_congr`: validity depends on the VALUE and the TZID parameters up to order.
* `DateProperty.validate_of_perm_declarations`: neither the order of the parameters nor any other
  parameter changes how a property is judged, though both can change how it is read.
-/

namespace ContentLine

namespace Parameter

/-- The parameters that declare the type of a value or refer to a zone, in order. -/
def declarations (parameters : List Parameter) : List Parameter :=
  parameters.filter fun parameter => parameter.name = "VALUE" ∨ parameter.name = "TZID"

/-- The parameters of either name are found among the declarations. -/
theorem all_declarations {name : String}
    (hname : Text.upper name = "VALUE" ∨ Text.upper name = "TZID") (parameters : List Parameter) :
    all name (declarations parameters) = all name parameters := by
  rw [all, all, declarations, List.filter_filter]
  apply List.filter_congr
  intro parameter _
  by_cases h : parameter.name = Text.upper name
  · simpa [isNamed, h] using hname
  · simp [isNamed, h]

/-- If the declarations of two lists are the same up to order, then so are the parameters of either
name. -/
theorem all_perm_of_perm {name : String}
    (hname : Text.upper name = "VALUE" ∨ Text.upper name = "TZID") {a b : List Parameter}
    (h : (declarations a).Perm (declarations b)) : (all name a).Perm (all name b) := by
  rw [← all_declarations hname a, ← all_declarations hname b]
  exact h.filter _

end Parameter

namespace DateProperty

variable {a b : DateProperty}

/-- A list with at most one element has no other order. -/
theorem eq_of_perm_of_length_le {l m : List String} (h : l.Perm m) (hlength : m.length ≤ 1) :
    l = m := by
  match m, hlength with
  | [], _ => exact List.perm_nil.mp h
  | [_], _ => exact List.perm_singleton.mp h

/-- How often parameters may occur depends on their numbers and on whether the value is in UTC. -/
theorem validateCounts_congr (htypes : a.types.length = b.types.length)
    (htzids : a.tzids.length = b.tzids.length) (hstored : a.stored = b.stored) :
    a.validateCounts = b.validateCounts := by
  simp only [types, tzids, Parameter.length_values] at htypes htzids
  unfold validateCounts isUtc
  rw [htypes, htzids, hstored]

/-- The rules that fit the stored value depend on the first VALUE and the first TZID. -/
theorem validateStored_congr (htypes : a.types.head? = b.types.head?)
    (htzids : a.tzids.head? = b.tzids.head?) (hstored : a.stored = b.stored) :
    a.validateStored = b.validateStored := by
  simp only [types, Parameter.head?_values] at htypes
  simp only [validateStored, tzid_eq_head?, htypes, htzids, hstored]

/-- Two properties that differ in their parameters alone are judged alike if their VALUE and their
TZID parameters are the same up to order. -/
theorem validate_congr (hkind : a.kind = b.kind) (hname : a.name = b.name)
    (hstored : a.stored = b.stored) (htypes : a.types.Perm b.types)
    (htzids : a.tzids.Perm b.tzids) : a.validate = b.validate := by
  have hcounts : a.validateCounts = b.validateCounts :=
    validateCounts_congr htypes.length_eq htzids.length_eq hstored
  have hkinds : a.validateKind = b.validateKind := by
    unfold validateKind isUtc
    rw [hkind, hname, hstored]
  rw [validate, validate, hcounts, hkinds]
  cases hresult : b.validateCounts with
  | error fault => rfl
  | ok =>
    -- The counts are in order, so there is at most one parameter of each name to read.
    obtain ⟨htypesLength, htzidsLength⟩ := validateCounts_eq_ok_iff.mp hresult
    have htzidsLength : b.tzids.length ≤ 1 :=
      Nat.le_trans htzidsLength (by split <;> decide)
    have htypesSame : a.types = b.types := eq_of_perm_of_length_le htypes htypesLength
    have htzidsSame : a.tzids = b.tzids := eq_of_perm_of_length_le htzids htzidsLength
    rw [validateStored_congr (congrArg List.head? htypesSame) (congrArg List.head? htzidsSame)
      hstored]

/-- A property is judged alike with any other parameters of which those named VALUE or TZID are the
same up to order. -/
theorem validate_eq_of_perm {property : DateProperty} {parameters : List Parameter}
    (h : (Parameter.declarations parameters).Perm (Parameter.declarations property.parameters)) :
    ({ property with parameters } : DateProperty).validate = property.validate := by
  have hvalue : Text.upper Parameter.valueName = "VALUE" := by decide +kernel
  have htzid : Text.upper Parameter.tzidName = "TZID" := by decide +kernel
  refine validate_congr rfl rfl rfl ?_ ?_
  · exact (Parameter.all_perm_of_perm (Or.inl hvalue) h).map _
  · exact (Parameter.all_perm_of_perm (Or.inr htzid) h).map _

/-- Noon of a day in July. -/
def julyNoon : LocalTime :=
  ⟨(Date.of? 2024 7 1).toOption.get (by decide), TimeOfDay.midnight.atSecond (3600 * 12)⟩

/-- Noon in UTC, to be viewed in New York or in Berlin. -/
def noonInTwoZones : DateProperty where
  kind := .any
  name := "DTSTART"
  parameters := [Parameter.of "TZID" "America/New_York", Parameter.of "TZID" "Europe/Berlin"]
  stored := some (.utc julyNoon false)
  registry := .standard

/-- How a property is judged, down to the fault, is not changed by putting its parameters in another
order, nor by adding or removing parameters that are named neither VALUE nor TZID. The order does
count for the first parameter of a name and for what a property reads as. -/
theorem validate_of_perm_declarations :
    (∀ (property : DateProperty) (parameters : List Parameter),
      (Parameter.declarations parameters).Perm (Parameter.declarations property.parameters) →
        ({ property with parameters } : DateProperty).validate = property.validate) ∧
      ∃ (property : DateProperty) (parameters : List Parameter),
        parameters.Perm property.parameters ∧
        Parameter.first? "TZID" parameters ≠ Parameter.first? "TZID" property.parameters ∧
        (({ property with parameters } : DateProperty).read .strict).result ≠
          (property.read .strict).result := by
  refine ⟨fun property parameters h => validate_eq_of_perm h, noonInTwoZones,
    noonInTwoZones.parameters.reverse, List.reverse_perm _, by decide +kernel, ?_⟩
  intro hsame
  have hread : (DateProperty.read .strict { noonInTwoZones with
      parameters := noonInTwoZones.parameters.reverse }).result.toOption ≠
      (noonInTwoZones.read .strict).result.toOption := by decide +kernel
  exact hread (congrArg Except.toOption hsame)

/-- A time stamp that is bound to Berlin. -/
def stampInBerlin : DateProperty where
  kind := .utcOnly
  name := "DTSTAMP"
  parameters := [Parameter.of "value" "DATE-TIME", Parameter.of "tzid" "Europe/Berlin",
    Parameter.of "x-source" "1"]
  stored := some (.zoned ⟨julyNoon, false, .named "Europe/Berlin"⟩ "Europe/Berlin")
  registry := .standard

/-- The stamp is refused for not being in UTC also if its parameters are reordered among others. -/
theorem validate_of_perm_declarations_stamp :
    ({ stampInBerlin with parameters := [Parameter.of "x-first" "", Parameter.of "TZID"
        "Europe/Berlin", Parameter.of "Language" "de", Parameter.of "VALUE" "DATE-TIME"] } :
        DateProperty).validate = .error (.utcRequired "DTSTAMP") := by
  have hperm : (Parameter.declarations [Parameter.of "x-first" "", Parameter.of "TZID"
      "Europe/Berlin", Parameter.of "Language" "de", Parameter.of "VALUE" "DATE-TIME"]).Perm
      (Parameter.declarations stampInBerlin.parameters) := by decide +kernel
  have hstamp : stampInBerlin.validate = .error (.utcRequired "DTSTAMP") := by rfl
  exact (validate_of_perm_declarations.1 _ _ hperm).trans hstamp

end DateProperty

end ContentLine
