import ContentLine.Proofs.Property.Binding
import ContentLine.Proofs.Zone.Interchange
import ContentLine.Zone.Excerpt

/-!
# Reading dates

A date has no time of day, so that it is the same at every zone. Still, reading a property asks its
registry for the zone of the first TZID parameter before it looks at what is stored. A stored date
therefore reads as itself at whichever zone is found, but cannot be read if none is found.

## Main results

* `DateProperty.result_read_of_date`: what a stored date reads as, by the first TZID parameter.
* `DateProperty.read_of_stored_date`: a stored date reads as itself exactly if the registry finds a
  zone where one is asked for, and otherwise reading fails as the registry does.
* `DateProperty.not_read_of_stored_date_unknownZone`: a stored date that cannot be read.
-/

namespace ContentLine.DateProperty

variable {property : DateProperty} {date : Date}

/-- A stored date reads as itself, after the registry is asked for the zone of the first TZID
parameter, if there is one; the zone it finds is of no account. -/
theorem result_read_of_date (hstored : property.stored = some (.date date)) (leniency : Leniency) :
    (property.read leniency).result =
      match property.tzid with
      | none => .ok (some (.date date))
      | some tzid =>
        (property.registry.resolve leniency tzid).result.map fun _ => some (.date date) := by
  rw [result_read, hstored]
  cases property.tzid with
  | none => rfl
  | some tzid =>
    dsimp only
    cases (property.registry.resolve leniency tzid).result <;> rfl

/-- A property that stores a date reads as that date, whatever its parameters and its registry are,
exactly if it has no TZID parameter or the registry finds some zone for the first one. It never
reads as anything else, and it fails to be read only as the registry fails to find that zone. -/
theorem read_of_stored_date (hstored : property.stored = some (.date date))
    (leniency : Leniency) :
    ((property.read leniency).result = .ok (some (.date date)) ↔
        ∀ tzid, property.tzid = some tzid →
          ∃ zone, (property.registry.resolve leniency tzid).result = .ok zone) ∧
      (∀ reading, (property.read leniency).result = .ok reading →
        reading = some (.date date)) ∧
      ∀ fault, (property.read leniency).result = .error fault ↔
        ∃ tzid, property.tzid = some tzid ∧
          (property.registry.resolve leniency tzid).result = .error fault := by
  rw [result_read_of_date hstored]
  cases property.tzid with
  | none => simp
  | some tzid =>
    -- The answer of the registry decides whether there is a result, but not which one.
    cases hzone : (property.registry.resolve leniency tzid).result with
    | ok zone => simp [hzone, Except.map]
    | error fault => simp [hzone, Except.map]

/-- A day that is declared as a date and then given two zones, of which no one knows the second. -/
def dayWithTwoZones : DateProperty where
  kind := .any
  name := "DTSTART"
  parameters := [Parameter.of "VALUE" "DATE", Parameter.of "tzid" "Pacific/Apia",
    Parameter.of "TZID" "Nowhere/Zone"]
  stored := some (.date ⟨2011, 12, 30, by decide, by decide, by decide⟩)
  registry := .standard

/-- The day reads as itself, since the first of its zones is known, though no clock of that zone
ever showed it. -/
theorem read_of_stored_date_twoZones :
    dayWithTwoZones.tzid = some "Pacific/Apia" ∧
      (dayWithTwoZones.read .strict).result =
        .ok (some (.date ⟨2011, 12, 30, by decide, by decide, by decide⟩)) := by
  have htzid : dayWithTwoZones.tzid = some "Pacific/Apia" := by decide +kernel
  refine ⟨htzid, (read_of_stored_date rfl .strict).1.mpr fun tzid hsome => ?_⟩
  obtain rfl : "Pacific/Apia" = tzid := Option.some.inj (htzid.symm.trans hsome)
  exact ⟨_, ZoneRegistry.resolveInDatabase_of_isName rfl (by decide +kernel)⟩

/-- A start on a day is given a zone that is not known after it is set; the operations are listed
the latest first. -/
def dayInUnknownZone : List (Leniency × Property.Operation) :=
  [(.strict, .change 0 (.addParameter (Parameter.of "TZID" "Nowhere/Zone"))),
    (.strict, .create (.date .any) "DTSTART" [Parameter.of "VALUE" "DATE"] "20230615" .standard)]

/-- The day is stored, but it cannot be read. -/
theorem not_read_of_stored_date_unknownZone :
    ∃ property, (Property.after dayInUnknownZone)[0]? = some (.dated property) ∧
      property.stored = some (.date ⟨2023, 6, 15, by decide, by decide, by decide⟩) ∧
      (property.read .strict).result = .error (.zone (.notInDatabase "Nowhere/Zone")) := by
  have hstate : (Property.datedAt? (Property.after dayInUnknownZone) 0).map (fun property =>
      (property.stored, property.tzid)) =
      some (some (.date ⟨2023, 6, 15, by decide, by decide, by decide⟩),
        some "Nowhere/Zone") := by decide +kernel
  obtain ⟨property, hdated, hfields⟩ := Option.map_eq_some_iff.mp hstate
  obtain ⟨hstored, htzid⟩ := Prod.mk.inj hfields
  have hproperty := Property.datedAt?_eq_some_iff.mp hdated
  have hinForce : Property.inForce? dayInUnknownZone 0 = some property.registry :=
    Property.latest?_eq_of_step DateProperty.registry
      (fun _ _ _ _ _ => Property.installs?_or_kept) hproperty
  have hregistry : property.registry.IsDatabase :=
    Option.some.inj hinForce ▸ ZoneRegistry.isDatabase_database "UTC"
  have hzone : (property.registry.resolve .strict "Nowhere/Zone").result =
      .error (.zone (.notInDatabase "Nowhere/Zone")) :=
    ZoneRegistry.resolve_of_not_isName hregistry rfl (by decide +kernel)
  refine ⟨property, hproperty, hstored, ?_⟩
  rw [result_read_of_date hstored, htzid]
  dsimp only
  rw [hzone]
  rfl

end ContentLine.DateProperty
