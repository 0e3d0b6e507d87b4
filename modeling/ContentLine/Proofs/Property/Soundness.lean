import ContentLine.Proofs.Property.Binding
import ContentLine.Proofs.Property.Consistency
import ContentLine.Proofs.Temporal.Grammar
import ContentLine.Zone.Excerpt

/-!
# What validity guarantees

A valid property reads as it is written. The parameters of a property change freely after its value
is bound to a zone, so reading may view the value at another zone, and the literal is then not the
local time that is read, or fail. Under one registry and one setting of the switches a valid
property is past that: its one TZID parameter is the identifier that its value is bound to, the
registry still finds the zone of the value for it, and a time viewed at its own zone stays as it is.

## Main definitions

* `Temporal.BoundBy`: a local time is in the zone that a registry finds for its identifier.
* `DateProperty.Bound`: a property has the registry that its value is bound by.
* `Property.Operation.Keeps`: an operation brings in no other registry and no value bound otherwise.

## Main results

* `Property.bound_of_provenance`, `Property.bound_after`: such an operation, and a history of such
  operations, keeps properties bound.
* `DateProperty.read_of_bound`: a bound and valid property reads as the time that is stored.
* `Property.read_of_valid_after`: so does a valid property after such a history.
-/

namespace ContentLine

/-! ## Bound values -/

/-- A local time is in the zone that the registry finds for the identifier it is bound to. -/
def Temporal.BoundBy (registry : ZoneRegistry) (leniency : Leniency) : Temporal → Prop
  | .zoned time tzid => (registry.resolve leniency tzid).result = .ok time.zone
  | .date _ | .utc .. => True

/-- What a text denotes is bound by the registry that it is read under. -/
theorem Temporal.Denotes.boundBy {registry : ZoneRegistry} {leniency : Leniency}
    {tzid : Option String} {text : List Char} {value : Temporal}
    (h : Denotes registry leniency tzid text value) : value.BoundBy registry leniency := by
  cases h with
  | date => trivial
  | utc => trivial
  | zoned tzid wall hwhole zone hzone => exact hzone

/-- A property has a given registry, and the stored value is bound by it. -/
structure DateProperty.Bound (registry : ZoneRegistry) (leniency : Leniency)
    (property : DateProperty) : Prop where
  /-- The registry is the given one. -/
  registry_eq : property.registry = registry
  /-- The stored value is bound by it. -/
  stored_bound : ∀ value ∈ property.stored, value.BoundBy registry leniency

namespace Property

variable {registry : ZoneRegistry} {leniency : Leniency}

/-- What the text of a setting fixes is bound by the registry of the setting. -/
theorem Setting.boundBy_of_outcome {tzid : Option String} {given : String}
    {stored : Option Temporal} (h : (text registry leniency tzid given).outcome = .ok stored) :
    ∀ value ∈ stored, value.BoundBy registry leniency := by
  rw [outcome] at h
  by_cases hempty : given = ""
  · rw [if_pos hempty] at h
    cases h
    simp
  · rw [if_neg hempty] at h
    cases hparse : (Temporal.parse registry leniency tzid given).result with
    | error fault => simp [hparse, Except.map] at h
    | ok value =>
      obtain rfl : some value = stored := by simpa [hparse, Except.map] using h
      simpa using (Temporal.denotes_of_parse hparse).boundBy

/-- Setting the value of a text keeps a property bound to its registry. -/
theorem bound_setValue {text : String} {old property : DateProperty}
    (hregistry : old.registry = registry)
    (h : (old.setValue leniency text).result = .ok property) :
    property.Bound registry leniency := by
  subst hregistry
  obtain ⟨stored, houtcome, rfl⟩ := setValue_eq_ok_iff.mp h
  exact ⟨rfl, Setting.boundBy_of_outcome houtcome⟩

/-- An operation gives a property no registry but the given one, and no value bound by another. -/
def Operation.Keeps (registry : ZoneRegistry) (leniency : Leniency) : Operation → Prop
  | .create _ _ _ _ given => given = registry
  | .change _ (.setRegistry given) => given = registry
  | .change _ (.store (some value)) => value.BoundBy registry leniency
  | .change .. | .copy _ | .ask _ => True

/-- A change that keeps to the registry keeps a property bound. -/
theorem bound_of_change {position : Nat} {edit : Change} {old property : DateProperty}
    (hold : old.Bound registry leniency)
    (hkeeps : (Operation.change position edit).Keeps registry leniency)
    (h : ((Property.dated old).change leniency edit).result = .ok (.dated property)) :
    property.Bound registry leniency := by
  cases edit with
  | setValue text => exact bound_setValue hold.registry_eq (change_setValue_eq_ok_iff.mp h)
  | store value =>
    cases h
    cases value with
    | none => exact ⟨hold.registry_eq, by simp⟩
    | some given =>
      have hgiven : given.BoundBy registry leniency := hkeeps
      exact ⟨hold.registry_eq, by simpa using hgiven⟩
  | setRegistry given =>
    cases h
    exact ⟨hkeeps, hold.stored_bound⟩
  | addParameter | replaceParameter | removeParameters =>
    cases h
    exact ⟨hold.registry_eq, hold.stored_bound⟩

/-- An operation that keeps to the registry leaves every date property bound, if each was before. -/
theorem bound_of_provenance {before : List Property} {position : Nat} {operation : Operation}
    {property : DateProperty}
    (hbefore : ∀ (position : Nat) (old : DateProperty),
      before[position]? = some (.dated old) → old.Bound registry leniency)
    (hkeeps : operation.Keeps registry leniency)
    (h : Provenance leniency before position property operation) :
    property.Bound registry leniency := by
  cases h with
  | created kind name parameters text given hposition hcreate =>
    have hregistry : (DateProperty.empty kind name parameters given).registry = registry := hkeeps
    exact bound_setValue hregistry hcreate
  | copied source hposition hsource => exact hbefore source property hsource
  | changed edit old hold hedit => exact bound_of_change (hbefore position old hold) hkeeps hedit
  | kept operation hproperty hfailed => exact hbefore position property hproperty

/-- Every date property is bound after a history that keeps to one registry and one setting of the
switches. -/
theorem bound_after {history : List (Leniency × Operation)}
    (hhistory : ∀ step ∈ history, step.1 = leniency ∧ step.2.Keeps registry leniency)
    {position : Nat} {property : DateProperty}
    (hproperty : (after history)[position]? = some (.dated property)) :
    property.Bound registry leniency := by
  refine forall_after (fun step hmem before position property hbefore hprovenance => ?_) hproperty
  obtain ⟨rfl, hkeeps⟩ := hhistory step hmem
  exact bound_of_provenance hbefore hkeeps hprovenance

end Property

/-! ## Reading what is valid -/

/-- A property that is bound and valid reads as its stored value, if that is not a date. -/
theorem DateProperty.read_of_bound {registry : ZoneRegistry} {leniency : Leniency}
    {property : DateProperty} {value : Temporal} (hbound : property.Bound registry leniency)
    (hvalid : property.validate = .ok ()) (hstored : property.stored = some value)
    (hnotDate : ∀ date, value ≠ .date date) :
    (property.read leniency).result = .ok (some value.reading) := by
  -- Validity leaves one case for each variant, with the TZID parameters that it allows.
  have hconsistent := validate_eq_ok_iff.mp hvalid
  have hvalue : value.BoundBy registry leniency := hbound.stored_bound value hstored
  rw [result_read, hstored, tzid_eq_head?, hbound.registry_eq]
  rw [hstored] at hconsistent
  generalize property.types = types, property.tzids = tzids, property.kind = kind at hconsistent ⊢
  cases hconsistent with
  | date date => exact absurd rfl (hnotDate date)
  | utc _ wall fold _ htzids =>
    rw [htzids]
    rfl
  | zoned time tzid _ htzids =>
    -- The identifier that is looked up is the one that the time is bound to.
    have hzone : (registry.resolve leniency tzid).result = .ok time.zone := hvalue
    rw [htzids, List.head?_singleton]
    simp only [hzone, Temporal.viewedAt, Temporal.reading, ZonedTime.inZone?_self]
    rfl

namespace Property

/-- After a history that keeps to one registry and one setting of the switches, a valid property
with a stored date-time reads as just that time, and its literal is the local time that is read,
with a `Z` if it is in UTC. -/
theorem read_of_valid_after {registry : ZoneRegistry} {leniency : Leniency}
    {history : List (Leniency × Operation)}
    (hhistory : ∀ step ∈ history, step.1 = leniency ∧ step.2.Keeps registry leniency)
    {position : Nat} {property : DateProperty}
    (hproperty : (after history)[position]? = some (.dated property))
    (hvalid : property.validate = .ok ()) {value : Temporal}
    (hstored : property.stored = some value) (hnotDate : ∀ date, value ≠ .date date) :
    ∃ time, value.reading = .time time ∧
      (property.read leniency).result = .ok (some (.time time)) ∧
      property.value =
        String.ofList (time.wall.basic ++ if property.isUtc then ['Z'] else []) := by
  have hread := DateProperty.read_of_bound (bound_after hhistory hproperty) hvalid hstored hnotDate
  rw [hread, DateProperty.value, DateProperty.isUtc, hstored]
  cases value with
  | date date => exact absurd rfl (hnotDate date)
  | utc wall fold => exact ⟨⟨wall, fold, .utc⟩, rfl, rfl, rfl⟩
  | zoned time tzid =>
    refine ⟨time, rfl, rfl, ?_⟩
    exact congrArg String.ofList (List.append_nil time.wall.basic).symm

/-- A start set in Berlin is given half past two on the tenth of March 2024 in New York, which no
clock there shows, and then the zone of New York; the operations are listed the latest first. -/
def movedIntoGap : List (Leniency × Operation) :=
  [(.strict, .change 0 (.replaceParameter (Parameter.of "tzid" "America/New_York"))),
    (.strict, .change 0 (.store (Temporal.parse .standard .strict (some "America/New_York")
      "20240310T023000").result.toOption)),
    (.strict, .create (.date .any) "dtstart" [Parameter.of "tzid" "Europe/Berlin"]
      "20240701T120000" .standard)]

/-- What is parsed can be stored. -/
theorem Operation.keeps_store_parse {registry : ZoneRegistry} {leniency : Leniency}
    {tzid : Option String} {text : String} (position : Nat) :
    (change position (.store
      (Temporal.parse registry leniency tzid text).result.toOption)).Keeps registry leniency := by
  cases hparse : (Temporal.parse registry leniency tzid text).result with
  | error fault => trivial
  | ok value => exact (Temporal.denotes_of_parse hparse).boundBy

/-- The skipped time is read as it is written. -/
theorem read_of_valid_after_movedIntoGap :
    ∃ property time, (after movedIntoGap)[0]? = some (.dated property) ∧
      property.validate = .ok () ∧
      (property.read .strict).result = .ok (some (.time time)) ∧
      String.ofList time.wall.basic = "20240310T023000" := by
  have hstate : (datedAt? (after movedIntoGap) 0).map (fun property =>
      (property.types, property.tzids, property.kind)) =
      some ([], ["America/New_York"], .any) := by decide +kernel
  have hgap : ((datedAt? (after movedIntoGap) 0).bind DateProperty.stored).map (fun value =>
      (value.tzid?, value.ics)) = some (some "America/New_York", "20240310T023000") := by
    decide +kernel
  have hhistory : ∀ step ∈ movedIntoGap,
      step.1 = .strict ∧ step.2.Keeps ZoneRegistry.standard .strict := by
    intro step hstep
    simp only [movedIntoGap, List.mem_cons, List.not_mem_nil, or_false] at hstep
    rcases hstep with rfl | rfl | rfl
    · exact ⟨rfl, trivial⟩
    · exact ⟨rfl, Operation.keeps_store_parse 0⟩
    · exact ⟨rfl, rfl⟩
  obtain ⟨property, hdated, hfields⟩ := Option.map_eq_some_iff.mp hstate
  have hproperty := datedAt?_eq_some_iff.mp hdated
  rw [hdated, Option.bind_some] at hgap
  simp only [Prod.mk.injEq, Option.map_eq_some_iff] at hfields hgap
  obtain ⟨htypes, htzids, hkind⟩ := hfields
  obtain ⟨value, hstored, htzid, htext⟩ := hgap
  cases value with
  | date | utc => cases htzid
  | zoned time tzid =>
    obtain rfl : tzid = "America/New_York" := Option.some.inj htzid
    have hvalid : property.validate = .ok () := by
      rw [DateProperty.validate_eq_ok_iff, htypes, htzids, hkind, hstored]
      exact .zoned time "America/New_York" (Or.inl rfl) rfl
    obtain ⟨found, hfound, hread, -⟩ :=
      read_of_valid_after hhistory hproperty hvalid hstored (by simp)
    obtain rfl : time = found := by simpa [Temporal.reading] using hfound
    exact ⟨property, time, hproperty, hvalid, hread, htext⟩

end Property

end ContentLine
