import ContentLine.Proofs.Property.Equality
import ContentLine.Proofs.Property.Soundness
import ContentLine.Proofs.Zone.Interchange

/-!
# Properties under other switches

What becomes of a text that is set, and of a property that is read, where the switches have other
positions. A date and a time in UTC are not affected. A local time that is bound where Windows names
are not resolved is bound everywhere, to its zone or to one that stands for it. As long as nothing
changes after the text was set, the property reads as the value that is stored, since a TZID
parameter is then the identifier that the value is bound to.

## Main definitions

* `Temporal.Alike`: values that differ at most by zones that stand for each other.
* `Reading.SameMoment`: readings of one date, or of one moment.

## Main results

* `Property.Setting.outcome_alike`: a text that is accepted with all switches off is accepted under
  every setting of them, as a value that is alike.
* `DateProperty.SetTo.read`: what a property reads as right after its text is set.
* `DateProperty.SetTo.read_later`, `DateProperty.read_later_of_not_isName`: what it reads as under
  other switches.
-/

namespace ContentLine

/-! ## Values -/

/-- The same value, or local times in zones that stand for each other, bound by one identifier. -/
inductive Temporal.Alike : Temporal → Temporal → Prop
  | date (date : Date) : Alike (.date date) (.date date)
  | utc (wall : LocalTime) (fold : Bool) : Alike (.utc wall fold) (.utc wall fold)
  | zoned (wall : LocalTime) (fold : Bool) (tzid : String) {a b : Zone}
      (hzones : a.Interchangeable b) :
      Alike (.zoned ⟨wall, fold, a⟩ tzid) (.zoned ⟨wall, fold, b⟩ tzid)

/-- Two readings are of one date, or of one moment of UTC. -/
def Reading.SameMoment : Reading → Reading → Prop
  | .date a, .date b => a = b
  | .time a, .time b => a.SameMoment b
  | _, _ => False

protected theorem Reading.SameMoment.refl (reading : Reading) : reading.SameMoment reading := by
  cases reading with
  | date d => exact Eq.refl d
  | time t => exact ⟨Eq.refl t.utcSeconds, Eq.refl t.wall.time.microsecond⟩

namespace Temporal.Alike

variable {a b : Temporal}

theorem ics_eq (h : a.Alike b) : a.ics = b.ics := by
  cases h <;> rfl

theorem reading_agrees (h : a.Alike b) : a.reading.agrees b.reading = true := by
  cases h with
  | date date => simp [reading, Reading.agrees]
  | utc wall fold => exact ZonedTime.agrees_self _
  | zoned wall fold tzid hzones => exact ZonedTime.agrees_of_interchangeable hzones fold

end Temporal.Alike

/-- What is read of values that are alike, or of none, agrees. -/
theorem Reading.bothAgree_of_alike {a b : Option Temporal} (h : Option.Rel Temporal.Alike a b) :
    bothAgree (a.map Temporal.reading) (b.map Temporal.reading) = true := by
  cases h with
  | none => rfl
  | some halike => exact halike.reading_agrees

section Database

variable [ZoneDatabase]

/-- A text that is accepted where Windows names are not resolved is accepted under every setting of
the switches. -/
theorem Temporal.parse_alike (hutc : ZoneDatabase.KnowsUtc) {registry : ZoneRegistry}
    (hregistry : registry.IsDatabase) {strict : Leniency} (hstrict : strict.windowsZones = false)
    {tzid : Option String} {text : String} {value : Temporal}
    (h : (parse registry strict tzid text).result = .ok value) (leniency : Leniency) :
    ∃ other, (parse registry leniency tzid text).result = .ok other ∧ value.Alike other := by
  simp only [parse_eq_ok_iff] at h ⊢
  generalize text.toList = chars at h ⊢
  cases h with
  | date date => exact ⟨_, .date date, .date date⟩
  | utc wall hwhole => exact ⟨_, .utc wall hwhole, .utc wall false⟩
  | zoned _ wall hwhole zone hzone =>
    obtain ⟨other, hother, hzones⟩ := ZoneRegistry.resolve_interchangeable hutc hregistry
      (ZoneRegistry.isName_of_resolve hregistry hstrict hzone) hzone leniency
    exact ⟨_, .zoned _ wall hwhole other hother, .zoned wall false _ hzones⟩

/-- The same of what a setting fixes. -/
theorem Property.Setting.outcome_alike (hutc : ZoneDatabase.KnowsUtc) {registry : ZoneRegistry}
    (hregistry : registry.IsDatabase) {strict : Leniency} (hstrict : strict.windowsZones = false)
    {tzid : Option String} {given : String} {stored : Option Temporal}
    (h : (text registry strict tzid given).outcome = .ok stored) (leniency : Leniency) :
    ∃ other, (text registry leniency tzid given).outcome = .ok other ∧
      Option.Rel Temporal.Alike stored other := by
  rw [outcome] at h ⊢
  by_cases hempty : given = ""
  · rw [if_pos hempty] at h ⊢
    cases h
    exact ⟨none, rfl, .none⟩
  · rw [if_neg hempty] at h ⊢
    cases hparse : (Temporal.parse registry strict tzid given).result with
    | error fault =>
      rw [hparse] at h
      cases h
    | ok value =>
      rw [hparse] at h
      cases h
      obtain ⟨other, hother, halike⟩ := Temporal.parse_alike hutc hregistry hstrict hparse
        leniency
      exact ⟨some other, by rw [hother]; rfl, .some halike⟩

end Database

/-! ## Properties -/

namespace DateProperty

/-- Whether a property is valid does not depend on the zone of a local time, as long as the
identifier is the same. -/
theorem validate_alike {a b : Option Temporal} (h : Option.Rel Temporal.Alike a b)
    (property : DateProperty) :
    { property with stored := a }.validate = { property with stored := b }.validate := by
  cases h with
  | none => rfl
  | some halike => cases halike <;> rfl

theorem value_alike {a b : Option Temporal} (h : Option.Rel Temporal.Alike a b)
    (property : DateProperty) :
    { property with stored := a }.value = { property with stored := b }.value := by
  cases h with
  | none => rfl
  | some halike => exact halike.ics_eq

variable {property : DateProperty} {leniency : Leniency} {text : String} {value : Temporal}

/-- The stored value is what the text fixes under the TZID parameter and the registry that the
property has. So it is right after the text is set. -/
def SetTo (leniency : Leniency) (text : String) (property : DateProperty) : Prop :=
  (Property.Setting.text property.registry leniency property.tzid text).outcome =
    .ok property.stored

theorem SetTo.denotes (h : property.SetTo leniency text) (hstored : property.stored = some value) :
    Temporal.Denotes property.registry leniency property.tzid text.toList value := by
  rw [SetTo, Property.Setting.outcome, hstored] at h
  split at h
  next => cases h
  next =>
    rw [← Temporal.parse_eq_ok_iff]
    cases hparse : (Temporal.parse property.registry leniency property.tzid text).result with
    | error fault =>
      rw [hparse] at h
      cases h
    | ok parsed =>
      rw [hparse] at h
      exact congrArg Except.ok (Option.some.inj (Except.ok.inj h))

/-- Without a TZID parameter a property reads as the value that is stored, under every setting of
the switches. -/
theorem read_of_tzid_none (hstored : property.stored = some value) (htzid : property.tzid = none) :
    (property.read leniency).result = .ok (some value.reading) := by
  rw [result_read, hstored, htzid]

/-- With a TZID parameter, what is set is the first occurrence of a local time, in the zone that was
found for the parameter. -/
theorem SetTo.zoned_of_tzid {tzid : String} (h : property.SetTo leniency text)
    (hstored : property.stored = some value) (htzid : property.tzid = some tzid) :
    ∃ wall zone, value = .zoned ⟨wall, false, zone⟩ tzid ∧
      (property.registry.resolve leniency tzid).result = .ok zone := by
  have hdenotes := h.denotes hstored
  rw [htzid] at hdenotes
  generalize text.toList = chars at hdenotes
  cases hdenotes with
  | zoned _ wall hwhole zone hzone => exact ⟨wall, zone, rfl, hzone⟩

/-- A local time is read as the first occurrence in a zone that stands for its own, if that is the
zone found for the TZID parameter. -/
theorem read_of_interchangeable {tzid : String} {wall : LocalTime} {zone other : Zone}
    (hstored : property.stored = some (.zoned ⟨wall, false, zone⟩ tzid))
    (htzid : property.tzid = some tzid)
    (hother : (property.registry.resolve leniency tzid).result = .ok other)
    (hzones : zone.Interchangeable other) :
    (property.read leniency).result = .ok (some (.time ⟨wall, false, other⟩)) :=
  read_of_shown hstored rfl htzid hother (ZonedTime.inZone?_of_interchangeable hzones)

/-- Right after its text is set a property reads as the value that is stored. -/
theorem SetTo.read (h : property.SetTo leniency text) :
    (property.read leniency).result = .ok (property.stored.map Temporal.reading) := by
  cases hstored : property.stored with
  | none => rw [result_read, hstored]; rfl
  | some value =>
    cases htzid : property.tzid with
    | none => exact read_of_tzid_none hstored htzid
    | some tzid =>
      obtain ⟨wall, zone, rfl, hzone⟩ := h.zoned_of_tzid hstored htzid
      exact read_of_interchangeable hstored htzid hzone (.refl zone)

/-- Under other switches a property reads as the same date or moment, if Windows names are still
resolved or its TZID parameter is a name of the database. -/
theorem SetTo.read_later [ZoneDatabase] (hutc : ZoneDatabase.KnowsUtc)
    (h : property.SetTo leniency text) (hregistry : property.registry.IsDatabase)
    (hstored : property.stored = some value) {later : Leniency}
    (htzid : ∀ tzid ∈ property.tzid,
      later.windowsZones = leniency.windowsZones ∨ ZoneDatabase.isName tzid = true) :
    ∃ reading, (property.read later).result = .ok (some reading) ∧
      value.reading.SameMoment reading := by
  cases hgiven : property.tzid with
  | none => exact ⟨_, read_of_tzid_none hstored hgiven, .refl _⟩
  | some tzid =>
    obtain ⟨wall, zone, rfl, hzone⟩ := h.zoned_of_tzid hstored hgiven
    obtain ⟨other, hother, hzones⟩ :
        ∃ other, (property.registry.resolve later tzid).result = .ok other ∧
          zone.Interchangeable other := by
      rcases htzid tzid hgiven with hsame | hname
      · refine ⟨zone, ?_, .refl zone⟩
        rw [hregistry, ZoneRegistry.result_resolveInDatabase] at hzone ⊢
        rwa [ZoneRegistry.keyOf, hsame]
      · exact ZoneRegistry.resolve_interchangeable hutc hregistry hname hzone later
    exact ⟨_, read_of_interchangeable hstored hgiven hother hzones,
      ZonedTime.sameMoment_of_interchangeable hzones false⟩

/-- Where Windows names are not resolved any more, a property that is bound by one cannot be
read. -/
theorem read_later_of_not_isName [ZoneDatabase] (hregistry : property.registry.IsDatabase)
    (hstored : property.stored = some value) {tzid : String} (htzid : property.tzid = some tzid)
    (hname : ZoneDatabase.isName tzid = false) {later : Leniency}
    (hlater : later.windowsZones = false) :
    (property.read later).result = .error (.zone (.notInDatabase tzid)) := by
  rw [result_read, hstored, htzid]
  simp only [ZoneRegistry.resolve_of_not_isName hregistry hlater hname]

end DateProperty

end ContentLine
