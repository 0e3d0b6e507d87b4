import ContentLine.Proofs.Property.History
import ContentLine.Zone.Excerpt

/-!
# Binding and reading

A zone identifier and a registry are consulted at two moments. When a text is set, they decide which
value is stored; when the property is read, they decide at which zone the stored value is viewed.
Over a whole history the stored value is the one that was set last, whatever became of the
parameters and the registry since, and whatever failed; a reading depends on the stored value and on
the parameters and the registry of its own moment.

## Main definitions

* `Property.Setting`: what a date property is set to, with all that decides its value.
* `Property.latest?`: what was decided last about a property.
* `Property.fixed?`, `Property.inForce?`: the value and the registry that a history leaves.

## Main results

* `Property.latest?_eq_of_step`: what each operation decides or keeps, a history leaves as decided
  last.
* `Property.bound_and_read_after`: the value, and what the property reads as, after any history.
-/

namespace ContentLine

namespace Property

/-! ## Settings -/

/-- What a date property is set to. -/
inductive Setting where
  /-- A value, or none. -/
  | value (value : Option Temporal)
  /-- The value of a text under the first TZID parameter, if there is one, and a registry. -/
  | text (registry : ZoneRegistry) (leniency : Leniency) (tzid : Option String) (text : String)

/-- The value that a setting fixes: none for the empty text, and what any other text is read as. -/
def Setting.outcome : Setting → Except Fault (Option Temporal)
  | .value given => .ok given
  | .text registry leniency tzid given =>
    if given = "" then .ok none
    else (Temporal.parse registry leniency tzid given).result.map some

/-- Setting the value of a text changes nothing but the stored value, which becomes the one that the
text fixes under the TZID parameter and the registry of this moment. -/
theorem result_setValue (leniency : Leniency) (text : String) (property : DateProperty) :
    (property.setValue leniency text).result =
      (Setting.text property.registry leniency property.tzid text).outcome.map
        fun stored => { property with stored } := by
  rw [DateProperty.setValue, Setting.outcome]
  by_cases htext : text = ""
  · rw [if_pos htext, if_pos htext]
    rfl
  · rw [if_neg htext, if_neg htext, Action.result_bind]
    cases (Temporal.parse property.registry leniency property.tzid text).result <;> rfl

/-- The value is set exactly if the setting fixes one, and nothing else changes. -/
theorem setValue_eq_ok_iff {leniency : Leniency} {text : String} {old property : DateProperty} :
    (old.setValue leniency text).result = .ok property ↔
      ∃ stored, (Setting.text old.registry leniency old.tzid text).outcome = .ok stored ∧
        { old with stored } = property := by
  rw [result_setValue]
  cases (Setting.text old.registry leniency old.tzid text).outcome <;> simp [Except.map]

/-- Setting the value fails exactly if the setting fixes none, and with the same fault. -/
theorem setValue_eq_error_iff {leniency : Leniency} {text : String} {old : DateProperty}
    {fault : Fault} :
    (old.setValue leniency text).result = .error fault ↔
      (Setting.text old.registry leniency old.tzid text).outcome = .error fault := by
  rw [result_setValue]
  cases (Setting.text old.registry leniency old.tzid text).outcome <;> simp [Except.map]

/-- What a change attempts to set a date property to, if it does. -/
def Change.setting? (leniency : Leniency) (property : DateProperty) : Change → Option Setting
  | .setValue text => some (.text property.registry leniency property.tzid text)
  | .store value => some (.value value)
  | .setRegistry _ | .addParameter _ | .replaceParameter _ | .removeParameters _ => none

/-- A change stores the value that it attempts to set the property to, and keeps the stored value if
it attempts none. -/
theorem stored_of_change {leniency : Leniency} {old property : DateProperty} {edit : Change}
    (h : ((Property.dated old).change leniency edit).result = .ok (.dated property)) :
    (∃ setting, edit.setting? leniency old = some setting ∧
        setting.outcome = .ok property.stored) ∨
      edit.setting? leniency old = none ∧ old.stored = property.stored := by
  cases edit with
  | setValue text =>
    left
    obtain ⟨stored, houtcome, rfl⟩ := setValue_eq_ok_iff.mp (change_setValue_eq_ok_iff.mp h)
    exact ⟨_, rfl, houtcome⟩
  | store value =>
    left
    cases h
    exact ⟨_, rfl, rfl⟩
  | setRegistry | addParameter | replaceParameter | removeParameters =>
    right
    cases h
    exact ⟨rfl, rfl⟩

/-- A change of a date property that fails attempts to set its value, and fails for that. -/
theorem setting_of_change_error {leniency : Leniency} {property : DateProperty} {edit : Change}
    {fault : Fault} (h : ((Property.dated property).change leniency edit).result = .error fault) :
    ∃ setting, edit.setting? leniency property = some setting ∧
      setting.outcome = .error fault := by
  cases edit with
  | setValue text =>
    exact ⟨_, rfl, setValue_eq_error_iff.mp (change_setValue_eq_error_iff.mp h)⟩
  | store | setRegistry | addParameter | replaceParameter | removeParameters => cases h

namespace Operation

/-- What an operation attempts to set the date property at a position to, if it does. -/
def setting? (leniency : Leniency) (before : List Property) (position : Nat) :
    Operation → Option Setting
  | .create _ _ parameters text registry =>
    if position = before.length then
      some (.text registry leniency
        ((Parameter.first? Parameter.tzidName parameters).map (·.value)) text)
    else none
  | .change target edit =>
    if target = position then
      (datedAt? before position).bind fun property => edit.setting? leniency property
    else none
  | .copy _ | .ask _ => none

/-- The value that an operation fixes for the date property at a position, if it does. -/
def fixes? (leniency : Leniency) (before : List Property) (position : Nat)
    (operation : Operation) : Option (Option Temporal) :=
  (operation.setting? leniency before position).bind fun setting => setting.outcome.toOption

/-- The registry that an operation gives to the property at a position, if it does. -/
def installs? (_ : Leniency) (before : List Property) (position : Nat) :
    Operation → Option ZoneRegistry
  | .create _ _ _ _ registry => if position = before.length then some registry else none
  | .change target (.setRegistry registry) => if target = position then some registry else none
  | .change .. | .copy _ | .ask _ => none

/-- The position before an operation of what is at a position after it. -/
def origin (before : List Property) (position : Nat) : Operation → Nat
  | .copy source => if position = before.length then source else position
  | .create .. | .change .. | .ask _ => position

theorem origin_of_lt {before : List Property} {position : Nat} {operation : Operation}
    (hposition : position < before.length) : operation.origin before position = position := by
  cases operation with
  | copy source => exact if_neg (by omega)
  | create | change | ask => rfl

end Operation

/-! ## What was decided last -/

/-- What the latest operation that decides something about the property at a position has decided.
A copy has what was decided about its source. -/
def latest? {α : Type}
    (decides? : Leniency → List Property → Nat → Operation → Option α) :
    List (Leniency × Operation) → Nat → Option α
  | [], _ => none
  | (leniency, operation) :: earlier, position =>
    match decides? leniency (after earlier) position operation with
    | some decision => some decision
    | none => latest? decides? earlier (operation.origin (after earlier) position)

/-- The value that the latest setting that succeeded fixed. -/
def fixed? : List (Leniency × Operation) → Nat → Option (Option Temporal) :=
  latest? Operation.fixes?

/-- The registry given last. -/
def inForce? : List (Leniency × Operation) → Nat → Option ZoneRegistry :=
  latest? Operation.installs?

/-- An operation fixes the stored value or keeps it. -/
theorem fixes?_or_kept {leniency : Leniency} {before : List Property} {position : Nat}
    {operation : Operation} {property : DateProperty}
    (h : Provenance leniency before position property operation) :
    operation.fixes? leniency before position = some property.stored ∨
      operation.fixes? leniency before position = none ∧
        ∃ old, before[operation.origin before position]? = some (.dated old) ∧
          old.stored = property.stored := by
  cases h with
  | created kind name parameters text registry hposition hcreate =>
    left
    obtain ⟨stored, houtcome, rfl⟩ := setValue_eq_ok_iff.mp hcreate
    rw [Operation.fixes?, Operation.setting?, if_pos hposition]
    exact congrArg Except.toOption houtcome
  | copied source hposition hsource =>
    right
    rw [Operation.origin, if_pos hposition]
    exact ⟨rfl, property, hsource, rfl⟩
  | changed edit old hold hedit =>
    rw [Operation.fixes?, Operation.setting?, if_pos rfl, datedAt?_eq_some_iff.mpr hold,
      Option.bind_some]
    rcases stored_of_change hedit with ⟨setting, hsetting, houtcome⟩ | ⟨hsetting, hstored⟩
    · left
      rw [hsetting]
      exact congrArg Except.toOption houtcome
    · right
      rw [hsetting]
      exact ⟨rfl, old, hold, hstored⟩
  | kept operation hbefore hfailed =>
    right
    obtain ⟨hposition, -⟩ := List.getElem?_eq_some_iff.mp hbefore
    rw [Operation.origin_of_lt hposition]
    refine ⟨?_, property, hbefore, rfl⟩
    -- It remains that a change which failed fixes nothing; all other operations are elsewhere.
    rw [Operation.fixes?]
    cases operation with
    | create => rw [Operation.setting?, if_neg (by omega)]; rfl
    | copy | ask => rfl
    | change target edit =>
      by_cases htarget : target = position
      · subst htarget
        obtain ⟨fault, hfault⟩ := hfailed edit rfl
        obtain ⟨setting, hsetting, houtcome⟩ := setting_of_change_error hfault
        rw [Operation.setting?, if_pos rfl, datedAt?_eq_some_iff.mpr hbefore, Option.bind_some,
          hsetting]
        exact congrArg Except.toOption houtcome
      · rw [Operation.setting?, if_neg htarget]
        rfl

/-- An operation gives a date property its registry or keeps it. -/
theorem installs?_or_kept {leniency : Leniency} {before : List Property} {position : Nat}
    {operation : Operation} {property : DateProperty}
    (h : Provenance leniency before position property operation) :
    operation.installs? leniency before position = some property.registry ∨
      operation.installs? leniency before position = none ∧
        ∃ old, before[operation.origin before position]? = some (.dated old) ∧
          old.registry = property.registry := by
  cases h with
  | created kind name parameters text registry hposition hcreate =>
    left
    obtain ⟨stored, -, rfl⟩ := setValue_eq_ok_iff.mp hcreate
    exact if_pos hposition
  | copied source hposition hsource =>
    right
    rw [Operation.origin, if_pos hposition]
    exact ⟨rfl, property, hsource, rfl⟩
  | changed edit old hold hedit =>
    cases edit with
    | setRegistry registry =>
      left
      cases hedit
      exact if_pos rfl
    | setValue text =>
      right
      obtain ⟨stored, -, rfl⟩ := setValue_eq_ok_iff.mp (change_setValue_eq_ok_iff.mp hedit)
      exact ⟨rfl, old, hold, rfl⟩
    | store | addParameter | replaceParameter | removeParameters =>
      right
      cases hedit
      exact ⟨rfl, old, hold, rfl⟩
  | kept operation hbefore hfailed =>
    right
    obtain ⟨hposition, -⟩ := List.getElem?_eq_some_iff.mp hbefore
    rw [Operation.origin_of_lt hposition]
    refine ⟨?_, property, hbefore, rfl⟩
    cases operation with
    | create => exact if_neg (by omega)
    | copy | ask => rfl
    | change target edit =>
      cases edit with
      | setRegistry registry =>
        -- Taking another registry cannot fail, so it is another property that takes it.
        refine if_neg ?_
        rintro rfl
        obtain ⟨fault, hfault⟩ := hfailed _ rfl
        cases hfault
      | setValue | store | addParameter | replaceParameter | removeParameters => rfl

/-- If each operation decides a part of every date property or keeps it, then a history leaves that
part as it was decided last. -/
theorem latest?_eq_of_step {α : Type}
    {decides? : Leniency → List Property → Nat → Operation → Option α} (view : DateProperty → α)
    (hstep : ∀ leniency before position operation property,
      Provenance leniency before position property operation →
        decides? leniency before position operation = some (view property) ∨
        decides? leniency before position operation = none ∧
          ∃ old, before[operation.origin before position]? = some (.dated old) ∧
            view old = view property)
    {history : List (Leniency × Operation)} {position : Nat} {property : DateProperty}
    (hproperty : (after history)[position]? = some (.dated property)) :
    latest? decides? history position = some (view property) := by
  -- The position is general because a copy continues the history of its source.
  induction history generalizing position property with
  | nil => cases hproperty
  | cons step earlier ih =>
    rcases step with ⟨leniency, operation⟩
    rcases hstep leniency (after earlier) position operation property
      (provenance_of_apply hproperty) with hdecided | ⟨hkept, old, hold, hview⟩
    · rw [latest?, hdecided]
    · rw [latest?, hkept, ← hview]
      exact ih hold

/-- After any history, the value of a date property is the one that was fixed last, and its registry
the one given last. The property reads as nothing if no value is stored, as the stored value without
a TZID parameter, and otherwise as the stored value viewed at the zone that this registry finds for
the first TZID parameter that the property has now. -/
theorem bound_and_read_after {history : List (Leniency × Operation)} {position : Nat}
    {property : DateProperty} (hproperty : (after history)[position]? = some (.dated property)) :
    ∃ stored registry,
      fixed? history position = some stored ∧
      inForce? history position = some registry ∧
      property.stored = stored ∧
      property.value = (stored.map Temporal.ics).getD "" ∧
      property.isUtc = stored.any Temporal.isUtc ∧
      ∀ leniency, (property.read leniency).result =
        match stored, property.tzid with
        | none, _ => .ok none
        | some value, none => .ok (some value.reading)
        | some value, some tzid =>
          match (registry.resolve leniency tzid).result with
          | .ok zone => (value.viewedAt zone).map some
          | .error fault => .error fault := by
  have hfixed : fixed? history position = some property.stored :=
    latest?_eq_of_step DateProperty.stored (fun _ _ _ _ _ => fixes?_or_kept) hproperty
  have hinForce : inForce? history position = some property.registry :=
    latest?_eq_of_step DateProperty.registry (fun _ _ _ _ _ => installs?_or_kept) hproperty
  refine ⟨property.stored, property.registry, hfixed, hinForce, rfl, ?_, rfl, ?_⟩
  · rw [DateProperty.value]
    cases property.stored <;> rfl
  · intro leniency
    refine (property.result_read leniency).trans ?_
    cases property.stored with
    | none => rfl
    | some value => cases property.tzid <;> rfl

/-- A start is set at noon in Berlin, then given the zone of New York, then set to a text that is no
literal; the operations are listed the latest first. -/
def movedToNewYork : List (Leniency × Operation) :=
  [(.strict, .change 0 (.setValue "noon")),
    (.strict, .change 0 (.replaceParameter (Parameter.of "tzid" "America/New_York"))),
    (.strict, .create (.date .any) "dtstart" [Parameter.of "tzid" "Europe/Berlin"]
      "20240701T120000" .standard)]

/-- Noon in Berlin stays the value, and reads as six in the morning in New York. -/
theorem bound_and_read_after_movedToNewYork :
    ∃ property six, (after movedToNewYork)[0]? = some (.dated property) ∧
      property.value = "20240701T120000" ∧
      (property.read .strict).result = .ok (some (.time six)) ∧
      six.zone = .named "America/New_York" ∧
      String.ofList six.wall.basic = "20240701T060000" := by
  have hstate : (datedAt? (after movedToNewYork) 0).map DateProperty.parameters =
      some [Parameter.of "tzid" "America/New_York"] := by decide +kernel
  have hnoon : fixed? movedToNewYork 0 = some (some (.zoned ⟨⟨⟨2024, 7, 1, by decide, by decide,
      by decide⟩, ⟨12, 0, 0, 0, by decide, by decide, by decide, by decide⟩⟩, false,
      .named "Europe/Berlin"⟩ "Europe/Berlin")) := by decide +kernel
  have hstandard : inForce? movedToNewYork 0 = some .standard := rfl
  have hzone : (ZoneRegistry.standard.resolve .strict "America/New_York").result =
      .ok (.named "America/New_York") :=
    ZoneRegistry.resolveInDatabase_of_isName rfl (by decide +kernel)
  have hviewed : ((ZonedTime.mk ⟨⟨2024, 7, 1, by decide, by decide, by decide⟩, ⟨12, 0, 0, 0,
      by decide, by decide, by decide, by decide⟩⟩ false (.named "Europe/Berlin")).inZone?
        (.named "America/New_York")).map (fun six => (six.zone, String.ofList six.wall.basic)) =
      some (.named "America/New_York", "20240701T060000") := by decide +kernel
  obtain ⟨property, hdated, hparameters⟩ := Option.map_eq_some_iff.mp hstate
  obtain ⟨six, hsix, hfields⟩ := Option.map_eq_some_iff.mp hviewed
  obtain ⟨hsixZone, hsixText⟩ := Prod.mk.inj hfields
  have hproperty := datedAt?_eq_some_iff.mp hdated
  obtain ⟨stored, registry, hfixed, hinForce, -, hvalue, -, hread⟩ := bound_and_read_after hproperty
  obtain rfl := Option.some.inj (hnoon.symm.trans hfixed)
  obtain rfl := Option.some.inj (hstandard.symm.trans hinForce)
  have htzid : property.tzid = some "America/New_York" := by
    rw [DateProperty.tzid, hparameters]
    decide +kernel
  refine ⟨property, six, hproperty, hvalue.trans (by decide +kernel), ?_, hsixZone, hsixText⟩
  rw [hread, htzid]
  simp only [hzone, Temporal.viewedAt, Temporal.reading, hsix]
  rfl

end Property

end ContentLine
