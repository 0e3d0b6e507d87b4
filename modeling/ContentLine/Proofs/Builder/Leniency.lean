import ContentLine.Proofs.Builder.Rebuilding
import ContentLine.Proofs.Builder.Settings
import ContentLine.Proofs.Property.Interchange

/-!
# Leniency only adds

What is built with all switches off is built under every setting of them, as the same property. The
switch for names only lets more names through. The switch for Windows names can change the zone that
a local time is bound to, but only that of UTC, and only to one that keeps the same time; then the
identifier, the literal and what the property reads as stay the same.

## Main definitions

* `Property.KeptUnder`: a property stands for another one under given switches.

## Main results

* `Builder.propertyOf_of_strict`, `Builder.propertyWithout_of_strict`: what a registration, and the
  lack of one, gives with all switches off is kept under every setting of them.
* `Builder.build_of_strict`: so is what is built.
-/

namespace ContentLine

/-! ## Properties that are kept -/

namespace Property

/-- The second property, under given switches, stands for the first with all switches off: kind,
name, parameters and value are the same, they are valid or not for the same reason, and a date
property reads as what is equal. -/
structure KeptUnder (leniency : Leniency) (property other : Property) : Prop where
  kind_eq : other.kind = property.kind
  name_eq : other.name = property.name
  parameters_eq : other.parameters = property.parameters
  value_eq : other.value = property.value
  validate_eq : other.validate = property.validate
  /-- Date properties can be read, and their readings agree. -/
  read_agrees : ∀ dateKind, property.kind = .date dateKind →
    ∃ before after, (property.read .strict).result = .ok before ∧
      (other.read leniency).result = .ok after ∧ Reading.bothAgree after before = true

variable {leniency : Leniency}

theorem KeptUnder.literal (property : LiteralProperty) :
    KeptUnder leniency (.literal property) (.literal property) where
  kind_eq := rfl
  name_eq := rfl
  parameters_eq := rfl
  value_eq := rfl
  validate_eq := rfl
  read_agrees := by
    rintro dateKind ⟨⟩

/-- Two date properties that are set to one text, with values that are alike, stand for each other.
-/
theorem KeptUnder.dated {property : DateProperty} {other : Option Temporal} (text : String)
    (hproperty : property.SetTo .strict text)
    (hother : { property with stored := other }.SetTo leniency text)
    (halike : Option.Rel Temporal.Alike property.stored other) :
    KeptUnder leniency (.dated property) (.dated { property with stored := other }) where
  kind_eq := rfl
  name_eq := rfl
  parameters_eq := rfl
  value_eq := (DateProperty.value_alike halike property).symm
  validate_eq := (DateProperty.validate_alike halike property).symm
  read_agrees := by
    intro dateKind _
    refine ⟨_, _, hproperty.read, hother.read, ?_⟩
    rw [Reading.bothAgree_comm]
    exact Reading.bothAgree_of_alike halike

end Property

/-! ## Building -/

namespace Builder

/-- A setting keeps the name in upper case. -/
theorem upper_name_configure {builder : Builder} (h : Text.upper builder.name = builder.name)
    (setting : Setting) : Text.upper (builder.configure setting).name =
      (builder.configure setting).name := by
  cases setting with
  | name text => exact Text.upper_upper text
  | line line => exact Text.upper_upper line.name
  | factories | value | parameter | parameters | registry => exact h

/-- Settings keep the name in upper case. -/
theorem upper_name_foldl_configure {builder : Builder}
    (h : Text.upper builder.name = builder.name) (settings : List Setting) :
    Text.upper (settings.foldl configure builder).name =
      (settings.foldl configure builder).name := by
  induction settings generalizing builder with
  | nil => exact h
  | cons setting rest ih => exact ih (upper_name_configure h setting)

variable {builder : Builder} {property : Property}

/-- A name that may do without a factory with all switches off may do so under every setting. -/
theorem propertyWithout_of_strict (h : builder.propertyWithout .strict = .ok property)
    (leniency : Leniency) :
    builder.propertyWithout leniency = .ok property ∧
      property.KeptUnder leniency property := by
  rw [propertyWithout] at h ⊢
  split at h
  next hallowed =>
    -- With all switches off a name is let through for its form or because the builder says so.
    have hstill : (isExperimental builder.name || builder.allowsAnyName leniency) = true := by
      rw [Bool.or_eq_true] at hallowed ⊢
      refine hallowed.imp_right fun hany => ?_
      rw [allowsAnyName] at hany ⊢
      cases hgiven : builder.allowAnyName with
      | none => rw [hgiven] at hany; cases hany
      | some allowed => rwa [hgiven] at hany
    rw [if_pos hstill]
    cases h
    exact ⟨rfl, .literal _⟩
  next => cases h

section Database

variable [ZoneDatabase]

/-- A builder without a registry of its own takes that of the database. -/
theorem isDatabase_registry (h : ∀ registry ∈ builder.registry, registry.IsDatabase) :
    (builder.registry.getD .standard).IsDatabase := by
  cases hgiven : builder.registry with
  | none => exact ZoneRegistry.isDatabase_database "UTC"
  | some registry => exact h registry hgiven

/-- The property of a kind that a builder stands for with all switches off is kept under every
setting of them. -/
theorem propertyOf_of_strict (hutc : ZoneDatabase.KnowsUtc)
    (hregistry : ∀ registry ∈ builder.registry, registry.IsDatabase) {kind : Kind}
    (h : builder.propertyOf .strict kind = .ok property) (leniency : Leniency) :
    ∃ other, builder.propertyOf leniency kind = .ok other ∧ property.KeptUnder leniency other := by
  cases kind with
  | literal kind =>
    -- Literal values are not read, so the switches do not matter.
    cases kind <;> cases h <;> exact ⟨_, rfl, .literal _⟩
  | date kind =>
    obtain ⟨stored, houtcome, rfl⟩ := propertyOf_date_eq_ok_iff.mp h
    obtain ⟨other, hother, halike⟩ :=
      Property.Setting.outcome_alike hutc (isDatabase_registry hregistry) rfl houtcome leniency
    exact ⟨_, propertyOf_date_eq_ok_iff.mpr ⟨other, hother, rfl⟩,
      Property.KeptUnder.dated builder.value houtcome hother halike⟩

/-- What is built with all switches off is built under every setting of them, and kept, by every
builder whose factories come from registrations and whose registry is that of the database. -/
theorem build_of_strict (hutc : ZoneDatabase.KnowsUtc) {allowAnyName : Option Bool}
    {settings : List Setting} {registrations : List (String × Kind)}
    (hfactories : (ofSettings allowAnyName settings).factories =
      Factory.ofRegistrations registrations)
    (hregistry : ∀ registry ∈ (ofSettings allowAnyName settings).registry, registry.IsDatabase)
    (h : ((ofSettings allowAnyName settings).build .strict).result = .ok property)
    (leniency : Leniency) :
    ∃ other, ((ofSettings allowAnyName settings).build leniency).result = .ok other ∧
      property.KeptUnder leniency other := by
  have hname : Text.upper (ofSettings allowAnyName settings).name =
      (ofSettings allowAnyName settings).name := by
    have hempty : Text.upper "" = "" := by decide
    exact upper_name_foldl_configure hempty settings
  generalize ofSettings allowAnyName settings = builder at hfactories hregistry h hname ⊢
  -- The switches have no part in which registration decides.
  rw [builder.build_of_registrations _ hfactories hname] at h ⊢
  cases hlast : Factory.lastKind? registrations builder.name with
  | none =>
    rw [hlast] at h
    exact ⟨property, propertyWithout_of_strict h leniency⟩
  | some kind =>
    rw [hlast] at h
    exact propertyOf_of_strict hutc hregistry h leniency

/-- What can be seen of the result decides that a date property is built. -/
theorem exists_dated_of_result (kind : DateKind) {parameters : List Parameter} {value : String}
    {leniency : Leniency} (h : ((builder.build leniency).result.toOption.map fun property =>
      (property.kind, property.parameters, property.value)) =
        some (.date kind, parameters, value)) :
    ∃ property, (builder.build leniency).result = .ok (.dated property) ∧
      property.parameters = parameters ∧ property.value = value := by
  cases hbuild : (builder.build leniency).result with
  | error fault =>
    rw [hbuild] at h
    cases h
  | ok property =>
    rw [hbuild] at h
    cases property with
    | literal literal => cases h
    | dated property =>
      cases h
      exact ⟨property, rfl, rfl, rfl⟩

end Database

/-- A start at nine in UTC, which is a Windows name too. -/
def utcStart : List Setting :=
  [.factories (Factory.ofRegistrations [("dtstart", .date .any)]), .name "DtStart",
    .parameter (Parameter.of "tzid" "UTC"), .value " 20230615T090000 "]

/-- With both switches on the start is bound to the other zone of UTC, and kept. -/
theorem build_of_strict_utcStart :
    ∃ property other, ((ofSettings none utcStart).build .strict).result = .ok property ∧
      property.value = "20230615T090000" ∧
      ((ofSettings none utcStart).build ⟨true, true⟩).result = .ok other ∧
      property.KeptUnder ⟨true, true⟩ other := by
  obtain ⟨property, hbuild, -, hvalue⟩ : ∃ property,
      ((ofSettings none utcStart).build .strict).result = .ok (.dated property) ∧
        property.parameters = [Parameter.of Parameter.tzidName "UTC"] ∧
        property.value = "20230615T090000" :=
    exists_dated_of_result .any (by decide +kernel)
  have hfactories : (ofSettings none utcStart).factories =
      Factory.ofRegistrations [("dtstart", .date .any)] := rfl
  obtain ⟨other, hother, hkept⟩ :=
    build_of_strict ZoneDatabase.knowsUtc_excerpt hfactories (by rintro _ ⟨⟩) hbuild ⟨true, true⟩
  exact ⟨.dated property, other, hbuild, hvalue, hother, hkept⟩

end Builder

end ContentLine
