import ContentLine.Builder

/-!
# Building from registrations

A registration of a name under a kind stands for the factory of that name and kind. Among factories
that come from registrations, the last one registered for a name decides the kind of the property
that is built, and the property has the name, the parameters and the value of the builder.

## Main definitions

* `Factory.ofRegistrations`: the factories of a list of registrations.
* `Factory.lastKind?`: the kind that the last registration of a name gives it.
* `Builder.propertyOf`: the property of a kind that a builder stands for.
* `Builder.propertyWithout`: the outcome for a name that no registration knows.
* `Builder.ofRegistrations`: the builder of the parts of a content line with given registrations.

## Main results

* `Builder.choose_of_registrations`: the last registration of the name is chosen.
* `Builder.build_of_registrations`: the outcome of building, by the last registration of the name.
-/

namespace ContentLine

namespace Factory

section Database

variable [ZoneDatabase]

/-- The factories of registrations, in order. -/
def ofRegistrations (registrations : List (String × Kind)) : List Factory :=
  registrations.map fun (name, kind) => named name kind

theorem forNames_eq (names : List String) (kind : Kind) :
    forNames names kind = ofRegistrations (names.map (·, kind)) := by
  rw [ofRegistrations, List.map_map]
  rfl

theorem ofRegistrations_append (earlier later : List (String × Kind)) :
    ofRegistrations (earlier ++ later) = ofRegistrations earlier ++ ofRegistrations later :=
  List.map_append

end Database

/-- Adding factories to a list puts them at its end. -/
theorem result_registerAll (factories added : List Factory) :
    (registerAll factories added).result = .ok (factories ++ added) := by
  induction added generalizing factories with
  | nil => rw [List.append_nil]; rfl
  | cons factory rest ih =>
    rw [registerAll, List.foldlM_cons, Action.result_bind]
    exact (ih (factories ++ [factory])).trans (by rw [List.append_assoc, List.singleton_append])

/-- The kind that the last registration of a name gives it. Names are compared in upper case, which
the name asked for is in already. -/
def lastKind? (registrations : List (String × Kind)) (name : String) : Option Kind :=
  (registrations.filter fun (registered, _) => Text.upper registered == name).getLast?.map (·.2)

/-- A later registration of the name hides the first; otherwise the first counts if it is of the
name. -/
theorem lastKind?_cons (registered name : String) (kind : Kind) (rest : List (String × Kind)) :
    lastKind? ((registered, kind) :: rest) name =
      (lastKind? rest name).or (if Text.upper registered = name then some kind else none) := by
  unfold lastKind?
  by_cases h : Text.upper registered = name
  · rw [List.filter_cons_of_pos (by simpa using h), List.getLast?_cons, if_pos h]
    cases (rest.filter fun (registered, _) => Text.upper registered == name).getLast? <;> rfl
  · rw [List.filter_cons_of_neg (by simpa using h), if_neg h, Option.or_none]

/-- A later registration decides, if there is one. -/
theorem lastKind?_append (earlier later : List (String × Kind)) (name : String) :
    lastKind? (earlier ++ later) name = (lastKind? later name).or (lastKind? earlier name) := by
  induction earlier with
  | nil => rw [List.nil_append]; exact (Option.or_none).symm
  | cons entry rest ih =>
    rw [List.cons_append, lastKind?_cons, ih, lastKind?_cons, Option.or_assoc]

/-- If the registered names are in upper case and distinct, the last registration of a name is the
only one. -/
theorem lastKind?_eq_lookup {registrations : List (String × Kind)}
    (hupper : ∀ registration ∈ registrations, Text.upper registration.1 = registration.1)
    (hdistinct : (registrations.map (·.1)).Nodup) (name : String) :
    lastKind? registrations name = registrations.lookup name := by
  -- The lookup takes the first entry of a name and `lastKind?` the last; names are distinct, so
  -- they are one.
  induction registrations with
  | nil => rfl
  | cons registration rest ih =>
    obtain ⟨registered, kind⟩ := registration
    have hregistered : Text.upper registered = registered :=
      hupper (registered, kind) List.mem_cons_self
    rw [List.map_cons, List.nodup_cons] at hdistinct
    obtain ⟨hfresh, hrest⟩ := hdistinct
    rw [lastKind?_cons, hregistered,
      ih (fun other hother => hupper other (List.mem_cons_of_mem _ hother)) hrest,
      List.lookup_cons]
    by_cases hname : registered = name
    · -- No later registration hides this one, since the name is not registered again.
      subst hname
      have hnone : rest.lookup registered = none := by
        rw [List.lookup_eq_none_iff]
        intro other hother
        have hne : other.1 ≠ registered := fun heq =>
          hfresh (List.mem_map.mpr ⟨other, hother, heq⟩)
        exact bne_iff_ne.mpr hne.symm
      simp [hnone]
    · have hne : (name == registered) = false := beq_eq_false_iff_ne.mpr (Ne.symm hname)
      simp [hname, hne]

end Factory

namespace Builder

variable [ZoneDatabase] (builder : Builder) (leniency : Leniency)

/-- The property that a factory of a kind creates for the builder, before it is finished. -/
def created : Kind → Property
  | .literal kind => .literal ⟨kind, builder.name, builder.parameters, builder.value⟩
  | .date kind => .dated ⟨kind, builder.name, builder.parameters, none, .standard⟩

/-- The property of a kind that the builder stands for. A text value is unescaped, and a date value
is read under the first TZID parameter and the registry of the builder. -/
def propertyOf : Kind → Except Fault Property
  | .literal .text =>
    .ok (.literal ⟨.text, builder.name, builder.parameters, Text.unescape builder.value⟩)
  | .literal kind => .ok (.literal ⟨kind, builder.name, builder.parameters, builder.value⟩)
  | .date kind =>
    let registry := builder.registry.getD .standard
    let tzid := (Parameter.first? Parameter.tzidName builder.parameters).map (·.value)
    if builder.value = "" then
      .ok (.dated ⟨kind, builder.name, builder.parameters, none, registry⟩)
    else
      (Temporal.parse registry leniency tzid builder.value).result.map fun temporal =>
        .dated ⟨kind, builder.name, builder.parameters, some temporal, registry⟩

/-- The outcome for a name that no registration knows. -/
def propertyWithout : Except Fault Property :=
  if isExperimental builder.name || builder.allowsAnyName leniency then
    .ok (.literal ⟨.extra, builder.name, builder.parameters, builder.value⟩)
  else .error (.unsupportedName builder.name)

/-- The factory of the builder's name creates a property with what the builder knows. -/
theorem create_named {name : String} (kind : Kind) (hname : Text.upper name = builder.name) :
    ((Factory.named name kind).create leniency builder.parameters builder.value).result =
      .ok (some (builder.created kind)) := by
  cases kind with
  | literal kind => rw [Factory.create_named_literal, Text.upper_upper, hname, created]
  | date kind => rw [Factory.create_named_date, Text.upper_upper, hname, created]

/-- Asking the factory of a registration puts its property in the place of an earlier one, if the
registration is of the builder's name. -/
theorem consider_named (best : Option Candidate) (name : String) (kind : Kind) :
    (builder.consider leniency best (Factory.named name kind)).result =
      .ok (if Text.upper name = builder.name then
        some ⟨builder.created kind, (Factory.named name kind).label⟩ else best) := by
  unfold consider
  by_cases hname : Text.upper name = builder.name
  · rw [Factory.supports_named, hname, beq_self_eq_true, if_pos rfl, if_pos rfl,
      Action.result_bind, create_named builder leniency kind hname]
    cases best <;> rfl
  · rw [Factory.supports_named, beq_eq_false_iff_ne.mpr (Ne.symm hname), if_neg hname]
    rfl

/-- Asking the factories of registrations one after the other leaves the property of the last
registration of the name, or else the earlier one. -/
theorem foldlM_consider (registrations : List (String × Kind)) (best : Option Candidate) :
    (((Factory.ofRegistrations registrations).foldlM (builder.consider leniency) best).result.map
        fun found => found.map (·.property)) =
      .ok (((Factory.lastKind? registrations builder.name).map builder.created).or
        (best.map (·.property))) := by
  -- `best` is general because it changes as the factories are asked in turn.
  induction registrations generalizing best with
  | nil => rfl
  | cons registration rest ih =>
    obtain ⟨name, kind⟩ := registration
    rw [Factory.ofRegistrations, List.map_cons, List.foldlM_cons, Action.result_bind,
      consider_named]
    simp only [Except.bind]
    rw [← Factory.ofRegistrations, ih, Factory.lastKind?_cons]
    by_cases hname : Text.upper name = builder.name
    · cases Factory.lastKind? rest builder.name <;> simp [hname]
    · simp [hname]

/-- The last registration of the builder's name is chosen. -/
theorem choose_of_registrations {registrations : List (String × Kind)}
    (hfactories : builder.factories = Factory.ofRegistrations registrations) :
    (builder.choose leniency).result =
      .ok ((Factory.lastKind? registrations builder.name).map builder.created) := by
  -- The fold also carries the label of the factory, which the choice forgets.
  have hfold := builder.foldlM_consider leniency registrations none
  rw [← hfactories] at hfold
  rw [choose, Action.result_bind]
  cases hresult : (builder.factories.foldlM (builder.consider leniency) none).result with
  | error fault => rw [hresult] at hfold; cases hfold
  | ok found =>
    rw [hresult] at hfold
    simpa [Except.map, Except.bind] using hfold

/-- A created property is finished as the property that the builder stands for. -/
theorem finish_created (kind : Kind) :
    (builder.finish leniency (builder.created kind)).result =
      builder.propertyOf leniency kind := by
  cases kind with
  | literal kind => cases kind <;> rfl
  | date kind =>
    -- What the factory stored, and the registry it used, do not matter: both are set anew.
    simp only [created, finish, propertyOf, DateProperty.setValue, DateProperty.tzid]
    by_cases hempty : builder.value = ""
    · simp [hempty]
    · simp only [hempty, if_false, Action.result_bind]
      cases (Temporal.parse _ leniency _ builder.value).result <;> rfl

/-- A builder whose factories come from registrations builds the property of the kind that its name
was last registered under, and has no factory for any other name. -/
theorem build_of_registrations {registrations : List (String × Kind)}
    (hfactories : builder.factories = Factory.ofRegistrations registrations)
    (hname : Text.upper builder.name = builder.name) :
    (builder.build leniency).result =
      match Factory.lastKind? registrations builder.name with
      | some kind => builder.propertyOf leniency kind
      | none => builder.propertyWithout leniency := by
  rw [build, Action.result_bind, builder.choose_of_registrations leniency hfactories]
  cases Factory.lastKind? registrations builder.name with
  | none =>
    simp only [Option.map_none, Except.bind, buildExtra, propertyWithout]
    by_cases hallowed : isExperimental builder.name || builder.allowsAnyName leniency
    · simp [hallowed, Action.result_bind, Except.bind, LiteralProperty.create, hname]
    · simp [hallowed]
  | some kind =>
    simp only [Option.map_some, Except.bind, Action.result_bind, finish_created]
    cases builder.propertyOf leniency kind <;> rfl

/-- The builder of the parts of a content line with the factories of registrations, and with a
registry if one is given. -/
def ofRegistrations (registrations : List (String × Kind)) (allowAnyName : Option Bool)
    (registry : Option ZoneRegistry) (name : String) (parameters : List Parameter)
    (value : String) : Builder :=
  [Setting.factories (Factory.ofRegistrations registrations), .registry registry, .name name,
    .parameters parameters, .value value].foldl configure (new allowAnyName)

/-- The parts of a content line give the property of the kind that the name was last registered
under. -/
theorem build_ofRegistrations {registrations : List (String × Kind)} {name : String} {kind : Kind}
    (hkind : Factory.lastKind? registrations (Text.upper name) = some kind)
    (allowAnyName : Option Bool) (registry : Option ZoneRegistry) (parameters : List Parameter)
    (value : String) :
    ((ofRegistrations registrations allowAnyName registry name parameters value).build
        leniency).result =
      propertyOf ⟨Factory.ofRegistrations registrations, Text.upper name, Text.trim value,
        parameters, registry, allowAnyName⟩ leniency kind := by
  have hbuild := (ofRegistrations registrations allowAnyName registry name parameters
    value).build_of_registrations leniency rfl (Text.upper_upper name)
  rw [show (ofRegistrations registrations allowAnyName registry name parameters value).name =
    Text.upper name from rfl, hkind] at hbuild
  exact hbuild

end Builder

end ContentLine
