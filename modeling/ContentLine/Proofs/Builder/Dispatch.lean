import ContentLine.Proofs.Builder.Consultation
import ContentLine.Proofs.Builder.Settings
import ContentLine.Proofs.Property.Binding

/-!
# How builders use their factories

A builder asks the factories that support its name, for the parameters and the value that it was
given, until one fails. If none does, the property that was created last is the one that counts. It
gets the value of the line, whatever its factory stored in it: a text is unescaped, and a date is
set under the registry of the builder.

## Main definitions

* `Builder.numbered`: the builder with factories that record the questions put to them.
* `Property.valued`, `Property.closing`: a property with the value of the line, and what happens
  when it gets that.

## Main results

* `Builder.foldlM_consider_numbered`: asking all factories, in closed form.
* `Builder.result_build_numbered`: the record of the questions does not change what is built.
* `Builder.build_consults_factories`: what is asked, noted and built from any settings.
-/

namespace ContentLine

/-- The factories of a list, each recording the questions put to it under its position. -/
def Factory.numbered (factories : List Factory) : List Factory :=
  factories.zipIdx.map fun (factory, position) => recorded position factory

theorem Factory.numbered_append_singleton (factories : List Factory) (factory : Factory) :
    numbered (factories ++ [factory]) =
      numbered factories ++ [recorded factories.length factory] := by
  simp [numbered, List.zipIdx_append]

namespace Builder

variable (builder : Builder) (leniency : Leniency)

/-- The factories of a list that the builder may ask, with their answers. -/
def consultations (factories : List Factory) : List Consultation :=
  Consultation.ofFactories factories leniency builder.name builder.parameters builder.value

/-- A factory that does not support the name is not asked. -/
theorem consider_of_not_supports {factory : Factory} (h : factory.supports builder.name = false)
    (best : Option Candidate) : builder.consider leniency best factory = pure best := by
  rw [consider, h]
  rfl

/-- A factory that supports the name is asked once. Its property takes the place of an earlier one,
and without a property the earlier one stays. -/
theorem consider_recorded {factory : Factory} (h : factory.supports builder.name = true)
    (best : Option Candidate) (serial : Nat) :
    builder.consider leniency best (factory.recorded serial) =
      Consultation.ask builder.name builder.parameters builder.value best
        ⟨serial, factory.label, factory.create leniency builder.parameters builder.value⟩ := by
  have hsupports : (factory.recorded serial).supports builder.name = true := h
  rw [consider, if_pos hsupports]
  dsimp only [Factory.recorded]
  generalize factory.create leniency builder.parameters builder.value = answer
  rcases answer with ⟨events, fault | _ | property⟩
  · simp [Action.emit, Consultation.ask, Consultation.fault?, Consultation.candidate?,
      Consultation.entries, Consultation.override?]
  · simp [Action.emit, Consultation.ask, Consultation.fault?, Consultation.candidate?,
      Consultation.entries, Consultation.override?]
  · cases best <;>
      simp [Action.emit, Action.note, Consultation.ask, Consultation.fault?,
        Consultation.candidate?, Consultation.entries, Consultation.override?]

/-- Asking all factories of a list does what the consultations up to the first fault do, and ends
with that fault or the property created last. -/
theorem foldlM_consider_numbered (factories : List Factory) :
    (Factory.numbered factories).foldlM (builder.consider leniency) none =
      Consultation.conclusion builder.name builder.parameters builder.value
        (builder.consultations leniency factories) := by
  -- The induction is on the factory asked last, since what it does depends on those before it.
  induction factories using List.reverseRecOn with
  | nil => rfl
  | append_singleton factories factory ih =>
    rw [Factory.numbered_append_singleton, List.foldlM_append, ih, consultations, consultations,
      Consultation.ofFactories_append_singleton]
    have hbefore : ∀ earlier ∈ Consultation.ofFactories factories leniency builder.name
        builder.parameters builder.value, earlier.position < factories.length :=
      fun earlier => Consultation.position_lt_of_mem_ofFactories
    simp only [List.foldlM_cons, List.foldlM_nil, bind_pure]
    cases hsupports : factory.supports builder.name with
    | false =>
      have hsupports : (factory.recorded factories.length).supports builder.name = false :=
        hsupports
      simp [funext (consider_of_not_supports builder leniency hsupports)]
    | true =>
      rw [if_pos rfl, Consultation.conclusion_append_singleton hbefore]
      congr 1
      funext best
      rw [consider_recorded builder leniency hsupports]

/-- The record of a question does not change the answer. -/
theorem result_consider_recorded (best : Option Candidate) (factory : Factory) (serial : Nat) :
    (builder.consider leniency best (factory.recorded serial)).result =
      (builder.consider leniency best factory).result := by
  cases hsupports : factory.supports builder.name with
  | false =>
    rw [consider_of_not_supports builder leniency hsupports]
    have hsupports : (factory.recorded serial).supports builder.name = false := hsupports
    rw [consider_of_not_supports builder leniency hsupports]
  | true =>
    have hrecorded : (factory.recorded serial).supports builder.name = true := hsupports
    rw [consider, if_pos hrecorded, consider, if_pos hsupports, Action.result_bind,
      Action.result_bind]
    rfl

theorem result_foldlM_consider_numbered (factories : List Factory) :
    ((Factory.numbered factories).foldlM (builder.consider leniency) none).result =
      (factories.foldlM (builder.consider leniency) none).result := by
  induction factories using List.reverseRecOn with
  | nil => rfl
  | append_singleton factories factory ih =>
    rw [Factory.numbered_append_singleton, List.foldlM_append, List.foldlM_append,
      Action.result_bind, Action.result_bind, ih]
    simp only [List.foldlM_cons, List.foldlM_nil, bind_pure, result_consider_recorded]

/-- The builder with factories that record the questions put to them. -/
def numbered : Builder :=
  { builder with factories := Factory.numbered builder.factories }

/-- The record of the questions does not change what is built. -/
theorem result_build_numbered [ZoneDatabase] :
    (builder.numbered.build leniency).result = (builder.build leniency).result := by
  have hchoose : (builder.numbered.choose leniency).result = (builder.choose leniency).result := by
    rw [choose, choose, Action.result_bind, Action.result_bind]
    exact congrArg (fun found => Except.bind found _)
      (builder.result_foldlM_consider_numbered leniency builder.factories)
  rw [build, build, Action.result_bind, Action.result_bind, hchoose]
  rfl

end Builder

namespace Property

/-- A property that was created for a line, with the value of the line in place of its own: a text
is unescaped, and a date is set to the value under the given registry. Other values stay. -/
def valued (registry : ZoneRegistry) (leniency : Leniency) (value : String) :
    Property → Except Fault Property
  | .literal property =>
    .ok (.literal
      (if property.kind = .text then { property with value := Text.unescape value } else property))
  | .dated property =>
    (Setting.text registry leniency property.tzid value).outcome.map fun stored =>
      .dated { property with registry, stored }

/-- What is looked up for the value of the line: only that of a date may need it. -/
def lookups (registry : ZoneRegistry) (leniency : Leniency) (value : String) :
    Property → List Event
  | .literal _ => []
  | .dated property =>
    if value = "" then [] else (Temporal.parse registry leniency property.tzid value).events

/-- What happens when a property is given the value of the line: what is looked up for it, and the
note of its success. -/
def closing (registry : ZoneRegistry) (leniency : Leniency) (value : String)
    (property : Property) : List Event :=
  property.lookups registry leniency value ++
    match property.valued registry leniency value with
    | .ok final => [.note (.built final.description)]
    | .error _ => []

end Property

namespace Builder

variable (builder : Builder) (leniency : Leniency)

/-- To finish a property is to give it the value of the line. -/
theorem finish_eq [ZoneDatabase] (property : Property) :
    builder.finish leniency property =
      ⟨property.lookups (builder.registry.getD .standard) leniency builder.value,
        property.valued (builder.registry.getD .standard) leniency builder.value⟩ := by
  cases property with
  | literal property =>
    rw [finish, Property.lookups, Property.valued]
    cases property.kind <;> rfl
  | dated property =>
    rw [finish, Property.lookups, Property.valued, DateProperty.setValue, Property.Setting.outcome]
    by_cases hempty : builder.value = ""
    · simp [hempty, Except.map]
    · simp only [if_neg hempty]
      have htzid : DateProperty.tzid
          { property with registry := builder.registry.getD .standard } = property.tzid := rfl
      rw [htzid]
      generalize Temporal.parse (builder.registry.getD .standard) leniency property.tzid
        builder.value = parsed
      rcases parsed with ⟨events, fault | temporal⟩ <;> simp [Except.map]

/-- What the consultations do and end with is all that choosing a property does. -/
theorem choose_numbered :
    builder.numbered.choose leniency =
      Consultation.conclusion builder.name builder.parameters builder.value
          (builder.consultations leniency builder.factories) >>= fun best =>
        pure (best.map (·.property)) := by
  rw [← foldlM_consider_numbered]
  rfl

section Building

variable [ZoneDatabase]

/-- A builder whose factories fail does nothing but ask them, and ends with the first fault. -/
theorem build_numbered_of_fault {fault : Fault}
    (h : (builder.consultations leniency builder.factories).findSome? Consultation.fault? =
      some fault) :
    builder.numbered.build leniency =
      ⟨Consultation.transcript builder.name builder.parameters builder.value
        (Consultation.upToFault (builder.consultations leniency builder.factories)),
        .error fault⟩ := by
  rw [build, choose_numbered, Consultation.conclusion, h]
  rfl

/-- A builder none of whose factories fails asks them all, and gives the property created last the
value of the line. -/
theorem build_numbered_of_created {last : Candidate}
    (h : (builder.consultations leniency builder.factories).findSome? Consultation.fault? = none)
    (hlast : (Consultation.created (Consultation.upToFault
      (builder.consultations leniency builder.factories))).getLast? = some last) :
    builder.numbered.build leniency =
      ⟨Consultation.transcript builder.name builder.parameters builder.value
          (Consultation.upToFault (builder.consultations leniency builder.factories)) ++
          last.property.closing (builder.registry.getD .standard) leniency builder.value,
        last.property.valued (builder.registry.getD .standard) leniency builder.value⟩ := by
  have hfinish : builder.numbered.finish leniency last.property =
      builder.finish leniency last.property := rfl
  rw [build, choose_numbered, Consultation.conclusion, h, hlast]
  simp only [Action.bind_ok, Action.pure_def, Option.map_some, List.append_nil, hfinish,
    Property.closing]
  rw [finish_eq]
  cases last.property.valued (builder.registry.getD .standard) leniency builder.value <;>
    simp [Action.note, Action.emit]

/-- A builder whose factories all decline asks them all, and builds an extra property if the name
may do without a factory. -/
theorem build_numbered_of_declined (hname : Text.upper builder.name = builder.name)
    (h : (builder.consultations leniency builder.factories).findSome? Consultation.fault? = none)
    (hnone : (Consultation.created (Consultation.upToFault
      (builder.consultations leniency builder.factories))).getLast? = none) :
    builder.numbered.build leniency =
      let asking := Consultation.transcript builder.name builder.parameters builder.value
        (Consultation.upToFault (builder.consultations leniency builder.factories))
      if isExperimental builder.name || builder.allowsAnyName leniency then
        ⟨asking ++ [.note (.builtExtra builder.name)],
          .ok (.literal ⟨.extra, builder.name, builder.parameters, builder.value⟩)⟩
      else ⟨asking, .error (.unsupportedName builder.name)⟩ := by
  have hextra : builder.numbered.buildExtra leniency = builder.buildExtra leniency := rfl
  rw [build, choose_numbered, Consultation.conclusion, h, hnone]
  simp only [Action.bind_ok, Action.pure_def, Option.map_none, List.append_nil, hextra]
  rw [buildExtra, LiteralProperty.create, hname]
  split <;> simp [Action.note, Action.emit, Action.fail]

/-- Whatever settings a builder is given, building asks the factories that support the name, in
order and each once, for the parameters and the value, up to and including the first that fails.
Each property created after the first is noted once with the one created just before it. If a
factory fails, its fault is the outcome and nothing more happens. Otherwise the outcome is the
property created last with the value of the line, whatever its factory stored in it, or, if none was
created, an extra property or the fault of a name that needs a factory. -/
theorem build_consults_factories (allowAnyName : Option Bool) (settings : List Setting)
    (leniency : Leniency) :
    let builder := ofSettings allowAnyName settings
    let factories := settings.flatMap Setting.addedFactories
    let parameters := settings.flatMap Setting.addedParameters
    let name := Text.upper ((latest? Setting.givenName? settings).getD "")
    let value := Text.trim ((latest? Setting.givenValue? settings).getD "")
    let registry := ((latest? Setting.givenRegistry? settings).getD none).getD .standard
    let asked := Consultation.upToFault
      (Consultation.ofFactories factories leniency name parameters value)
    let created := Consultation.created asked
    let asking := Consultation.transcript name parameters value asked
    let built := builder.numbered.build leniency
    built.result = (builder.build leniency).result ∧
      asked.Pairwise (fun earlier later => earlier.position < later.position) ∧
      (asked.filterMap fun consultation => consultation.override? name
          (Consultation.latestBefore? asked consultation.position)) =
        created.zipWith (fun earlier later => .overrides later.factory earlier.factory name)
          created.tail ∧
      (∀ consultation ∈ asked, ∀ fault, consultation.fault? = some fault →
        built = ⟨asking, .error fault⟩) ∧
      ((∀ consultation ∈ asked, consultation.fault? = none) →
        (∀ last, created.getLast? = some last →
          built = ⟨asking ++ last.property.closing registry leniency value,
            last.property.valued registry leniency value⟩) ∧
        (created = [] →
          built =
            if isExperimental name || allowAnyName.getD leniency.anyName then
              ⟨asking ++ [.note (.builtExtra name)],
                .ok (.literal ⟨.extra, name, parameters, value⟩)⟩
            else ⟨asking, .error (.unsupportedName name)⟩)) := by
  intro builder factories parameters name value registry asked created asking built
  -- The fields of the builder are known from the settings, and the rest is about any such builder.
  have hbuilder : builder = ⟨factories, name, value, parameters,
      (latest? Setting.givenRegistry? settings).getD none, allowAnyName⟩ :=
    ofSettings_eq allowAnyName settings
  clear_value builder
  subst hbuilder
  have hpositions : asked.Pairwise fun earlier later => earlier.position < later.position :=
    Consultation.pairwise_ofFactories.sublist (Consultation.upToFault_isPrefix _).sublist
  refine ⟨result_build_numbered _ leniency, hpositions,
    Consultation.filterMap_override? hpositions, fun consultation hasked fault hfault => ?_,
    fun hnoFault => ?_⟩
  · exact build_numbered_of_fault _ leniency
      (Consultation.findSome?_eq_of_mem_upToFault hasked hfault)
  · have hquiet := Consultation.findSome?_eq_none_of_upToFault hnoFault
    refine ⟨fun last hlast => build_numbered_of_created _ leniency hquiet hlast, fun hnone => ?_⟩
    have hlast : created.getLast? = none := List.getLast?_eq_none_iff.mpr hnone
    -- The name is upper case, so that the extra property keeps it.
    exact build_numbered_of_declined _ leniency (Text.upper_upper _) hquiet hlast

end Building

/-- A summary is built by four factories: one creates, one supports another name, one has the
outcome given, and one creates. -/
def summaryOf (outcome : Factory.Outcome) : List Setting :=
  [.factories [.scripted "first" ["SUMMARY"] (.literal .text) .create,
      .scripted "unrelated" ["LOCATION"] (.literal .text) .create],
    .name "summary",
    .factories [.scripted "third" ["SUMMARY"] (.literal .plain) outcome,
      .scripted "last" ["SUMMARY"] (.literal .text) .create],
    .value " a\\,b "]

/-- What the factories that support the name of the summary answer. -/
theorem ofFactories_summaryOf (outcome : Factory.Outcome) :
    Consultation.ofFactories ((summaryOf outcome).flatMap Setting.addedFactories) .strict "SUMMARY"
        [] "a\\,b" =
      [⟨0, "FakeFactory(first)", ⟨[], .ok (some (.literal ⟨.text, "SUMMARY", [], "first"⟩))⟩⟩,
        ⟨2, "FakeFactory(third)",
          (Factory.scripted "third" ["SUMMARY"] (.literal .plain) outcome).create .strict []
            "a\\,b"⟩,
        ⟨3, "FakeFactory(last)", ⟨[], .ok (some (.literal ⟨.text, "SUMMARY", [], "last"⟩))⟩⟩] := by
  have hupper : Text.upper "SUMMARY" = "SUMMARY" := by decide +kernel
  simp [Consultation.ofFactories, summaryOf, Setting.addedFactories, Factory.scripted,
    Property.create, LiteralProperty.create, hupper]

/-- If the third factory declines, the last one overrides the first, and its property gets the value
unescaped; if it fails, the last one is not asked. -/
theorem build_consults_factories_summary :
    (∃ property, (ofSettings none (summaryOf .decline)).numbered.build .strict =
        ⟨[.create 0 [] "a\\,b", .create 2 [] "a\\,b", .create 3 [] "a\\,b",
            .note (.overrides "FakeFactory(last)" "FakeFactory(first)" "SUMMARY"),
            .note (.built property.description)], .ok property⟩ ∧
        property.value = "a,b") ∧
      (ofSettings none (summaryOf .fail)).numbered.build .strict =
        ⟨[.create 0 [] "a\\,b", .create 2 [] "a\\,b"], .error (.factory "third")⟩ := by
  have hname (outcome : Factory.Outcome) :
      Text.upper ((latest? Setting.givenName? (summaryOf outcome)).getD "") = "SUMMARY" := by
    cases outcome <;> decide +kernel
  have hvalue (outcome : Factory.Outcome) :
      Text.trim ((latest? Setting.givenValue? (summaryOf outcome)).getD "") = "a\\,b" := by
    cases outcome <;> decide +kernel
  have hparameters (outcome : Factory.Outcome) :
      (summaryOf outcome).flatMap Setting.addedParameters = [] := rfl
  constructor
  · obtain ⟨-, -, -, -, hbuilt⟩ := build_consults_factories none (summaryOf .decline) .strict
    simp only [hname, hvalue, hparameters, ofFactories_summaryOf] at hbuilt
    exact ⟨_, (hbuilt (by decide +kernel)).1 _ rfl, by decide +kernel⟩
  · obtain ⟨-, -, -, hfault, -⟩ := build_consults_factories none (summaryOf .fail) .strict
    simp only [hname, hvalue, hparameters, ofFactories_summaryOf] at hfault
    exact hfault _ (List.mem_cons_of_mem _ List.mem_cons_self) _ rfl

end Builder

end ContentLine
