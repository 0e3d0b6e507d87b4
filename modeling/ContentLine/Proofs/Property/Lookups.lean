import ContentLine.Proofs.Property.Binding
import ContentLine.Proofs.Temporal.Acceptance

/-!
# What a registry is asked for

Over a history of date properties that share one registry, the registry is asked for a zone at two
kinds of moments only. A text that is set is looked up if it is the literal of a local time, under
the first TZID parameter of that moment or else under the default; a text of any other form, and one
with a number out of range, is not looked up. A property that is read is looked up under the first
TZID parameter of that moment, if it stores anything and has one. Nothing is remembered from one
question to the next, and nothing else asks.

## Main definitions

* `Action.Asks`: the events of an action are those of the questions to a registry.
* `Temporal.asks`, `DateProperty.asks`, `Property.Operation.asks`: the identifiers that setting a
  text, reading a property and an operation ask for.
* `Property.trace`, `Property.asked`: the events of a history, and the identifiers it asks for.
* `ZoneRegistry.Records`: a registry records every question once.

## Main results

* `Temporal.asks_parse`, `DateProperty.asks_read`, `Property.Operation.asks_run`: texts, properties
  and operations ask for just these identifiers.
* `Property.lookups_of_history`: the questions that a registry records over a history.
-/

namespace ContentLine

/-! ## Questions of actions -/

namespace Action

variable {α β : Type} {registry : ZoneRegistry} {leniency : Leniency}

/-- The events of an action are those of asking a registry for identifiers, one after the other. -/
def Asks (registry : ZoneRegistry) (leniency : Leniency) (x : Action α)
    (identifiers : List String) : Prop :=
  x.events = identifiers.flatMap fun tzid => (registry.resolve leniency tzid).events

theorem Asks.nothing (result : Except Fault α) : Asks registry leniency ⟨[], result⟩ [] := rfl

theorem Asks.resolve (tzid : String) :
    Asks registry leniency (registry.resolve leniency tzid) [tzid] := by
  rw [Asks, List.flatMap_singleton]

/-- What follows a result asks after what gave it; nothing follows a fault. -/
theorem Asks.bind {x : Action α} {f : α → Action β} {first later : List String}
    (hx : Asks registry leniency x first) (hf : ∀ a, Asks registry leniency (f a) later) :
    Asks registry leniency (x >>= f) (first ++ if x.result.isOk then later else []) := by
  rcases x with ⟨events, result⟩
  obtain rfl : events = _ := hx
  cases result with
  | error fault =>
    change _ = List.flatMap _ (first ++ [])
    rw [bind_error, List.append_nil]
  | ok a =>
    have hlater : (f a).events = _ := hf a
    rw [bind_ok, hlater]
    exact List.flatMap_append.symm

/-- What follows asks for nothing. -/
theorem Asks.andThen {x : Action α} {f : α → Action β} {identifiers : List String}
    (hx : Asks registry leniency x identifiers) (hf : ∀ a, Asks registry leniency (f a) []) :
    Asks registry leniency (x >>= f) identifiers := by
  have hbind := hx.bind hf
  rwa [ite_self, List.append_nil] at hbind

end Action

namespace ZoneRegistry

/-- Under a serial number, the registry records each question that it is asked once and no other. -/
def Records (serial : Nat) (registry : ZoneRegistry) : Prop :=
  ∀ leniency tzid,
    (registry.resolve leniency tzid).events.filterMap (Event.lookupOf? serial) = [tzid]

/-- A registry that does not ask itself records its questions if they are made events. -/
theorem records_recorded {serial : Nat} {registry : ZoneRegistry}
    (h : ∀ leniency tzid,
      (registry.resolve leniency tzid).events.filterMap (Event.lookupOf? serial) = []) :
    (registry.recorded serial).Records serial := by
  intro leniency tzid
  have hevents : ((registry.recorded serial).resolve leniency tzid).events =
      .lookup serial tzid :: (registry.resolve leniency tzid).events := rfl
  have hown : (Event.lookup serial tzid).lookupOf? serial = some tzid := if_pos rfl
  rw [hevents, List.filterMap_cons_some hown, h]

/-- A recorded table records its questions. -/
theorem records_table (serial : Nat) (zones : List (String × Zone)) (defaultTzid : String) :
    ((table zones defaultTzid).recorded serial).Records serial := by
  apply records_recorded
  intro leniency tzid
  dsimp only [table]
  cases zones.lookup tzid <;> rfl

end ZoneRegistry

/-- Among the events of questions to a registry that records them are just these questions. -/
theorem Action.Asks.filterMap_lookupOf? {α : Type} {registry : ZoneRegistry}
    {leniency : Leniency} {serial : Nat} {x : Action α} {identifiers : List String}
    (hx : x.Asks registry leniency identifiers) (hrecords : registry.Records serial) :
    x.events.filterMap (Event.lookupOf? serial) = identifiers := by
  have hevents : x.events = _ := hx
  rw [hevents, List.filterMap_flatMap]
  calc identifiers.flatMap
        (fun tzid => (registry.resolve leniency tzid).events.filterMap (Event.lookupOf? serial))
    _ = identifiers.flatMap fun tzid => [tzid] := by simp only [hrecords leniency]
    _ = identifiers := List.flatMap_singleton' identifiers

/-! ## Texts -/

/-- A text is that of a local time exactly if its form is and the numbers are in range. -/
theorem isLocalText_iff_ofDigits {text : List Char} :
    IsLocalText text ↔ ∃ day time wall, Literal.read? text = some (.floating day time) ∧
      LocalTime.ofDigits day time = .ok wall := by
  rw [isLocalText_iff]
  constructor
  · rintro ⟨wall, hwall⟩
    obtain ⟨rfl, hwhole⟩ := LocalTime.writtenAs_iff.mp hwall
    exact ⟨_, _, wall, Temporal.read?_wall wall,
      LocalTime.ofDigits_eq_ok_iff.mpr ⟨rfl, rfl, hwhole⟩⟩
  · rintro ⟨day, time, wall, hform, hwall⟩
    obtain ⟨-, -, rfl⟩ := Literal.read?_eq_floating_iff.mp hform
    obtain ⟨rfl, rfl, hwhole⟩ := LocalTime.ofDigits_eq_ok_iff.mp hwall
    exact ⟨wall, LocalTime.writtenAs_iff.mpr ⟨rfl, hwhole⟩⟩

instance : DecidablePred IsLocalText := fun text =>
  match hform : Literal.read? text with
  | some (.floating day time) =>
    match hwall : LocalTime.ofDigits day time with
    | .ok wall => isTrue (isLocalText_iff_ofDigits.mpr ⟨day, time, wall, hform, hwall⟩)
    | .error fault => isFalse (by simp [isLocalText_iff_ofDigits, hform, hwall])
  | some (.date day) => isFalse (by simp [isLocalText_iff_ofDigits, hform])
  | some (.utc day time) => isFalse (by simp [isLocalText_iff_ofDigits, hform])
  | none => isFalse (by simp [isLocalText_iff_ofDigits, hform])

namespace Temporal

/-- The identifiers that setting a text asks for: that of the zone that a local time is bound to. -/
def asks (registry : ZoneRegistry) (tzid : Option String) (text : String) : List String :=
  if IsLocalText text.toList then [tzid.getD registry.defaultTzid] else []

/-- A text is looked up exactly if it is that of a local time, once. -/
theorem asks_parse (registry : ZoneRegistry) (leniency : Leniency) (tzid : Option String)
    (text : String) :
    (parse registry leniency tzid text).Asks registry leniency (asks registry tzid text) := by
  unfold asks
  by_cases hlocal : IsLocalText text.toList
  · obtain ⟨day, time, wall, hform, hwall⟩ := isLocalText_iff_ofDigits.mp hlocal
    rw [if_pos hlocal, parse_of_floating hform, hwall]
    exact (Action.Asks.resolve _).andThen fun _ => .nothing _
  · rw [if_neg hlocal]
    -- Only the form of a local time goes on to a question, and its numbers are not in range.
    rw [isLocalText_iff_ofDigits] at hlocal
    unfold parse
    split
    next day time hform =>
      split
      next wall hwall => exact absurd ⟨day, time, wall, hform, hwall⟩ hlocal
      next => exact .nothing _
    next => exact .nothing _
    next => split <;> exact .nothing _
    next => split <;> exact .nothing _
    next => exact .nothing _

end Temporal

/-! ## Date properties -/

namespace DateProperty

variable {registry : ZoneRegistry} {property a b : DateProperty}

/-- The identifiers that reading a property asks for: the first TZID, if anything is stored. -/
def asks (property : DateProperty) : List String :=
  match property.stored with
  | none => []
  | some _ => property.tzid.toList

/-- The identifiers that reading two properties asks for, the second only if the first can be read.
-/
def asksOfBoth (leniency : Leniency) (first second : DateProperty) : List String :=
  first.asks ++ if (first.read leniency).result.isOk then second.asks else []

theorem asks_setValue (hregistry : property.registry = registry) (leniency : Leniency)
    (text : String) :
    (property.setValue leniency text).Asks registry leniency
      (Temporal.asks registry property.tzid text) := by
  subst hregistry
  rw [setValue]
  by_cases hempty : text = ""
  · subst hempty
    rw [if_pos rfl]
    have hnot : ¬IsLocalText "".toList := by decide +kernel
    rw [Temporal.asks, if_neg hnot]
    exact .nothing _
  · rw [if_neg hempty]
    exact (Temporal.asks_parse _ _ _ _).andThen fun _ => .nothing _

theorem asks_read (hregistry : property.registry = registry) (leniency : Leniency) :
    (property.read leniency).Asks registry leniency property.asks := by
  subst hregistry
  rw [read, asks]
  cases property.stored with
  | none => exact .nothing _
  | some temporal =>
    cases property.tzid with
    | none => exact .nothing _
    | some tzid =>
      -- The view is taken after the question, and asks nothing itself.
      apply (Action.Asks.resolve tzid).andThen
      intro zone
      exact Action.Asks.andThen (.nothing _) fun _ => .nothing _

theorem asks_agrees (ha : a.registry = registry) (hb : b.registry = registry)
    (leniency : Leniency) :
    (a.agrees leniency b).Asks registry leniency (asksOfBoth leniency a b) := by
  apply (asks_read ha leniency).bind
  intro readingA
  exact (asks_read hb leniency).andThen fun _ => .nothing _

theorem asks_key (hregistry : property.registry = registry) (leniency : Leniency) :
    (property.key leniency).Asks registry leniency property.asks :=
  (asks_read hregistry leniency).andThen fun _ => .nothing _

end DateProperty

/-! ## Properties and operations on them -/

namespace Property

variable {registry : ZoneRegistry} {leniency : Leniency}

/-- The identifiers that reading a property asks for. -/
def asks : Property → List String
  | literal _ => []
  | dated property => property.asks

/-- The identifiers that comparing two properties asks for. A property restricted to UTC is read
before one that is not, and else the first before the second. -/
def asksOfBoth (leniency : Leniency) : Property → Property → List String
  | dated a, dated b =>
    if a.kind = .any ∧ b.kind = .utcOnly then DateProperty.asksOfBoth leniency b a
    else DateProperty.asksOfBoth leniency a b
  | _, _ => []

/-- The identifiers that a change of a property asks for: those of the text that is set. -/
def asksOfChange : Property → Change → List String
  | dated property, .setValue text => Temporal.asks property.registry property.tzid text
  | _, _ => []

/-- The identifiers that a question to properties asks for. -/
def Question.asks (leniency : Leniency) (before : List Property) : Question → List String
  | .read position | .key position => before[position]?.elim [] Property.asks
  | .equal first second =>
    match before[first]?, before[second]? with
    | some a, some b => a.asksOfBoth leniency b
    | _, _ => []
  | .validate _ => []

/-- The identifiers that an operation on properties asks for. -/
def Operation.asks (leniency : Leniency) (before : List Property) : Operation → List String
  | .create (.date _) _ parameters text registry =>
    Temporal.asks registry
      ((Parameter.first? Parameter.tzidName parameters).map (·.value)) text
  | .change position edit => before[position]?.elim [] (asksOfChange · edit)
  | .ask question => question.asks leniency before
  | .create (.literal _) .. | .copy _ => []

/-- A date property resolves zones by the given registry. -/
def ResolvesBy (registry : ZoneRegistry) : Property → Prop
  | literal _ => True
  | dated property => property.registry = registry

/-- An operation brings in no registry but the given one. -/
def Operation.UsesOnly (registry : ZoneRegistry) : Operation → Prop
  | .create _ _ _ _ given => given = registry
  | .change _ (.setRegistry given) => given = registry
  | .change .. | .copy _ | .ask _ => True

/-- A registry that an operation gives to a property is the one that it uses. -/
theorem Operation.UsesOnly.eq_of_installs? {operation : Operation}
    (h : operation.UsesOnly registry) {before : List Property} {position : Nat}
    {given : ZoneRegistry} (hgiven : operation.installs? leniency before position = some given) :
    given = registry := by
  cases operation with
  | create kind name parameters text own =>
    obtain ⟨-, hown⟩ := Option.ite_none_right_eq_some.mp hgiven
    exact (Option.some.inj hown).symm.trans h
  | copy source => cases hgiven
  | ask question => cases hgiven
  | change target edit =>
    cases edit with
    | setRegistry own =>
      obtain ⟨-, hown⟩ := Option.ite_none_right_eq_some.mp hgiven
      exact (Option.some.inj hown).symm.trans h
    | setValue | store | addParameter | replaceParameter | removeParameters => cases hgiven

theorem asks_read {property : Property} (h : property.ResolvesBy registry) :
    (property.read leniency).Asks registry leniency property.asks := by
  cases property with
  | literal property => exact .nothing _
  | dated property => exact DateProperty.asks_read h leniency

theorem asks_key {property : Property} (h : property.ResolvesBy registry) :
    (property.key leniency).Asks registry leniency property.asks := by
  cases property with
  | literal property => exact .nothing _
  | dated property => exact DateProperty.asks_key h leniency

theorem asks_agrees {a b : Property} (ha : a.ResolvesBy registry) (hb : b.ResolvesBy registry) :
    (a.agrees leniency b).Asks registry leniency (a.asksOfBoth leniency b) := by
  match a, b with
  | literal a, literal b => exact .nothing _
  | literal a, dated b => exact .nothing _
  | dated a, literal b => exact .nothing _
  | dated a, dated b =>
    rw [agrees, asksOfBoth]
    split
    · exact DateProperty.asks_agrees hb ha leniency
    · exact DateProperty.asks_agrees ha hb leniency

theorem asks_change {property : Property} (h : property.ResolvesBy registry) (edit : Change) :
    (property.change leniency edit).Asks registry leniency (property.asksOfChange edit) := by
  cases property with
  | literal property => cases edit <;> exact .nothing _
  | dated property =>
    cases edit with
    | setValue text =>
      have hregistry : property.registry = registry := h
      rw [asksOfChange, hregistry]
      exact (DateProperty.asks_setValue hregistry leniency text).andThen fun _ => .nothing _
    | store | setRegistry | addParameter | replaceParameter | removeParameters =>
      exact .nothing _

/-- A question asks the shared registry of the properties for just the identifiers it should. -/
theorem Question.asks_run {before : List Property}
    (hbefore : ∀ property ∈ before, property.ResolvesBy registry) (question : Question) :
    (question.run leniency before).Asks registry leniency (question.asks leniency before) := by
  cases question with
  | read position =>
    rw [run, asks]
    cases hproperty : before[position]? with
    | none => exact .nothing _
    | some property =>
      exact (asks_read (hbefore _ (List.mem_of_getElem? hproperty))).andThen fun _ => .nothing _
  | key position =>
    rw [run, asks]
    cases hproperty : before[position]? with
    | none => exact .nothing _
    | some property =>
      exact (asks_key (hbefore _ (List.mem_of_getElem? hproperty))).andThen fun _ => .nothing _
  | validate position =>
    rw [run]
    cases before[position]? with
    | none => exact .nothing _
    | some property => cases hvalid : property.validate <;> simp only [hvalid] <;> exact .nothing _
  | equal first second =>
    rw [run, asks]
    cases hfirst : before[first]? with
    | none => exact .nothing _
    | some a =>
      cases hsecond : before[second]? with
      | none => exact .nothing _
      | some b =>
        have ha := hbefore a (List.mem_of_getElem? hfirst)
        have hb := hbefore b (List.mem_of_getElem? hsecond)
        exact (asks_agrees ha hb).andThen fun _ => .nothing _

/-- An operation asks the shared registry of the properties for just the identifiers it should. -/
theorem Operation.asks_run {before : List Property}
    (hbefore : ∀ property ∈ before, property.ResolvesBy registry) {operation : Operation}
    (huses : operation.UsesOnly registry) :
    (operation.run leniency before).Asks registry leniency (operation.asks leniency before) := by
  cases operation with
  | create kind name parameters text given =>
    obtain rfl : given = registry := huses
    cases kind with
    | literal kind => exact .nothing _
    | date kind =>
      have hcreate : (DateProperty.create leniency kind name parameters text given).Asks given
          leniency
          (Temporal.asks given (DateProperty.empty kind name parameters given).tzid text) :=
        DateProperty.asks_setValue rfl leniency text
      exact (hcreate.andThen fun _ => .nothing _).andThen fun _ => .nothing _
  | copy position =>
    rw [run]
    cases before[position]? <;> exact .nothing _
  | change position edit =>
    rw [run, asks]
    cases hproperty : before[position]? with
    | none => exact .nothing _
    | some property =>
      have hregistry := hbefore property (List.mem_of_getElem? hproperty)
      exact (asks_change hregistry edit).andThen fun _ => .nothing _
  | ask question => exact (question.asks_run hbefore).andThen fun _ => .nothing _

/-! ## Histories -/

/-- The properties after a history resolve zones by the one registry that the history uses. -/
theorem resolvesBy_of_mem_after {history : List (Leniency × Operation)}
    (hhistory : ∀ step ∈ history, step.2.UsesOnly registry) :
    ∀ property ∈ after history, property.ResolvesBy registry := by
  intro property hproperty
  cases property with
  | literal property => trivial
  | dated property =>
    obtain ⟨position, hposition⟩ := List.getElem?_of_mem hproperty
    apply forall_after _ hposition
    -- The registry of a property is given to it by the operation, or was that of one before.
    intro step hstep before position property hbefore hfrom
    rcases installs?_or_kept hfrom with hinstalls | ⟨-, old, hold, hkept⟩
    · exact (hhistory step hstep).eq_of_installs? hinstalls
    · show property.registry = registry
      rw [← hkept]
      exact hbefore _ old hold

/-- The events of a history, in order. -/
def trace : List (Leniency × Operation) → List Event
  | [] => []
  | (leniency, operation) :: earlier =>
    trace earlier ++ (operation.run leniency (after earlier)).events

/-- The identifiers that a history asks for, in order, each operation by the properties of its own
moment. -/
def asked : List (Leniency × Operation) → List String
  | [] => []
  | (leniency, operation) :: earlier => asked earlier ++ operation.asks leniency (after earlier)

/-- Over any history of properties that share one recording registry, the registry is asked for just
the identifiers that its operations should ask for, in order. What is computed from a property
without an action, such as its value, whether it is UTC and its parameters, has no events at all. -/
theorem lookups_of_history {serial : Nat} (hrecords : registry.Records serial)
    {history : List (Leniency × Operation)}
    (hhistory : ∀ step ∈ history, step.2.UsesOnly registry) :
    (trace history).filterMap (Event.lookupOf? serial) = asked history := by
  -- Each operation asks by the properties that the earlier ones leave, which share the registry.
  induction history with
  | nil => rfl
  | cons step earlier ih =>
    rcases step with ⟨leniency, operation⟩
    have huses : operation.UsesOnly registry := hhistory _ List.mem_cons_self
    have hearlier : ∀ step ∈ earlier, step.2.UsesOnly registry := by
      intro step hstep
      exact hhistory step (List.mem_cons_of_mem _ hstep)
    have hasks : (operation.run leniency (after earlier)).Asks registry leniency
        (operation.asks leniency (after earlier)) :=
      operation.asks_run (resolvesBy_of_mem_after hearlier) huses
    rw [trace, asked, List.filterMap_append, ih hearlier, hasks.filterMap_lookupOf? hrecords]

/-- The registry of a table with one zone, which is also the default, as recorded under 7. -/
def oneZone : ZoneRegistry :=
  (ZoneRegistry.table [("Home", .fixed 1 3600 none)] "Home").recorded 7

/-- A start is set at noon and compared with a stamp in UTC, after its zone has become one that is
not in the table; then it is set anew, first with that zone and then with none. The operations are
listed the latest first. -/
def movedOutOfTable : List (Leniency × Operation) :=
  [(.strict, .change 0 (.setValue "20240701T130000")),
    (.strict, .change 0 (.removeParameters "tzid")),
    (.strict, .change 0 (.setValue "20240701T130000")),
    (.strict, .ask (.equal 0 1)),
    (.strict, .ask (.validate 0)),
    (.strict, .change 0 (.setValue "noon")),
    (.strict, .ask (.read 0)),
    (.strict, .change 0 (.replaceParameter (Parameter.of "tzid" "Nowhere"))),
    (.strict, .create (.date .utcOnly) "dtstamp" [] "20240701T100000Z" oneZone),
    (.strict,
      .create (.date .any) "dtstart" [Parameter.of "tzid" "Home"] "20240701T120000" oneZone)]

/-- The registry is asked when the start is created, read, compared and twice set to a literal. -/
theorem lookups_of_movedOutOfTable :
    (trace movedOutOfTable).filterMap (Event.lookupOf? 7) =
      ["Home", "Nowhere", "Nowhere", "Nowhere", "Home"] := by
  have huses : ∀ step ∈ movedOutOfTable, step.2.UsesOnly oneZone := by
    simp [movedOutOfTable, Operation.UsesOnly]
  have hasked : asked movedOutOfTable = ["Home", "Nowhere", "Nowhere", "Nowhere", "Home"] := by
    decide +kernel
  exact (lookups_of_history (ZoneRegistry.records_table 7 _ _) huses).trans hasked

end Property

end ContentLine
