import ContentLine.Proofs.Builder.Leniency
import ContentLine.Proofs.Session.Scope

/-!
# Reading after a block

A property that is built inside a block can be read after the block is left. Its zone is then looked
for again, with the switches as they were outside. A date, a time in UTC and a local time without a
TZID parameter are read without a zone being looked for, and a name of the database still has its
zone. Only a Windows name that the database does not have is resolved no longer, and the property
cannot be read then.

## Main definitions

* `Zone.IsWindowsOnly`: a Windows name that the database does not have.

## Main results

* `Builder.setTo_of_build`: a date property that is built is set to the value of the builder.
* `Session.Visit.Scoped.isOn_of_block`: a command in a block is run with the switches of the block
  on.
* `Session.Visit.Scoped.read_of_build`: what is built can be read where it is built.
* `Session.read_after_block`: what a property that is built in a block reads as after it.
-/

namespace ContentLine

/-! ## Windows names alone -/

/-- An identifier is a Windows name and not also that of UTC, the only one that a database has. -/
def Zone.IsWindowsOnly (tzid : String) : Prop :=
  (Zone.ofWindowsName? tzid).isSome = true ∧ tzid ≠ "UTC"

section Database

variable [ZoneDatabase] (hutc : ZoneDatabase.KnowsUtc)

include hutc

theorem Zone.IsWindowsOnly.isName_eq_false {tzid : String} (h : Zone.IsWindowsOnly tzid) :
    ZoneDatabase.isName tzid = false :=
  Bool.eq_false_iff.mpr fun hname => h.2 (hutc.eq_utc_of_isName tzid h.1 hname)

/-- What is resolved though the database does not have it is a Windows name alone. -/
theorem ZoneRegistry.isWindowsOnly_of_resolve {registry : ZoneRegistry}
    (hregistry : registry.IsDatabase) {leniency : Leniency} {tzid : String} {zone : Zone}
    (h : (registry.resolve leniency tzid).result = .ok zone)
    (hname : ZoneDatabase.isName tzid = false) : Zone.IsWindowsOnly tzid := by
  refine ⟨?_, ?_⟩
  · -- Without an entry among the Windows names the database is asked for the identifier itself.
    cases hkey : Zone.ofWindowsName? tzid with
    | some key => rfl
    | none =>
      have hself : keyOf leniency tzid = tzid := by
        rw [keyOf, hkey]
        exact ite_self tzid
      rw [hregistry, result_resolveInDatabase, hself, find_of_not_isName hname] at h
      cases h
  · rintro rfl
    rw [hutc.isName_utc] at hname
    cases hname

end Database

/-! ## What is built -/

namespace Builder

variable [ZoneDatabase] {builder : Builder} {leniency : Leniency} {property : DateProperty}

/-- A date property that is built has the registry of the builder and is set to its value, whatever
factory created it. -/
theorem setTo_of_build (h : (builder.build leniency).result = .ok (.dated property)) :
    property.registry = builder.registry.getD .standard ∧
      property.SetTo leniency builder.value := by
  obtain ⟨found, -, h⟩ := Action.result_bind_eq_ok_iff.mp h
  cases found with
  | none =>
    -- A property without a factory is no date property.
    change (builder.buildExtra leniency).result = .ok (.dated property) at h
    rw [buildExtra] at h
    split at h <;> cases h
  | some created =>
    obtain ⟨finished, hfinished, h⟩ := Action.result_bind_eq_ok_iff.mp h
    obtain rfl : finished = .dated property := by
      obtain ⟨-, -, h⟩ := Action.result_bind_eq_ok_iff.mp h
      exact Except.ok.inj h
    cases created with
    | literal literal =>
      rw [finish] at hfinished
      split at hfinished <;> cases hfinished
    | dated old =>
      obtain ⟨bound, hbound, heq⟩ := Action.result_bind_eq_ok_iff.mp hfinished
      obtain rfl : bound = property := Property.dated.inj (Except.ok.inj heq)
      obtain ⟨stored, houtcome, rfl⟩ := Property.setValue_eq_ok_iff.mp hbound
      exact ⟨rfl, houtcome⟩

end Builder

/-- A value that is not empty is stored. -/
theorem DateProperty.exists_stored {property : DateProperty} (h : property.value ≠ "") :
    ∃ value, property.stored = some value := by
  cases hstored : property.stored with
  | none => exact absurd (by rw [DateProperty.value, hstored]) h
  | some value => exact ⟨value, rfl⟩

/-! ## After the block -/

namespace Session

section Runs

variable [ZoneDatabase] {start : Workspace} {mode : Leniency.Mode} {propagate : Bool}
  {steps : List Step} {visit : Visit} {id : String} {target : Option String}

/-- A command that a run of a block comes to is run inside the block, with the switches of its mode
turned on. -/
theorem Visit.Scoped.isOn_of_block {command : Command}
    (h : visit.Scoped start.leniency [.block mode propagate steps])
    (hstep : visit.step = .command command) {switch : Leniency.Switch}
    (hswitch : start.leniency.isOn switch = true ∨ mode.Enables switch) :
    visit.after.leniency.isOn switch = true := by
  have hmode : mode ∈ visit.modes := (hstep ▸ h.standsIn).mem_modes_of_command
  rw [h.after_eq, h.before_eq, Leniency.isOn_within]
  exact hswitch.imp_right fun henables => ⟨mode, hmode, henables⟩

/-- Where a run comes to a command that builds, it answers with a property exactly if the builder
builds that there. -/
theorem Visit.Scoped.attempt_build_eq_ok_iff {outside : Leniency} (h : visit.Scoped outside steps)
    (hstep : visit.step = .command (.build id target)) {builder : Builder}
    (hbuilder : visit.before.builder? id = .ok builder) {property : Property} :
    visit.attempt = .ok (.property property) ↔
      (builder.build visit.after.leniency).result = .ok property := by
  have hanswer := h.step_eq
  rw [hstep, Workspace.step_command] at hanswer
  have hattempt : visit.attempt = (builder.build visit.after.leniency).result.map .property := by
    rw [h.after_eq, ← Workspace.answer_build hbuilder target, hanswer]
  rw [hattempt]
  cases (builder.build visit.after.leniency).result with
  | error fault => exact iff_of_false (nomatch ·) (nomatch ·)
  | ok built => simp [Except.map]

/-- A date property with a value that a run answers with there has a registry of the database, is
set to the value of the builder, and can be read. -/
theorem Visit.Scoped.read_of_build {outside : Leniency} (h : visit.Scoped outside steps)
    (hstep : visit.step = .command (.build id target)) {builder : Builder}
    (hbuilder : visit.before.builder? id = .ok builder)
    (hregistry : ∀ registry ∈ builder.registry, registry.IsDatabase) {property : DateProperty}
    (hbuild : visit.attempt = .ok (.property (.dated property))) (hvalue : property.value ≠ "") :
    property.registry.IsDatabase ∧ property.SetTo visit.after.leniency builder.value ∧
      ∃ value, property.stored = some value ∧
        (property.read visit.after.leniency).result = .ok (some value.reading) := by
  obtain ⟨hown, hset⟩ :=
    Builder.setTo_of_build ((h.attempt_build_eq_ok_iff hstep hbuilder).mp hbuild)
  obtain ⟨value, hstored⟩ := DateProperty.exists_stored hvalue
  refine ⟨hown ▸ Builder.isDatabase_registry hregistry, hset, value, hstored, ?_⟩
  rw [hset.read, hstored]
  rfl

/-- A property that is built wherever a run comes to inside a block, where the switches of the block
are on, can be read there. After the block, however it ended, the switches are as they were before
it, and the property reads as the same date or moment, unless Windows names are resolved no longer
and its TZID parameter is a Windows name that the database does not have; then it cannot be read,
and the fault names that identifier. -/
theorem read_after_block (hutc : ZoneDatabase.KnowsUtc)
    (hvisit : visit ∈ (start.trace (.block mode propagate steps)).visits)
    (hstep : visit.step = .command (.build id target)) {builder : Builder}
    (hbuilder : visit.before.builder? id = .ok builder)
    (hregistry : ∀ registry ∈ builder.registry, registry.IsDatabase) {property : DateProperty}
    (hbuild : visit.attempt = .ok (.property (.dated property))) (hvalue : property.value ≠ "") :
    let inside := visit.after.leniency
    let outside := (start.step (.block mode propagate steps)).1.leniency
    (∀ switch, mode.Enables switch → inside.isOn switch = true) ∧ outside = start.leniency ∧
      ∃ reading, (property.read inside).result = .ok (some reading) ∧
        ((∀ tzid ∈ property.tzid, Zone.IsWindowsOnly tzid → outside.windowsZones = true) →
          ∃ later, (property.read outside).result = .ok (some later) ∧
            reading.SameMoment later) ∧
        ∀ tzid ∈ property.tzid, Zone.IsWindowsOnly tzid → outside.windowsZones = false →
          (property.read outside).result = .error (.zone (.notInDatabase tzid)) := by
  intro inside outside
  have hscoped := (start.scoped_trace _).visits visit hvisit
  have houtside : outside = start.leniency := start.leniency_step _
  refine ⟨fun switch henables => hscoped.isOn_of_block hstep (Or.inr henables), houtside, ?_⟩
  obtain ⟨hdatabase, hset, value, hstored, hread⟩ :=
    hscoped.read_of_build hstep hbuilder hregistry hbuild hvalue
  refine ⟨value.reading, hread, ?_, ?_⟩
  · intro hwindows
    refine hset.read_later hutc hdatabase hstored fun tzid htzid => ?_
    cases hname : ZoneDatabase.isName tzid with
    | true => exact Or.inr rfl
    | false =>
      -- Then it is a Windows name, which is resolved outside and hence also inside.
      obtain ⟨wall, zone, -, hzone⟩ := hset.zoned_of_tzid hstored htzid
      have hafter : outside.windowsZones = true :=
        hwindows tzid htzid (ZoneRegistry.isWindowsOnly_of_resolve hutc hdatabase hzone hname)
      have hinside : inside.isOn .windowsZones = true :=
        hscoped.isOn_of_block hstep (Or.inl (houtside ▸ hafter))
      exact Or.inl (hafter.trans hinside.symm)
  · intro tzid htzid hwindows hafter
    exact DateProperty.read_later_of_not_isName hdatabase hstored htzid
      (hwindows.isName_eq_false hutc) hafter

end Runs

/-- A block for a lenient producer, in which a start at nine by a zone identifier is built with a
registry of its own. -/
def lenientStart (tzid : String) : Step :=
  .block exchangeMode false
    [.command (.registry "zones" (.database (some "Europe/Berlin"))),
      .command (.builder "b" none),
      .command (.configure "b" [.factories [.standard], .plain (.name "dtstart"),
        .plain (.parameter (Parameter.of "tzid" tzid)), .plain (.value "20230615T090000"),
        .registry (some "zones")]),
      .command (.build "b" none)]

/-- The builder of that start. -/
def lenientStartBuilder (tzid : String) : Builder :=
  Builder.ofSettings none
    [.factories Factory.standard, .name "dtstart", .parameter (Parameter.of "tzid" tzid),
      .value "20230615T090000",
      .registry (some ((ZoneRegistry.database "Europe/Berlin").recorded 1))]

theorem isDatabase_registry_lenientStartBuilder (tzid : String) :
    ∀ registry ∈ (lenientStartBuilder tzid).registry, registry.IsDatabase := by
  rintro _ ⟨⟩
  exact (ZoneRegistry.isDatabase_database "Europe/Berlin").recorded 1

/-- The run of the block comes to the command that builds the start. -/
theorem exists_visit_lenientStart (tzid : String) :
    ∃ visit ∈ (Workspace.empty.trace (lenientStart tzid)).visits,
      visit.step = .command (.build "b" none) ∧
        visit.before.builder? "b" = .ok (lenientStartBuilder tzid) ∧
        visit.before.leniency = .enter .strict exchangeMode := by
  refine ⟨_, .tail _ (.tail _ (.tail _ (.tail _ (.head _)))), ?_, ?_, ?_⟩
  · rfl
  · rfl
  · rfl

/-- What can be seen of the result decides what the run answers to that command. -/
theorem exists_dated_lenientStart (tzid : String)
    (h : ((lenientStartBuilder tzid).build (.enter .strict exchangeMode)).result.toOption.map
      (fun property => (property.kind, property.parameters, property.value)) =
        some (.date .any, [Parameter.of Parameter.tzidName tzid], "20230615T090000")) :
    ∃ visit ∈ (Workspace.empty.trace (lenientStart tzid)).visits, ∃ property,
      visit.step = .command (.build "b" none) ∧
        visit.before.builder? "b" = .ok (lenientStartBuilder tzid) ∧
        visit.attempt = .ok (.property (.dated property)) ∧
        property.tzid = some tzid ∧ property.value = "20230615T090000" := by
  obtain ⟨property, hbuild, hparameters, hvalue⟩ := Builder.exists_dated_of_result .any h
  obtain ⟨visit, hvisit, hstep, hbuilder, hinside⟩ := exists_visit_lenientStart tzid
  have hscoped := (Workspace.empty.scoped_trace _).visits visit hvisit
  rw [← hinside, ← hscoped.after_eq, ← hscoped.attempt_build_eq_ok_iff hstep hbuilder] at hbuild
  exact ⟨visit, hvisit, property, hstep, hbuilder, hbuild, DateProperty.tzid_of hparameters, hvalue⟩

/-- In a block for a lenient producer, nine in UTC is read by the clock of one zone of UTC, and
after the block by that of another; the moment is the same. -/
theorem read_after_block_utcStart :
    let outside := (Workspace.empty.step (lenientStart "UTC")).1.leniency
    ∃ visit ∈ (Workspace.empty.trace (lenientStart "UTC")).visits, ∃ property reading later,
      visit.step = .command (.build "b" none) ∧
        visit.attempt = .ok (.property (.dated property)) ∧ property.tzid = some "UTC" ∧
        property.value = "20230615T090000" ∧ visit.after.leniency.windowsZones = true ∧
        (property.read visit.after.leniency).result = .ok (some reading) ∧
        (property.read outside).result = .ok (some later) ∧ reading.SameMoment later := by
  intro outside
  obtain ⟨visit, hvisit, property, hstep, hbuilder, hbuild, htzid, hvalue⟩ :=
    exists_dated_lenientStart "UTC" (by decide +kernel)
  have hnonempty : property.value ≠ "" := hvalue.trans_ne (by decide)
  obtain ⟨hinside, -, reading, hreading, hlater, -⟩ :=
    read_after_block ZoneDatabase.knowsUtc_excerpt hvisit hstep hbuilder
      (isDatabase_registry_lenientStartBuilder "UTC") hbuild hnonempty
  obtain ⟨later, hread, hmoment⟩ := hlater fun tzid hmem hwindows => by
    obtain rfl : "UTC" = tzid := Option.some.inj (htzid.symm.trans hmem)
    exact absurd rfl hwindows.2
  have hproducer : exchangeMode.Enables .windowsZones := ⟨_, rfl, [], " 2010".toList, by decide⟩
  exact ⟨visit, hvisit, property, reading, later, hstep, hbuild, htzid, hvalue,
    hinside .windowsZones hproducer, hreading, hread, hmoment⟩

/-- In such a block a start by the Windows name of Western Europe can be built and read, and after
the block it cannot be read any more. -/
theorem not_read_after_block_berlinStart :
    let tzid := "W. Europe Standard Time"
    let outside := (Workspace.empty.step (lenientStart tzid)).1.leniency
    ∃ visit ∈ (Workspace.empty.trace (lenientStart tzid)).visits, ∃ property reading,
      visit.step = .command (.build "b" none) ∧
        visit.attempt = .ok (.property (.dated property)) ∧ property.tzid = some tzid ∧
        property.value = "20230615T090000" ∧
        (property.read visit.after.leniency).result = .ok (some reading) ∧
        (property.read outside).result = .error (.zone (.notInDatabase tzid)) := by
  intro tzid outside
  obtain ⟨visit, hvisit, property, hstep, hbuilder, hbuild, htzid, hvalue⟩ :=
    exists_dated_lenientStart tzid (by decide +kernel)
  have hscoped := (Workspace.empty.scoped_trace _).visits visit hvisit
  obtain ⟨hdatabase, -, value, hstored, hread⟩ :=
    hscoped.read_of_build hstep hbuilder (isDatabase_registry_lenientStartBuilder tzid) hbuild
      (hvalue.trans_ne (by decide))
  have hwindows : Zone.IsWindowsOnly tzid := ⟨by decide +kernel, by decide⟩
  have houtside : outside = .strict := Workspace.empty.leniency_step (lenientStart tzid)
  refine ⟨visit, hvisit, property, value.reading, hstep, hbuild, htzid, hvalue, hread, ?_⟩
  exact DateProperty.read_later_of_not_isName hdatabase hstored htzid
    (hwindows.isName_eq_false ZoneDatabase.knowsUtc_excerpt) (houtside ▸ rfl)

end Session

end ContentLine
