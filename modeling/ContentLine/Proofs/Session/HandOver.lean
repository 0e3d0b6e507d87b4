import ContentLine.Proofs.Builder.Rebuilding
import ContentLine.Proofs.Session.Frame
import Mathlib.Logic.Function.Basic

/-!
# Handing factories over

A list of factories that kinds are registered on stands for a map from names in upper case to kinds,
into which each registration writes. A builder that the list is handed over to takes the factories
that are on it then, and builds by that map, whatever happens to the list or to any copy of it
afterwards.

## Main definitions

* `Builder.withFactories`: a builder with other factories; what it stands for is the same.
* `Session.Registration`: a registration of a kind, as a command gives it.
* `Session.Directory`: a map from names in upper case to kinds; `Directory.register` writes into it.
* `Session.Directory.Lists`: a list of factories stands for a map.
* `Session.Registers`, `Session.Configures`: commands of which those that bind a list of factories,
  or a builder, are registrations, or settings other than factories.

## Main results

* `Session.Directory.Lists.register`: what a registration adds to the list, it writes into the map.
* `Session.factoryList_after_registers`: after registrations a list stands for the map of them.
* `Session.build_after_handOver`: what is built after a list of factories was handed over.
-/

namespace ContentLine

namespace Builder

/-- A setting that adds no factories. -/
def Setting.KeepsFactories : Setting → Prop
  | .factories _ => False
  | _ => True

/-- The builder with given factories in the place of its own. -/
def withFactories (factories : List Factory) (builder : Builder) : Builder :=
  { builder with factories }

@[simp] theorem name_withFactories (factories : List Factory) (builder : Builder) :
    (builder.withFactories factories).name = builder.name := rfl

/-- A builder stands for the same property of a kind whatever its factories are. -/
@[simp] theorem propertyOf_withFactories [ZoneDatabase] (factories : List Factory)
    (builder : Builder) (leniency : Leniency) (kind : Kind) :
    (builder.withFactories factories).propertyOf leniency kind =
      builder.propertyOf leniency kind := by
  cases kind with
  | literal kind => cases kind <;> rfl
  | date kind => rfl

@[simp] theorem propertyWithout_withFactories (factories : List Factory) (builder : Builder)
    (leniency : Leniency) :
    (builder.withFactories factories).propertyWithout leniency =
      builder.propertyWithout leniency := rfl

/-- Settings that add no factories leave those of a builder alone, and do the same to the rest of it
whichever they are. -/
theorem foldl_configure_withFactories {settings : List Setting}
    (h : ∀ setting ∈ settings, setting.KeepsFactories) (factories : List Factory)
    (builder : Builder) :
    settings.foldl configure (builder.withFactories factories) =
      (settings.foldl configure builder).withFactories factories := by
  induction settings generalizing builder with
  | nil => rfl
  | cons setting rest ih =>
    have hstep : (builder.withFactories factories).configure setting =
        (builder.configure setting).withFactories factories := by
      cases setting with
      | factories => exact (h _ List.mem_cons_self).elim
      | name | value | parameter | parameters | registry | line => rfl
    rw [List.foldl_cons, hstep]
    exact ih (fun other hother => h other (List.mem_cons_of_mem _ hother))
      (builder.configure setting)

/-- A property that a builder stands for is of the kind asked for and has the name of the
builder. -/
theorem kind_and_name_of_propertyOf [ZoneDatabase] {builder : Builder} {leniency : Leniency}
    {kind : Kind} {property : Property} (h : builder.propertyOf leniency kind = .ok property) :
    property.kind = kind ∧ property.name = builder.name := by
  cases kind with
  | literal kind => cases kind <;> cases h <;> exact ⟨rfl, rfl⟩
  | date kind =>
    obtain ⟨stored, -, rfl⟩ := propertyOf_date_eq_ok_iff.mp h
    exact ⟨rfl, rfl⟩

end Builder

namespace Session

/-! ## Registrations -/

/-- A registration of a kind on a list of factories. -/
inductive Registration where
  /-- Register the kind under several names. -/
  | decorate (names : List String) (kind : Kind)
  /-- Add the factory of one name and the kind. -/
  | add (name : String) (kind : Kind)

namespace Registration

/-- The names that are registered, each with the kind, in order. -/
def entries : Registration → List (String × Kind)
  | decorate names kind => names.map (·, kind)
  | add name kind => [(name, kind)]

/-- The command that registers on the list of a variable. -/
def command (id : String) : Registration → Command
  | decorate names kind => .register id names kind
  | add name kind => .addFactories id [.named name kind]

/-- A registration adds the factories of its entries to the list. -/
theorem factoryList_execute [ZoneDatabase] {workspace : Workspace} {id : String}
    {factories : List Factory} (h : workspace.factoryList? id = .ok factories)
    (registration : Registration) :
    (workspace.execute (registration.command id)).1.factoryList? id =
      .ok (factories ++ Factory.ofRegistrations registration.entries) := by
  have hrun : ((registration.command id).run workspace).result =
      .ok ⟨.number (factories ++ Factory.ofRegistrations registration.entries).length,
        some (id, .factories (factories ++ Factory.ofRegistrations registration.entries))⟩ := by
    cases registration with
    | decorate names kind =>
      simp only [command, Command.run, Action.result_bind, Action.result_lift, h, Except.bind,
        Factory.result_registerAll, Factory.forNames_eq, entries, Action.pure_def]
    | add name kind =>
      have hnamed : workspace.factoriesOf [.named name kind] =
          .ok (Factory.ofRegistrations [(name, kind)]) := rfl
      simp only [command, Command.run, Action.result_bind, Action.result_lift, h, Except.bind,
        Factory.result_registerAll, hnamed, entries, Action.pure_def]
  exact Workspace.get_execute hrun _ rfl

end Registration

/-! ## The map of registrations -/

/-- A map from names in upper case to kinds. -/
abbrev Directory : Type := String → Option Kind

namespace Directory

/-- The map without names. -/
def empty : Directory := fun _ => none

/-- Write a kind under a name in upper case, in the place of an earlier one. -/
def write (directory : Directory) (entry : String × Kind) : Directory :=
  Function.update directory (Text.upper entry.1) (some entry.2)

/-- Write the kind of a registration under each of its names. -/
def register (directory : Directory) (registration : Registration) : Directory :=
  registration.entries.foldl write directory

/-- The map that registrations write, one after the other. -/
def ofRegistrations (registrations : List Registration) : Directory :=
  registrations.foldl register empty

/-- Writing several entries leaves the last one of a name, or else what was there. -/
theorem foldl_write (directory : Directory) (entries : List (String × Kind)) (name : String) :
    entries.foldl write directory name = (Factory.lastKind? entries name).or (directory name) := by
  -- The map is general because it changes as the entries are written in turn.
  induction entries generalizing directory with
  | nil => rfl
  | cons entry rest ih =>
    obtain ⟨registered, kind⟩ := entry
    rw [List.foldl_cons, ih, Factory.lastKind?_cons, Option.or_assoc, write]
    by_cases hname : Text.upper registered = name
    · subst hname
      rw [Function.update_self, if_pos rfl, Option.some_or]
    · rw [Function.update_of_ne (Ne.symm hname), if_neg hname, Option.none_or]

variable [ZoneDatabase]

/-- A list of factories stands for a map: it comes from registrations, and what the map has under a
name is what the last of them gives it. -/
def Lists (directory : Directory) (factories : List Factory) : Prop :=
  ∃ entries, factories = Factory.ofRegistrations entries ∧
    ∀ name, directory name = Factory.lastKind? entries name

theorem Lists.empty : Directory.empty.Lists [] :=
  ⟨[], rfl, fun _ => rfl⟩

/-- What a registration adds to a list, it writes into the map that the list stands for. -/
theorem Lists.register {directory : Directory} {factories : List Factory}
    (h : directory.Lists factories) (registration : Registration) :
    (directory.register registration).Lists
      (factories ++ Factory.ofRegistrations registration.entries) := by
  obtain ⟨entries, rfl, hentries⟩ := h
  refine ⟨entries ++ registration.entries, (Factory.ofRegistrations_append _ _).symm,
    fun name => ?_⟩
  rw [Directory.register, foldl_write, hentries, Factory.lastKind?_append]

/-- A builder with a list of factories builds by the map that the list stands for. -/
theorem Lists.build {directory : Directory} {builder : Builder}
    (h : directory.Lists builder.factories) (hname : Text.upper builder.name = builder.name)
    (leniency : Leniency) :
    (builder.build leniency).result =
      match directory builder.name with
      | some kind => builder.propertyOf leniency kind
      | none => builder.propertyWithout leniency := by
  obtain ⟨entries, hfactories, hentries⟩ := h
  rw [hentries]
  exact builder.build_of_registrations leniency hfactories hname

end Directory

/-! ## Commands for a list and for a builder -/

/-- Commands of which those that bind the list of a variable register on it. -/
def Registers (id : String) : List Command → List Registration → Prop :=
  Gathers (fun command items => ∃ registration : Registration,
    command = registration.command id ∧ items = [registration]) id

/-- Commands of which those that bind the builder of a variable configure it with settings that add
no factories. -/
def Configures (id : String) : List Command → List Builder.Setting → Prop :=
  Gathers (fun command settings => command = .configure id (settings.map .plain) ∧
    ∀ setting ∈ settings, setting.KeepsFactories) id

theorem Registers.register {id : String} {commands : List Command} {later : List Registration}
    (registration : Registration) (h : Registers id commands later) :
    Registers id (registration.command id :: commands) (registration :: later) := by
  rw [← List.singleton_append]
  exact .own ⟨registration, rfl, rfl⟩ h

/-- The commands that fill the list of a variable with the factories of another list, and then
register on it. -/
def changedCopy (copy list : String) (changes : List Registration) : List Command :=
  .factoryList copy :: .addFactories copy [.stored list] :: changes.map (Registration.command copy)

theorem target_of_mem_changedCopy {copy list : String} {changes : List Registration}
    {command : Command} (h : command ∈ changedCopy copy list changes) :
    command.target? = some copy := by
  simp only [changedCopy, List.mem_cons, List.mem_map] at h
  rcases h with rfl | rfl | ⟨registration, -, rfl⟩
  · rfl
  · rfl
  · cases registration <;> rfl

namespace Workspace

variable {workspace : Workspace} {builder : Builder} {id : String}

/-- The variable of a list holds nothing else. -/
theorem lookup_of_factoryList {factories : List Factory}
    (h : workspace.factoryList? id = .ok factories) :
    workspace.bindings.lookup id = some (.factories factories) := by
  rw [factoryList?, get] at h
  cases hlookup : workspace.bindings.lookup id with
  | none =>
    rw [hlookup] at h
    cases h
  | some binding =>
    rw [hlookup] at h
    cases binding <;> cases h
    rfl

variable [ZoneDatabase]

/-- The factories of a list are those that are on it. -/
theorem factoriesOf_stored {factories : List Factory}
    (h : workspace.factoryList? id = .ok factories) :
    workspace.factoriesOf [.stored id] = .ok factories := by
  have hsource : workspace.factoriesOfSource (.stored id) = .ok factories := by
    rw [factoriesOfSource, get, lookup_of_factoryList h]
    rfl
  rw [factoriesOf, List.mapM_cons, hsource]
  change Except.ok [factories].flatten = _
  rw [List.flatten_singleton]

/-- Registrations add their factories to the list of a variable, in order. -/
theorem factoryList_after_changes {factories : List Factory}
    (h : workspace.factoryList? id = .ok factories) (changes : List Registration) :
    (workspace.after (changes.map (Registration.command id))).factoryList? id =
      .ok (factories ++ Factory.ofRegistrations (changes.flatMap Registration.entries)) := by
  -- The list is general because each registration adds to it.
  induction changes generalizing workspace factories with
  | nil => exact h.trans (congrArg Except.ok (List.append_nil factories).symm)
  | cons change rest ih =>
    rw [List.map_cons, after_cons, ih (change.factoryList_execute h), List.flatMap_cons,
      Factory.ofRegistrations_append, List.append_assoc]

/-- A copy of a list has the factories of the list, and then those of its own changes. -/
theorem factoryList_changedCopy {list copy : String} {factories : List Factory}
    (hne : copy ≠ list) (h : workspace.factoryList? list = .ok factories)
    (changes : List Registration) :
    (workspace.after (changedCopy copy list changes)).factoryList? copy =
      .ok (factories ++ Factory.ofRegistrations (changes.flatMap Registration.entries)) := by
  have hempty : (workspace.execute (.factoryList copy)).1.factoryList? copy = .ok [] :=
    get_execute rfl _ rfl
  have hother : (Command.factoryList copy).target? ≠ some list := by simpa [Command.target?]
  have hlist : (workspace.execute (.factoryList copy)).1.factoryList? list = .ok factories :=
    (get_execute_of_ne _ hother).trans h
  rw [changedCopy, after_cons, after_cons]
  generalize (workspace.execute (.factoryList copy)).1 = made at hempty hlist ⊢
  have hrun : ((Command.addFactories copy [.stored list]).run made).result =
      .ok ⟨.number factories.length, some (copy, .factories factories)⟩ := by
    simp only [Command.run, Action.result_bind, Action.result_lift, hempty, Except.bind,
      Factory.result_registerAll, factoriesOf_stored hlist, Action.pure_def, List.nil_append]
  exact factoryList_after_changes (get_execute hrun _ rfl) changes

/-- Settings that refer to no variable are taken as they are. -/
theorem mapM_setting_plain (settings : List Builder.Setting) :
    (settings.map SettingSpec.plain).mapM workspace.setting = .ok settings := by
  induction settings with
  | nil => rfl
  | cons setting rest ih =>
    rw [List.map_cons, List.mapM_cons, ih]
    rfl

/-- The setting that hands the list of a variable over adds the factories that are on it. -/
theorem setting_stored {factories : List Factory}
    (h : workspace.factoryList? id = .ok factories) :
    workspace.setting (.factories [.stored id]) = .ok (.factories factories) := by
  rw [setting, factoriesOf_stored h]
  rfl

/-- A builder is configured with the settings that are described. -/
theorem builder_configure {specs : List SettingSpec} {settings : List Builder.Setting}
    (hbuilder : workspace.builder? id = .ok builder)
    (hsettings : specs.mapM workspace.setting = .ok settings) :
    (workspace.execute (.configure id specs)).1.builder? id =
      .ok (settings.foldl Builder.configure builder) := by
  have hrun : ((Command.configure id specs).run workspace).result =
      .ok ⟨.flag ((settings.foldl Builder.configure builder).allowsAnyName workspace.leniency),
        some (id, .builder (settings.foldl Builder.configure builder))⟩ := by
    simp only [Command.run, Action.result_bind, Action.result_lift, hbuilder, hsettings,
      Except.bind, Action.pure_def]
  exact get_execute hrun _ rfl

end Workspace

/-- After registrations on a new list, whatever other commands stand between them, the list stands
for the map that the registrations write. -/
theorem factoryList_after_registers [ZoneDatabase] {id : String} {commands : List Command}
    {registrations : List Registration} (h : Registers id commands registrations)
    (start : Workspace) :
    ∃ factories,
      (start.after (.factoryList id :: commands)).factoryList? id = .ok factories ∧
        (Directory.ofRegistrations registrations).Lists factories := by
  have hnew : (start.execute (.factoryList id)).1.factoryList? id = .ok [] :=
    Workspace.get_execute rfl _ rfl
  refine h.after (fun workspace gathered => ∃ factories,
    workspace.factoryList? id = .ok factories ∧
      (Directory.ofRegistrations gathered).Lists factories) ?_ ?_ ⟨[], hnew, .empty⟩
  · rintro workspace _ gathered _ ⟨registration, rfl, rfl⟩ ⟨factories, hlist, hlists⟩
    refine ⟨_, registration.factoryList_execute hlist, ?_⟩
    rw [Directory.ofRegistrations, List.foldl_append]
    exact hlists.register registration
  · rintro workspace command gathered hne ⟨factories, hlist, hlists⟩
    exact ⟨factories, (Workspace.get_execute_of_ne _ hne).trans hlist, hlists⟩

/-- After commands that configure a builder, whatever other commands stand between them, it has
taken their settings over. -/
theorem builder_after_configures [ZoneDatabase] {id : String} {commands : List Command}
    {settings : List Builder.Setting} (h : Configures id commands settings) {start : Workspace}
    {builder : Builder} (hbuilder : start.builder? id = .ok builder) :
    (start.after commands).builder? id = .ok (settings.foldl Builder.configure builder) ∧
      ∀ setting ∈ settings, setting.KeepsFactories := by
  refine h.after (fun workspace gathered =>
    workspace.builder? id = .ok (gathered.foldl Builder.configure builder) ∧
      ∀ setting ∈ gathered, setting.KeepsFactories) ?_ ?_ ⟨hbuilder, List.forall_mem_nil _⟩
  · rintro workspace _ gathered settings ⟨rfl, hsettings⟩ ⟨hheld, hgathered⟩
    refine ⟨?_, List.forall_mem_append.mpr ⟨hgathered, hsettings⟩⟩
    rw [List.foldl_append]
    exact Workspace.builder_configure hheld (Workspace.mapM_setting_plain settings)
  · rintro workspace command gathered hne ⟨hheld, hgathered⟩
    exact ⟨(Workspace.get_execute_of_ne _ hne).trans hheld, hgathered⟩

section HandOver

variable [ZoneDatabase] {start : Workspace} {list id : String} {before later : List Command}
  {registrations : List Registration} {builder : Builder} {settings : List Builder.Setting}

/-- A builder without factories that a list is handed over to has, from then on, factories that
stand for the map of the registrations before, and the settings since. -/
theorem builder_after_handOver (hregisters : Registers list before registrations)
    (hbuilder : (start.after (.factoryList list :: before)).builder? id = .ok builder)
    (hnew : builder.factories = []) (hconfigures : Configures id later settings) :
    ∃ factories,
      (start.after (.factoryList list :: before ++
          .configure id [.factories [.stored list]] :: later)).builder? id =
        .ok ((settings.foldl Builder.configure builder).withFactories factories) ∧
        (Directory.ofRegistrations registrations).Lists factories := by
  obtain ⟨factories, hlist, hlists⟩ := factoryList_after_registers hregisters start
  refine ⟨factories, ?_, hlists⟩
  -- The builder takes over the list as it is at this point ...
  have hsetting : [SettingSpec.factories [.stored list]].mapM
      (start.after (.factoryList list :: before)).setting = .ok [.factories factories] := by
    rw [List.mapM_cons, Workspace.setting_stored hlist]
    rfl
  have htaken := Workspace.builder_configure hbuilder hsetting
  -- ... and keeps it, whatever commands follow.
  obtain ⟨hkept, hsettings⟩ := builder_after_configures hconfigures htaken
  have hfactories : [Builder.Setting.factories factories].foldl Builder.configure builder =
      builder.withFactories factories := by
    rw [List.foldl_cons, List.foldl_nil, Builder.configure, hnew, List.nil_append,
      Builder.withFactories]
  rw [Workspace.after_append, Workspace.after_cons, hkept, hfactories,
    Builder.foldl_configure_withFactories hsettings]

/-- A list of factories on which kinds were registered is handed over to a builder that has no other
factories. Whatever happens to the list and to other variables then, and whatever else the builder
is told, it builds a name by the map that the registrations before had written: a property of the
kind under the name in upper case, and with that name; or, if there is none, what is built without a
factory. It builds the same after a copy of the list was taken and more was registered on that. -/
theorem build_after_handOver (hregisters : Registers list before registrations)
    (hbuilder : (start.after (.factoryList list :: before)).builder? id = .ok builder)
    (hnew : builder.factories = []) (hconfigures : Configures id later settings) {name : String}
    (hname : (settings.foldl Builder.configure builder).name = Text.upper name)
    (leniency : Leniency) (target : Option String) :
    let asked := settings.foldl Builder.configure builder
    let handed := start.after
      (.factoryList list :: before ++ .configure id [.factories [.stored list]] :: later)
    let answer := ({ handed with leniency }.execute (.build id target)).2
    (∀ kind, Directory.ofRegistrations registrations (Text.upper name) = some kind →
      answer = (asked.propertyOf leniency kind).map .property ∧
        ∀ property, asked.propertyOf leniency kind = .ok property →
          property.kind = kind ∧ property.name = Text.upper name) ∧
      (Directory.ofRegistrations registrations (Text.upper name) = none →
        answer = (asked.propertyWithout leniency).map .property) ∧
      ∀ copy, copy ≠ id → copy ≠ list → ∀ changes,
        let changed := handed.after (changedCopy copy list changes)
        (∀ factories, handed.factoryList? list = .ok factories →
          changed.factoryList? copy =
            .ok (factories ++ Factory.ofRegistrations (changes.flatMap Registration.entries))) ∧
          ({ changed with leniency }.execute (.build id target)).2 = answer := by
  intro asked handed answer
  obtain ⟨factories, hheld, hlists⟩ :=
    builder_after_handOver hregisters hbuilder hnew hconfigures
  -- The position of the switches is no part of what a variable holds.
  have hheld : { handed with leniency }.builder? id = .ok (asked.withFactories factories) := hheld
  have hanswer : answer = ((asked.withFactories factories).build leniency).result.map .property :=
    Workspace.answer_build hheld target
  have hupper : Text.upper (asked.withFactories factories).name =
      (asked.withFactories factories).name := by
    rw [Builder.name_withFactories, hname, Text.upper_upper]
  rw [hlists.build hupper leniency, Builder.name_withFactories, hname] at hanswer
  refine ⟨fun kind hkind => ⟨?_, fun property hproperty => ?_⟩, fun hnone => ?_,
    fun copy hcopy hlist changes =>
      ⟨fun found hfound => Workspace.factoryList_changedCopy hlist hfound changes, ?_⟩⟩
  · rw [hanswer, hkind]
    exact congrArg _ (Builder.propertyOf_withFactories factories asked leniency kind)
  · rw [← hname]
    exact Builder.kind_and_name_of_propertyOf hproperty
  · rw [hanswer, hnone]
    exact congrArg _ (Builder.propertyWithout_withFactories factories asked leniency)
  · -- No change of the copy binds the variable of the builder.
    have hkept : { handed.after (changedCopy copy list changes) with leniency }.builder? id =
        .ok (asked.withFactories factories) :=
      (Workspace.get_after_of_ne _ fun command hcommand htarget =>
        hcopy (Option.some.inj ((target_of_mem_changedCopy hcommand).symm.trans htarget))).trans
        hheld
    exact (Workspace.answer_build hkept target).trans (Workspace.answer_build hheld target).symm

end HandOver

/-- Registrations of one name in two letter cases, with a new builder between them. -/
def registeredTwice : List Command :=
  [.register "list" ["x-one", "SUMMARY"] (.literal .plain), .builder "b" none,
    .addFactories "list" [.named "X-One" (.literal .text)]]

/-- A third registration of the name, and what the builder is told. -/
def toldLater : List Command :=
  [.register "list" ["X-ONE"] (.date .any),
    .configure "b" [.plain (.name "x-oNe"), .plain (.value " Room\\, 1 ")]]

/-- The second registration decides. The third comes too late, and so does one on a copy of the list
that is taken then. -/
theorem build_after_handOver_registeredTwice :
    let handed := Workspace.empty.after (.factoryList "list" :: registeredTwice ++
      .configure "b" [.factories [.stored "list"]] :: toldLater)
    let changed := handed.after (changedCopy "copy" "list" [.add "x-one" (.date .utcOnly)])
    (handed.execute (.build "b" none)).2 =
        .ok (.property (.literal ⟨.text, "X-ONE", [], "Room, 1"⟩)) ∧
      (changed.factoryList? "copy").toOption.map (·.length) = some 5 ∧
      (changed.execute (.build "b" none)).2 = (handed.execute (.build "b" none)).2 := by
  have hregisters : Registers "list" registeredTwice
      [.decorate ["x-one", "SUMMARY"] (.literal .plain), .add "X-One" (.literal .text)] :=
    Registers.register (.decorate _ _) (.other (by decide) (Registers.register (.add _ _) .nil))
  have hsettings : ∀ setting ∈ [Builder.Setting.name "x-oNe", .value " Room\\, 1 "],
      setting.KeepsFactories := by
    simp [Builder.Setting.KeepsFactories]
  have hconfigures : Configures "b" toldLater
      ([.name "x-oNe", .value " Room\\, 1 "] ++ []) :=
    .other (by decide) (.own ⟨rfl, hsettings⟩ .nil)
  have hbuilder : (Workspace.empty.after (.factoryList "list" :: registeredTwice)).builder? "b" =
      .ok (Builder.new none) := rfl
  intro handed changed
  obtain ⟨hkind, -, hcopy⟩ :=
    build_after_handOver hregisters hbuilder rfl hconfigures rfl .strict none
  obtain ⟨hbuild, -⟩ := hkind (.literal .text) (by decide)
  obtain ⟨hchanged, hstill⟩ :=
    hcopy "copy" (by decide) (by decide) [.add "x-one" (.date .utcOnly)]
  refine ⟨hbuild.trans rfl, ?_, hstill⟩
  rw [hchanged _ rfl]
  rfl

end Session

end ContentLine
