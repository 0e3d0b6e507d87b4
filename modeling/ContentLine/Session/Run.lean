import ContentLine.Session.Workspace
import ContentLine.Zone.Excerpt

/-!
# Running a session

Steps run in order on a workspace. A command that fails leaves the variables as they were; its
events have happened all the same. A block runs its steps with the switches of its mode, and gives
them their former positions back however it ends.

## Main definitions

- `Command.run`: the answer of a command, and what it binds.
- `Workspace.execute`: a command on a workspace.
- `Visit`, `Trace`: a step that a run comes to, and all that a run comes to.
- `Workspace.trace`, `Workspace.traceAll`, `Workspace.traceUntilFault`: the trace of steps.
- `Workspace.step`, `Workspace.runAll`: what running steps comes to in the end.
- `run`: a session from the empty workspace.
- `Workspace.notes`: the log.

## Main statements

- `Workspace.leniency_execute`: a command leaves the switches where they are.
- `Workspace.answer_build`: what building answers.
-/

namespace ContentLine.Session

variable [ZoneDatabase]

/-- An answer, with what a variable is to hold from now on. -/
structure Effect where
  /-- The answer. -/
  answer : Answer
  /-- The variable to bind and what it is to hold. -/
  binding : Option (String × Binding) := none

/-- What a command answers about a changed property. -/
def ChangeReport.answer (property : Property) : ChangeReport → Answer
  | .property => .property property
  | .parameters => .parameters property.parameters
  | .defaultTzid =>
    match property with
    | .dated property => .text property.registry.defaultTzid
    | .literal _ => .nothing

/-- The change described, for a given property. A property without the operation fails first. -/
def Workspace.changeOf (workspace : Workspace) (property : Property) :
    ChangeSpec → Except Fault Property.Change
  | .store value => do
    let _ ← property.dated? .store
    match value with
    | some spec => do
      let temporal ← spec.make workspace.next
      return .store (some temporal)
    | none => return .store none
  | .setRegistry id => do
    let _ ← property.dated? .changeRegistry
    let registry ← workspace.registryOr id
    return .setRegistry registry
  | .plain change => return change

/-- The number of serial numbers that a command takes. -/
def Command.serials : Command → Nat
  | .registry _ spec => 1 + spec.zoneCount
  | .scripted .. | .change .. => 1
  | _ => 0

/-- The answer of a command on a workspace, and what it binds. -/
def Command.run (workspace : Workspace) : Command → Action Effect
  | .registry id spec =>
    let registry := (spec.make (workspace.next + 1)).recorded workspace.next
    return ⟨.text registry.defaultTzid, some (id, .registry workspace.next registry)⟩
  | .lookups id => do
    let (serial, _) ← Action.lift (workspace.registry? id)
    return ⟨.texts (workspace.events.filterMap (Event.lookupOf? serial)), none⟩
  | .scripted id script =>
    let factory := script.make.recorded workspace.next
    return ⟨.text factory.label, some (id, .factory workspace.next factory)⟩
  | .calls id => do
    let serial ← Action.lift (workspace.factorySerial? id)
    return ⟨.calls (workspace.events.filterMap (Event.createOf? serial)), none⟩
  | .factoryList id => return ⟨.number 0, some (id, .factories [])⟩
  | .register id names kind => do
    let factories ← Action.lift (workspace.factoryList? id)
    let factories ← Factory.registerAll factories (Factory.forNames names kind)
    return ⟨.number factories.length, some (id, .factories factories)⟩
  | .addFactories id sources => do
    let factories ← Action.lift (workspace.factoryList? id)
    let added ← Action.lift (workspace.factoriesOf sources)
    let factories ← Factory.registerAll factories added
    return ⟨.number factories.length, some (id, .factories factories)⟩
  | .listFactories id => do
    let factories ← Action.lift (workspace.factoryList? id)
    return ⟨.texts (factories.map (·.label)), none⟩
  | .leniency => return ⟨.leniency workspace.leniency, none⟩
  | .builder id allowAnyName =>
    let builder := Builder.new allowAnyName
    return ⟨.flag (builder.allowsAnyName workspace.leniency), some (id, .builder builder)⟩
  | .configure id settings => do
    let builder ← Action.lift (workspace.builder? id)
    let settings ← Action.lift (settings.mapM workspace.setting)
    let builder := settings.foldl Builder.configure builder
    return ⟨.flag (builder.allowsAnyName workspace.leniency), some (id, .builder builder)⟩
  | .build id target => do
    let builder ← Action.lift (workspace.builder? id)
    let property ← builder.build workspace.leniency
    return ⟨.property property, target.map (·, .property property)⟩
  | .property id kind name parameters value zones => do
    let zones ← Action.lift (workspace.registryOr zones)
    let property ← Property.create workspace.leniency kind name parameters value zones
    return ⟨.property property, some (id, .property property)⟩
  | .state id => do
    let property ← Action.lift (workspace.property? id)
    return ⟨.property property, none⟩
  | .change id spec report => do
    let property ← Action.lift (workspace.property? id)
    let change ← Action.lift (workspace.changeOf property spec)
    let property ← property.change workspace.leniency change
    return ⟨report.answer property, some (id, .property property)⟩
  | .read id => do
    let property ← Action.lift (workspace.property? id)
    let reading ← property.read workspace.leniency
    return ⟨.reading reading, none⟩
  | .validate id => do
    let property ← Action.lift (workspace.property? id)
    match property.validate with
    | .ok () => return ⟨.nothing, none⟩
    | .error fault => Action.fail (.invalid fault)
  | .firstParameter id name => do
    let property ← Action.lift (workspace.property? id)
    return ⟨.parameter (Parameter.first? name property.parameters), none⟩
  | .allParameters id name => do
    let property ← Action.lift (workspace.property? id)
    return ⟨.parameters (Parameter.all name property.parameters), none⟩
  | .copy id target => do
    let property ← Action.lift (workspace.property? id)
    return ⟨.property property, some (target, .property property)⟩
  | .equal a b => do
    let propertyA ← Action.lift (workspace.property? a)
    let propertyB ← Action.lift (workspace.property? b)
    let equal ← propertyA.agrees workspace.leniency propertyB
    return ⟨.flag equal, none⟩
  | .equalOther a => do
    let _ ← Action.lift (workspace.property? a)
    return ⟨.flag false, none⟩
  | .equalHash a b => do
    let propertyA ← Action.lift (workspace.property? a)
    let keyA ← propertyA.key workspace.leniency
    let propertyB ← Action.lift (workspace.property? b)
    let keyB ← propertyB.key workspace.leniency
    return ⟨.flag (keyA == keyB), none⟩
  | .describe id => do
    let property ← Action.lift (workspace.property? id)
    return ⟨.text property.description, none⟩

namespace Workspace

/-- Run a command: its events happen, and if it succeeds its variable is bound. -/
def execute (workspace : Workspace) (command : Command) : Workspace × Except Fault Answer :=
  let action := command.run workspace
  let later : Workspace :=
    { workspace with
      events := workspace.events ++ action.events
      next := workspace.next + command.serials }
  match action.result with
  | .ok ⟨answer, some (id, binding)⟩ => (later.bind id binding, .ok answer)
  | .ok ⟨answer, none⟩ => (later, .ok answer)
  | .error fault => (later, .error fault)

/-- Turn the switches of a mode on, and write its note. -/
def enter (workspace : Workspace) (mode : Leniency.Mode) : Workspace :=
  { workspace with
    leniency := workspace.leniency.enter mode
    events := workspace.events ++ mode.note?.toList.map Event.note }

/-- Give the switches of a mode the positions back that they had outside. -/
def leave (workspace : Workspace) (mode : Leniency.Mode) (outside : Leniency) : Workspace :=
  { workspace with leniency := workspace.leniency.leave mode outside }

end Workspace

/-- A step that a run comes to. -/
structure Visit where
  /-- The modes of the blocks around the step, the innermost first. -/
  modes : List Leniency.Mode
  /-- The step. -/
  step : Step
  /-- The workspace that the step is run on. -/
  before : Workspace
  /-- The workspace when the step has ended. -/
  after : Workspace
  /-- The answer or fault of the step. -/
  attempt : Except Fault Answer

/-- The visit as part of a block. -/
def Visit.within (visit : Visit) (mode : Leniency.Mode) : Visit :=
  { visit with modes := visit.modes ++ [mode] }

/-- What a run comes to. -/
structure Trace (α : Type) where
  /-- The workspace in the end. -/
  workspace : Workspace
  /-- The result. -/
  result : α
  /-- The steps that were run, a block before those inside it. -/
  visits : List Visit

namespace Workspace

/-- The trace of a block, by that of its steps and its answer: its switches get their positions
back. -/
def leaveBlock {α : Type} (outside : Workspace) (mode : Leniency.Mode) (block : Step)
    (inside : Trace α) (attempt : Except Fault Answer) : Trace (Except Fault Answer) :=
  let after := inside.workspace.leave mode outside.leniency
  ⟨after, attempt, ⟨[], block, outside, after, attempt⟩ :: inside.visits.map (·.within mode)⟩

mutual

/-- Run a step. -/
def trace (workspace : Workspace) : Step → Trace (Except Fault Answer)
  | .command command =>
    let (after, attempt) := workspace.execute command
    ⟨after, attempt, [⟨[], .command command, workspace, after, attempt⟩]⟩
  | .block mode true steps =>
    let inside := (workspace.enter mode).traceUntilFault steps
    workspace.leaveBlock mode (.block mode true steps) inside (inside.result.map .answers)
  | .block mode false steps =>
    let inside := (workspace.enter mode).traceAll steps
    workspace.leaveBlock mode (.block mode false steps) inside (.ok (.attempts inside.result))

/-- Run steps one after the other, whether they fail or not. -/
def traceAll (workspace : Workspace) : List Step → Trace (List (Except Fault Answer))
  | [] => ⟨workspace, [], []⟩
  | first :: rest =>
    let head := workspace.trace first
    let tail := head.workspace.traceAll rest
    ⟨tail.workspace, head.result :: tail.result, head.visits ++ tail.visits⟩

/-- Run steps one after the other up to the first that fails. -/
def traceUntilFault (workspace : Workspace) : List Step → Trace (Except Fault (List Answer))
  | [] => ⟨workspace, .ok [], []⟩
  | first :: rest =>
    let head := workspace.trace first
    match head.result with
    | .ok answer =>
      let tail := head.workspace.traceUntilFault rest
      ⟨tail.workspace, tail.result.map (answer :: ·), head.visits ++ tail.visits⟩
    | .error fault => ⟨head.workspace, .error fault, head.visits⟩

end

/-- The workspace and the answer that a step comes to. -/
def step (workspace : Workspace) (step : Step) : Workspace × Except Fault Answer :=
  let trace := workspace.trace step
  (trace.workspace, trace.result)

/-- The workspace and the answers that steps come to, whether they fail or not. -/
def runAll (workspace : Workspace) (steps : List Step) :
    Workspace × List (Except Fault Answer) :=
  let trace := workspace.traceAll steps
  (trace.workspace, trace.result)

/-- The notes so far, in order. -/
def notes (workspace : Workspace) : List Note :=
  workspace.events.filterMap Event.note?

/-- A command leaves the switches where they are. -/
theorem leniency_execute (workspace : Workspace) (command : Command) :
    (workspace.execute command).1.leniency = workspace.leniency := by
  simp only [execute]
  split <;> rfl

@[simp] theorem step_command (workspace : Workspace) (command : Command) :
    workspace.step (.command command) = workspace.execute command := by
  rw [step, trace]

/-- Building answers with the property of the builder, or with the fault. -/
theorem answer_build {workspace : Workspace} {builder : Builder} {id : String}
    (h : workspace.builder? id = .ok builder) (target : Option String) :
    (workspace.execute (.build id target)).2 =
      (builder.build workspace.leniency).result.map .property := by
  have hrun : ((Command.build id target).run workspace).result =
      (builder.build workspace.leniency).result.map fun property =>
        ⟨.property property, target.map (·, .property property)⟩ := by
    simp only [Command.run, Action.result_bind, Action.result_lift, h, Except.bind]
    cases (builder.build workspace.leniency).result <;> rfl
  rw [execute]
  simp only [hrun]
  cases (builder.build workspace.leniency).result with
  | error fault => rfl
  | ok property => cases target <;> rfl

end Workspace

/-- Run a session from the empty workspace. -/
def run (steps : List Step) : Workspace × List (Except Fault Answer) :=
  Workspace.empty.runAll steps

end ContentLine.Session
