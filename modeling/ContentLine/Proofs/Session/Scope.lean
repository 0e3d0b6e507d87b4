import ContentLine.Proofs.Session.Visits

/-!
# The scope of leniency

Blocks nest, and each turns the switches of its mode on for the steps inside it. Whatever those
steps are and however they end, a block gives every switch back the position that it had on entry.
So wherever a run comes to, a switch is on exactly if it was on at the start or one of the blocks
around that place turns it on.

## Main definitions

* `Leniency.Switch`, `Leniency.Mode.Enables`: the two switches, and which of them a mode turns on.
* `Session.Step.StandsIn`: a step stands among others, in blocks of given modes.
* `Session.Visit.Scoped`, `Session.Trace.Scoped`: the switches are where the blocks around put them.

## Main results

* `Leniency.occursIn_iff`: the search for a text in another finds it exactly if it is there.
* `Session.Workspace.scoped_trace`: so they are in the trace of a step, and of a list of steps.
* `Session.leniency_scoped`: what a run comes to, which switches are on there, and that every step
  leaves them where they were.
-/

namespace ContentLine

/-! ## Switches and modes -/

namespace Leniency

/-- A text occurs in another exactly if the other has it as a contiguous part. -/
theorem occursIn_iff {part text : List Char} : occursIn part text = true ↔ part <:+: text := by
  induction text with
  | nil => simp [occursIn]
  | cons c rest ih =>
    rw [occursIn, Bool.or_eq_true, List.isPrefixOf_iff_prefix, ih, List.infix_cons_iff]

/-- What can be turned on and off. -/
inductive Switch where
  /-- Names without a factory may be built. -/
  | anyName
  /-- Windows names of zones are resolved. -/
  | windowsZones
deriving DecidableEq, Repr

/-- Whether a switch is on. -/
def isOn (leniency : Leniency) : Switch → Bool
  | .anyName => leniency.anyName
  | .windowsZones => leniency.windowsZones

/-- Which switches a mode turns on. A producer turns both on if its product identifier is given and
contains the words by which lenient producers are known, and none otherwise. -/
def Mode.Enables : Mode → Switch → Prop
  | .anyName, switch => switch = .anyName
  | .windowsZones, switch => switch = .windowsZones
  | .producer prodid, _ => ∃ text ∈ prodid, "Microsoft Exchange Server".toList <:+: text.toList

theorem needsLeniency_iff {prodid : Option String} :
    needsLeniency prodid = true ↔
      ∃ text ∈ prodid, "Microsoft Exchange Server".toList <:+: text.toList := by
  cases prodid with
  | none => simp [needsLeniency]
  | some text => simp [needsLeniency, occursIn_iff, lenientProducer]

theorem isOn_switches {mode : Mode} {switch : Switch} :
    mode.switches.isOn switch = true ↔ mode.Enables switch := by
  cases mode with
  | anyName => cases switch <;> simp [Mode.switches, Mode.Enables, isOn]
  | windowsZones => cases switch <;> simp [Mode.switches, Mode.Enables, isOn]
  | producer prodid =>
    rw [Mode.Enables, ← needsLeniency_iff, Mode.switches]
    cases needsLeniency prodid <;> cases switch <;> simp [isOn]

/-- A switch is on inside a mode if it is on outside or the mode turns it on. -/
theorem isOn_enter {outside : Leniency} {mode : Mode} {switch : Switch} :
    (outside.enter mode).isOn switch = true ↔
      outside.isOn switch = true ∨ mode.Enables switch := by
  rw [← isOn_switches, ← Bool.or_eq_true]
  cases switch <;> rfl

/-- The positions inside nested modes, the innermost mode first. -/
def within (outside : Leniency) (modes : List Mode) : Leniency :=
  modes.foldr (fun mode around => around.enter mode) outside

/-- A switch is on inside nested modes if it is on outside of all or one of them turns it on. -/
theorem isOn_within {outside : Leniency} {modes : List Mode} {switch : Switch} :
    (outside.within modes).isOn switch = true ↔
      outside.isOn switch = true ∨ ∃ mode ∈ modes, mode.Enables switch := by
  induction modes with
  | nil => simp [within]
  | cons mode around ih =>
    rw [within, List.foldr_cons, isOn_enter, ← within, ih, or_assoc]
    simp only [List.mem_cons, exists_eq_or_imp, or_comm]

end Leniency

/-! ## Runs -/

namespace Session

/-- A step stands among others, in blocks of the given modes, the innermost first. -/
inductive Step.StandsIn (step : Step) : List Leniency.Mode → List Step → Prop
  /-- It is one of them. -/
  | here {steps : List Step} (hstep : step ∈ steps) : StandsIn step [] steps
  /-- It stands among the steps of a block that is one of them. -/
  | inside {modes : List Leniency.Mode} {mode : Leniency.Mode} {propagate : Bool}
      {inner steps : List Step} (hblock : .block mode propagate inner ∈ steps)
      (hinner : StandsIn step modes inner) : StandsIn step (modes ++ [mode]) steps

theorem Step.StandsIn.mono {step : Step} {modes : List Leniency.Mode} {steps more : List Step}
    (h : step.StandsIn modes steps) (hmore : steps ⊆ more) : step.StandsIn modes more := by
  cases h with
  | here hstep => exact .here (hmore hstep)
  | inside hblock hinner => exact .inside (hmore hblock) hinner

/-- A command that stands in a block has the mode of the block around it. -/
theorem Step.StandsIn.mem_modes_of_command {command : Command} {modes : List Leniency.Mode}
    {mode : Leniency.Mode} {propagate : Bool} {steps : List Step}
    (h : (Step.command command).StandsIn modes [.block mode propagate steps]) : mode ∈ modes := by
  cases h with
  | here hself => cases List.mem_singleton.mp hself
  | inside hblock _ =>
    cases List.mem_singleton.mp hblock
    exact List.mem_append_right _ (List.mem_singleton.mpr rfl)

section Runs

variable [ZoneDatabase]

/-- A visit of a run of the given steps, started with the switches in the given positions. -/
structure Visit.Scoped (visit : Visit) (outside : Leniency) (steps : List Step) : Prop where
  /-- The step stands among those of the run, in the blocks that the visit names. -/
  standsIn : visit.step.StandsIn visit.modes steps
  /-- What the visit records is what the step comes to there. -/
  step_eq : visit.before.step visit.step = (visit.after, visit.attempt)
  /-- The switches have the positions that the blocks around give them. -/
  before_eq : visit.before.leniency = outside.within visit.modes
  /-- The step leaves them there. -/
  after_eq : visit.after.leniency = visit.before.leniency

/-- A trace of a run of the given steps, started with the switches in the given positions: they are
there again in the end, and all visits are scoped. -/
structure Trace.Scoped {α : Type} (trace : Trace α) (outside : Leniency) (steps : List Step) :
    Prop where
  leniency_eq : trace.workspace.leniency = outside
  visits : ∀ visit ∈ trace.visits, visit.Scoped outside steps

namespace Visit.Scoped

variable {visit : Visit} {outside : Leniency} {steps more : List Step}

theorem mono (h : visit.Scoped outside steps) (hmore : steps ⊆ more) :
    visit.Scoped outside more :=
  { h with standsIn := h.standsIn.mono hmore }

/-- A visit of the run of one step is one of the run that goes on. -/
theorem cons {first : Step} (h : visit.Scoped outside [first]) (rest : List Step) :
    visit.Scoped outside (first :: rest) :=
  h.mono (List.cons_subset_cons first (List.nil_subset rest))

/-- A visit of the run inside a block is one of the run around it. -/
theorem within {mode : Leniency.Mode} {propagate : Bool}
    (h : visit.Scoped (outside.enter mode) steps) :
    (visit.within mode).Scoped outside [.block mode propagate steps] where
  standsIn := .inside (List.mem_singleton.mpr rfl) h.standsIn
  step_eq := h.step_eq
  before_eq := by
    -- The outermost mode is the one that was entered first.
    rw [Visit.within, Leniency.within, List.foldr_append]
    exact h.before_eq
  after_eq := h.after_eq

end Visit.Scoped

namespace Workspace

/-- A block around a scoped run is scoped: what the run leaves of the switches of the mode is undone
by leaving it. -/
theorem scoped_leaveBlock {α : Type} {workspace : Workspace} {mode : Leniency.Mode}
    {propagate : Bool} {steps : List Step} {inside : Trace α} {attempt : Except Fault Answer}
    (hstep : workspace.step (.block mode propagate steps) =
      (inside.workspace.leave mode workspace.leniency, attempt))
    (hinside : inside.Scoped (workspace.leniency.enter mode) steps) :
    (workspace.leaveBlock mode (.block mode propagate steps) inside attempt).Scoped
      workspace.leniency [.block mode propagate steps] := by
  have hleft : (inside.workspace.leave mode workspace.leniency).leniency = workspace.leniency := by
    rw [leave, hinside.leniency_eq]
    exact Leniency.leave_enter workspace.leniency mode
  refine ⟨hleft, List.forall_mem_cons.mpr ⟨?_, ?_⟩⟩
  · exact ⟨.here (List.mem_singleton.mpr rfl), hstep, rfl, hleft⟩
  · intro visit hvisit
    obtain ⟨inner, hinner, rfl⟩ := List.mem_map.mp hvisit
    exact (hinside.visits inner hinner).within

/-- The visits of a step and of those run after it are visits of the run of them all. -/
theorem scoped_append {outside : Leniency} {first : Step} {rest : List Step}
    {earlier later : List Visit}
    (hfirst : ∀ visit ∈ earlier, visit.Scoped outside [first])
    (hrest : ∀ visit ∈ later, visit.Scoped outside rest) :
    ∀ visit ∈ earlier ++ later, visit.Scoped outside (first :: rest) := by
  intro visit hvisit
  rcases List.mem_append.mp hvisit with hvisit | hvisit
  · exact (hfirst visit hvisit).cons rest
  · exact (hrest visit hvisit).mono (List.subset_cons_self first rest)

-- The three follow the recursion of the run: a block is a step that runs steps.
mutual

/-- Whatever a step is, its trace is scoped. -/
theorem scoped_trace (workspace : Workspace) :
    ∀ step, (workspace.trace step).Scoped workspace.leniency [step]
  | .command command => by
    have hafter := leniency_execute workspace command
    rw [trace]
    exact ⟨hafter, List.forall_mem_singleton.mpr ⟨.here (List.mem_singleton.mpr rfl),
      step_command workspace command, rfl, hafter⟩⟩
  | .block mode true steps => by
    rw [trace]
    exact scoped_leaveBlock (by rw [step, trace]; rfl)
      (scoped_traceUntilFault (workspace.enter mode) steps)
  | .block mode false steps => by
    rw [trace]
    exact scoped_leaveBlock (by rw [step, trace]; rfl)
      (scoped_traceAll (workspace.enter mode) steps)

/-- So is the trace of steps that are all run. -/
theorem scoped_traceAll (workspace : Workspace) :
    ∀ steps, (workspace.traceAll steps).Scoped workspace.leniency steps
  | [] => by
    rw [traceAll]
    exact ⟨rfl, List.forall_mem_nil _⟩
  | first :: rest => by
    have hfirst := scoped_trace workspace first
    have hrest := scoped_traceAll (workspace.trace first).workspace rest
    rw [hfirst.leniency_eq] at hrest
    rw [traceAll]
    exact ⟨hrest.leniency_eq, scoped_append hfirst.visits hrest.visits⟩

/-- So is that of steps that are run up to the first that fails. -/
theorem scoped_traceUntilFault (workspace : Workspace) :
    ∀ steps, (workspace.traceUntilFault steps).Scoped workspace.leniency steps
  | [] => by
    rw [traceUntilFault]
    exact ⟨rfl, List.forall_mem_nil _⟩
  | first :: rest => by
    have hfirst := scoped_trace workspace first
    have hrest := scoped_traceUntilFault (workspace.trace first).workspace rest
    rw [hfirst.leniency_eq] at hrest
    rw [traceUntilFault]
    split
    · exact ⟨hrest.leniency_eq, scoped_append hfirst.visits hrest.visits⟩
    · exact ⟨hfirst.leniency_eq, fun visit hvisit => (hfirst.visits visit hvisit).cons rest⟩

end

/-- A step leaves the switches where they are, whether it fails or not. -/
theorem leniency_step (workspace : Workspace) (step : Step) :
    (workspace.step step).1.leniency = workspace.leniency :=
  (workspace.scoped_trace step).leniency_eq

end Workspace

/-- A run visits its steps in turn, and the steps of every block that it comes to, up to the first
that fails if the block does not catch faults. Each step that is visited stands among those of the
run, in the blocks that the visit names; a switch is on there exactly if it was on at the start of
the run or one of these blocks turns it on; and the step, above all if it is a block, leaves all
switches as they were, whether it succeeds or fails, or is given up for a fault inside it. -/
theorem leniency_scoped (start : Workspace) (steps : List Step) :
    let visits := (start.traceAll steps).visits
    List.Forall₂ (Visited visits []) steps (start.runAll steps).2 ∧
      ∀ visit ∈ visits, visit.Filled visits ∧ visit.step.StandsIn visit.modes steps ∧
        visit.before.step visit.step = (visit.after, visit.attempt) ∧
        (∀ switch, visit.before.leniency.isOn switch = true ↔
          start.leniency.isOn switch = true ∨ ∃ mode ∈ visit.modes, mode.Enables switch) ∧
        visit.after.leniency = visit.before.leniency := by
  intro visits
  obtain ⟨hfilled, hvisited⟩ := start.filled_traceAll steps
  refine ⟨hvisited, fun visit hvisit => ?_⟩
  have hscoped := (start.scoped_traceAll steps).visits visit hvisit
  refine ⟨hfilled visit hvisit, hscoped.standsIn, hscoped.step_eq, fun switch => ?_,
    hscoped.after_eq⟩
  rw [hscoped.before_eq]
  exact Leniency.isOn_within

end Runs

/-- The mode of a producer that needs leniency. -/
def exchangeMode : Leniency.Mode :=
  .producer (some "Microsoft Exchange Server 2010")

/-- A block of that mode around one for Windows names, where a variable is asked for that nothing is
bound to. -/
def faultyBlock : Step :=
  .block exchangeMode true
    [.block .windowsZones true [.command (.state "start"), .command .leniency]]

/-- Where Windows names are resolved already, the fault in the inner block propagates out of both.
Both switches are on where it happens, and afterwards Windows names are resolved as before, while
names without a factory are not built. -/
theorem leniency_scoped_faultyBlock :
    let start : Workspace := { Workspace.empty with leniency := ⟨false, true⟩ }
    (∃ visit ∈ (start.traceAll [faultyBlock]).visits,
        visit.step = .command (.state "start") ∧ visit.modes = [.windowsZones, exchangeMode] ∧
        visit.attempt = .error (.unbound "start") ∧
        ∀ switch, visit.before.leniency.isOn switch = true) ∧
      ∃ visit ∈ (start.traceAll [faultyBlock]).visits,
        visit.step = faultyBlock ∧ visit.attempt = .error (.unbound "start") ∧
        visit.after.leniency = ⟨false, true⟩ := by
  intro start
  have hproducer : exchangeMode.Enables .anyName := ⟨_, rfl, [], " 2010".toList, by decide⟩
  have hscoped := (leniency_scoped start [faultyBlock]).2
  -- The outer block comes first, then the inner one and what is run in it.
  obtain ⟨visit, hvisit, hstep, hmodes, hattempt⟩ :
      ∃ visit ∈ (start.traceAll [faultyBlock]).visits,
        visit.step = .command (.state "start") ∧ visit.modes = [.windowsZones, exchangeMode] ∧
        visit.attempt = .error (.unbound "start") :=
    ⟨_, .tail _ (.tail _ (.head _)), rfl, rfl, rfl⟩
  obtain ⟨block, hblock, hfaulty, hfault, hbefore⟩ :
      ∃ block ∈ (start.traceAll [faultyBlock]).visits, block.step = faultyBlock ∧
        block.attempt = .error (.unbound "start") ∧ block.before.leniency = ⟨false, true⟩ :=
    ⟨_, .head _, rfl, rfl, rfl⟩
  obtain ⟨-, -, -, hswitches, -⟩ := hscoped visit hvisit
  obtain ⟨-, -, -, -, hafter⟩ := hscoped block hblock
  refine ⟨⟨visit, hvisit, hstep, hmodes, hattempt, fun switch => ?_⟩, block, hblock, hfaulty,
    hfault, hafter.trans hbefore⟩
  rw [hswitches, hmodes]
  cases switch with
  | windowsZones => exact Or.inl rfl
  | anyName => exact Or.inr ⟨exchangeMode, by simp, hproducer⟩

end Session

end ContentLine
