import ContentLine.Session.Run
import Mathlib.Data.List.Forall2

/-!
# What a run visits

A run visits the steps that it is given one after the other, and what these visits come to is what
the run comes to. Where faults are not caught it ends with the first step that fails. The same holds
of the steps of every block that is visited. So the visits are all that is run, and a fault inside
blocks is given up through each of them that does not catch it.

## Main definitions

* `Session.Visited`: a step is visited in blocks of given modes, and comes to a given attempt.
* `Session.VisitedUntilFault`: steps are visited one after the other up to the first that fails.
* `Session.Visit.Filled`: if a block is visited, its steps are visited too.

## Main results

* `Session.Workspace.filled_trace`, `Session.Workspace.filled_traceAll`,
  `Session.Workspace.filled_traceUntilFault`: every block that a run visits is filled, and the steps
  that are given are visited.
-/

namespace ContentLine.Session

/-- Among the visits is one of the step, in blocks of the given modes, which comes to the given
attempt. -/
def Visited (visits : List Visit) (modes : List Leniency.Mode) (step : Step)
    (attempt : Except Fault Answer) : Prop :=
  ∃ visit ∈ visits, visit.modes = modes ∧ visit.step = step ∧ visit.attempt = attempt

/-- Steps are visited one after the other up to the first that fails. -/
inductive VisitedUntilFault (visits : List Visit) (modes : List Leniency.Mode) :
    List Step → Except Fault (List Answer) → Prop where
  | nil : VisitedUntilFault visits modes [] (.ok [])
  /-- The first step has an answer, and the others are visited. -/
  | answer {first : Step} {answer : Answer} {rest : List Step} {result : Except Fault (List Answer)}
      (hfirst : Visited visits modes first (.ok answer))
      (hrest : VisitedUntilFault visits modes rest result) :
      VisitedUntilFault visits modes (first :: rest) (result.map (answer :: ·))
  /-- The first step fails, whatever the others are. -/
  | fault {first : Step} {fault : Fault} (hfirst : Visited visits modes first (.error fault))
      (rest : List Step) : VisitedUntilFault visits modes (first :: rest) (.error fault)

/-- If the visit is one of a block, the steps of the block are among the visits, inside its mode,
and what they come to is what the block comes to. -/
def Visit.Filled (visit : Visit) (visits : List Visit) : Prop :=
  match visit.step with
  | .command _ => True
  | .block mode true steps => ∃ result, visit.attempt = result.map .answers ∧
      VisitedUntilFault visits (mode :: visit.modes) steps result
  | .block mode false steps => ∃ attempts, visit.attempt = .ok (.attempts attempts) ∧
      List.Forall₂ (Visited visits (mode :: visit.modes)) steps attempts

/-! ## More visits -/

section Embed

variable {visits more : List Visit} {outer modes : List Leniency.Mode} {visit : Visit} {step : Step}
  {attempt : Except Fault Answer} {steps : List Step}

/-- Visits are among others, there with more blocks around them. -/
def Embeds (visits : List Visit) (outer : List Leniency.Mode) (more : List Visit) : Prop :=
  ∀ visit ∈ visits, { visit with modes := visit.modes ++ outer } ∈ more

theorem embeds_of_subset (h : visits ⊆ more) : Embeds visits [] more := by
  intro visit hvisit
  rw [List.append_nil]
  exact h hvisit

theorem Visited.embed (hmore : Embeds visits outer more) (h : Visited visits modes step attempt) :
    Visited more (modes ++ outer) step attempt := by
  obtain ⟨visit, hvisit, rfl, rfl, rfl⟩ := h
  exact ⟨_, hmore visit hvisit, rfl, rfl, rfl⟩

theorem forall₂_visited_embed {attempts : List (Except Fault Answer)}
    (hmore : Embeds visits outer more) (h : List.Forall₂ (Visited visits modes) steps attempts) :
    List.Forall₂ (Visited more (modes ++ outer)) steps attempts :=
  h.imp fun _ _ => Visited.embed hmore

theorem VisitedUntilFault.embed {result : Except Fault (List Answer)}
    (hmore : Embeds visits outer more) (h : VisitedUntilFault visits modes steps result) :
    VisitedUntilFault more (modes ++ outer) steps result := by
  induction h with
  | nil => exact .nil
  | answer hfirst _ ih => exact .answer (hfirst.embed hmore) ih
  | fault hfirst rest => exact .fault (hfirst.embed hmore) rest

theorem Visit.Filled.embed (hmore : Embeds visits outer more) (h : visit.Filled visits) :
    Visit.Filled { visit with modes := visit.modes ++ outer } more := by
  obtain ⟨modes, step, before, after, attempt⟩ := visit
  cases step with
  | command command => exact trivial
  | block mode propagate steps =>
    cases propagate with
    | true =>
      obtain ⟨result, hattempt, hsteps⟩ := h
      exact ⟨result, hattempt, hsteps.embed hmore⟩
    | false =>
      obtain ⟨attempts, hattempt, hsteps⟩ := h
      exact ⟨attempts, hattempt, forall₂_visited_embed hmore hsteps⟩

theorem Visit.Filled.mono (hmore : visits ⊆ more) (h : visit.Filled visits) :
    visit.Filled more := by
  have hembedded := h.embed (embeds_of_subset hmore)
  rwa [List.append_nil] at hembedded

end Embed

/-! ## Runs -/

/-- Every block that is visited is filled. -/
def Trace.Filled {α : Type} (trace : Trace α) : Prop :=
  ∀ visit ∈ trace.visits, visit.Filled trace.visits

namespace Workspace

/-- The visits inside a block are among those of the block, with its mode around them. -/
theorem embeds_leaveBlock {α : Type} (workspace : Workspace) (mode : Leniency.Mode) (block : Step)
    (inside : Trace α) (attempt : Except Fault Answer) :
    Embeds inside.visits [mode] (workspace.leaveBlock mode block inside attempt).visits :=
  fun _ hvisit =>
    List.mem_cons_of_mem _ (List.mem_map_of_mem (f := (Visit.within · mode)) hvisit)

/-- A block around a filled run is filled, if its own visit is. -/
theorem filled_leaveBlock {α : Type} {workspace : Workspace} {mode : Leniency.Mode} {block : Step}
    {inside : Trace α} {attempt : Except Fault Answer} (hinside : inside.Filled)
    (hblock : ∀ after, Visit.Filled ⟨[], block, workspace, after, attempt⟩
      (workspace.leaveBlock mode block inside attempt).visits) :
    (workspace.leaveBlock mode block inside attempt).Filled := by
  refine List.forall_mem_cons.mpr ⟨hblock _, fun visit hvisit => ?_⟩
  obtain ⟨inner, hinner, rfl⟩ := List.mem_map.mp hvisit
  exact (hinside inner hinner).embed (workspace.embeds_leaveBlock mode block inside attempt)

/-- Of two runs in a row each is filled, so both together are. -/
theorem filled_append {earlier later : List Visit}
    (hfirst : ∀ visit ∈ earlier, visit.Filled earlier)
    (hrest : ∀ visit ∈ later, visit.Filled later) :
    ∀ visit ∈ earlier ++ later, visit.Filled (earlier ++ later) := by
  intro visit hvisit
  rcases List.mem_append.mp hvisit with hvisit | hvisit
  · exact (hfirst visit hvisit).mono (List.subset_append_left earlier later)
  · exact (hrest visit hvisit).mono (List.subset_append_right earlier later)

variable [ZoneDatabase]

-- The three follow the recursion of the run: a block is a step that runs steps.
mutual

/-- A step is visited by its run, with what the run comes to. -/
theorem filled_trace (workspace : Workspace) :
    ∀ step, (workspace.trace step).Filled ∧
      Visited (workspace.trace step).visits [] step (workspace.trace step).result
  | .command command => by
    rw [trace]
    exact ⟨List.forall_mem_singleton.mpr trivial, _, List.mem_singleton.mpr rfl, rfl, rfl, rfl⟩
  | .block mode true steps => by
    obtain ⟨hinside, hsteps⟩ := filled_traceUntilFault (workspace.enter mode) steps
    rw [trace]
    exact ⟨filled_leaveBlock hinside fun _ =>
      ⟨_, rfl, hsteps.embed (embeds_leaveBlock workspace mode _ _ _)⟩, _, .head _, rfl, rfl, rfl⟩
  | .block mode false steps => by
    obtain ⟨hinside, hsteps⟩ := filled_traceAll (workspace.enter mode) steps
    rw [trace]
    exact ⟨filled_leaveBlock hinside fun _ =>
      ⟨_, rfl, forall₂_visited_embed (embeds_leaveBlock workspace mode _ _ _) hsteps⟩,
      _, .head _, rfl, rfl, rfl⟩

/-- Steps that are all run are visited in turn, with what each comes to. -/
theorem filled_traceAll (workspace : Workspace) :
    ∀ steps, (workspace.traceAll steps).Filled ∧
      List.Forall₂ (Visited (workspace.traceAll steps).visits []) steps
        (workspace.traceAll steps).result
  | [] => by
    rw [traceAll]
    exact ⟨List.forall_mem_nil _, .nil⟩
  | first :: rest => by
    obtain ⟨hfirst, hvisited⟩ := filled_trace workspace first
    obtain ⟨hrest, hothers⟩ := filled_traceAll (workspace.trace first).workspace rest
    rw [traceAll]
    exact ⟨filled_append hfirst hrest,
      .cons (hvisited.embed (embeds_of_subset (List.subset_append_left _ _)))
        (forall₂_visited_embed (embeds_of_subset (List.subset_append_right _ _)) hothers)⟩

/-- So are steps that are run up to the first that fails. -/
theorem filled_traceUntilFault (workspace : Workspace) :
    ∀ steps, (workspace.traceUntilFault steps).Filled ∧
      VisitedUntilFault (workspace.traceUntilFault steps).visits [] steps
        (workspace.traceUntilFault steps).result
  | [] => by
    rw [traceUntilFault]
    exact ⟨List.forall_mem_nil _, .nil⟩
  | first :: rest => by
    obtain ⟨hfirst, hvisited⟩ := filled_trace workspace first
    obtain ⟨hrest, hothers⟩ := filled_traceUntilFault (workspace.trace first).workspace rest
    rw [traceUntilFault]
    split
    case _ answer hanswer =>
      rw [hanswer] at hvisited
      exact ⟨filled_append hfirst hrest,
        .answer (hvisited.embed (embeds_of_subset (List.subset_append_left _ _)))
          (hothers.embed (embeds_of_subset (List.subset_append_right _ _)))⟩
    case _ fault hfault =>
      rw [hfault] at hvisited
      exact ⟨hfirst, .fault hvisited rest⟩

end

end Workspace

end ContentLine.Session
