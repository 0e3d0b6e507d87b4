import ContentLine.Session.Run

/-!
# What a command binds

A command that succeeds binds at most one variable, which its description names, and one that fails
binds none; all other variables hold what they held before. So what a variable comes to hold over a
run of commands is decided by the commands that bind it, whatever stands between them.

## Main definitions

* `Action.Ensures`: every result of an action has a property.
* `Session.Command.target?`: the variable that a command may bind; `Session.Effect.Binds`: an effect
  binds it or none.
* `Session.Workspace.after`: the workspace after commands.
* `Session.Gathers`: commands of which those that bind a variable contribute items to it.

## Main results

* `Session.Command.ensures_run`: a command binds its variable or none.
* `Session.Workspace.get_execute_of_ne`: a command leaves the variables alone that it does not bind.
* `Session.Gathers.after`: what each command keeps of a variable, a run of commands keeps.
-/

namespace ContentLine

/-! ## Results of actions -/

namespace Action

variable {α β : Type} {P : β → Prop}

/-- Every result of an action has the property. -/
def Ensures (x : Action β) (P : β → Prop) : Prop :=
  ∀ b, x.result = .ok b → P b

theorem Ensures.pure {b : β} (h : P b) : (Pure.pure b : Action β).Ensures P := by
  rintro _ ⟨⟩
  exact h

theorem Ensures.fail (fault : Fault) : (Action.fail fault : Action β).Ensures P := by
  rintro _ ⟨⟩

/-- The results of a sequence are those of its last part. -/
theorem Ensures.bind {x : Action α} {f : α → Action β} (h : ∀ a, (f a).Ensures P) :
    (x >>= f).Ensures P := by
  intro b hb
  obtain ⟨a, -, hf⟩ := result_bind_eq_ok_iff.mp hb
  exact h a b hf

end Action

namespace Session

/-! ## The variable of a command -/

/-- The variable that a command binds if it succeeds. -/
def Command.target? : Command → Option String
  | .registry id _ | .scripted id _ | .factoryList id | .register id .. | .addFactories id _
  | .builder id _ | .configure id _ | .property id .. | .change id .. => some id
  | .build _ target => target
  | .copy _ target => some target
  | .lookups _ | .calls _ | .listFactories _ | .leniency | .state _ | .read _ | .validate _
  | .firstParameter .. | .allParameters .. | .equal .. | .equalOther _ | .equalHash ..
  | .describe _ => none

/-- What an effect binds, if anything, is the given variable. -/
def Effect.Binds (effect : Effect) (target : Option String) : Prop :=
  ∀ bound ∈ effect.binding, target = some bound.1

theorem Effect.binds_of_none (answer : Answer) (target : Option String) :
    Effect.Binds ⟨answer, none⟩ target := by
  rintro _ ⟨⟩

theorem Effect.binds_of_some (answer : Answer) (id : String) (binding : Binding) :
    Effect.Binds ⟨answer, some (id, binding)⟩ (some id) := by
  rintro _ ⟨⟩
  rfl

variable [ZoneDatabase]

/-- A command binds its variable or none. -/
theorem Command.ensures_run (workspace : Workspace) (command : Command) :
    (command.run workspace).Ensures (·.Binds command.target?) := by
  -- The cases go by what a command has to find out before its effect is known.
  cases command with
  | registry | scripted | factoryList | builder => exact .pure (Effect.binds_of_some _ _ _)
  | leniency => exact .pure (Effect.binds_of_none _ _)
  | lookups | calls | listFactories | state | firstParameter | allParameters | equalOther
  | describe => exact .bind fun _ => .pure (Effect.binds_of_none _ _)
  | copy => exact .bind fun _ => .pure (Effect.binds_of_some _ _ _)
  | validate id =>
    refine .bind fun property => ?_
    cases property.validate with
    | ok => exact .pure (Effect.binds_of_none _ _)
    | error fault => exact .fail _
  | read => exact .bind fun _ => .bind fun _ => .pure (Effect.binds_of_none _ _)
  | register | configure | property =>
    exact .bind fun _ => .bind fun _ => .pure (Effect.binds_of_some _ _ _)
  | build id target =>
    refine .bind fun _ => .bind fun property => .pure ?_
    cases target with
    | none => exact Effect.binds_of_none _ _
    | some target => exact Effect.binds_of_some _ _ _
  | equal =>
    exact .bind fun _ => .bind fun _ => .bind fun _ => .pure (Effect.binds_of_none _ _)
  | addFactories | change =>
    exact .bind fun _ => .bind fun _ => .bind fun _ => .pure (Effect.binds_of_some _ _ _)
  | equalHash =>
    exact .bind fun _ => .bind fun _ => .bind fun _ => .bind fun _ =>
      .pure (Effect.binds_of_none _ _)

namespace Workspace

variable {workspace : Workspace} {command : Command} {id : String}

/-- A command that succeeds with something to bind binds it. -/
theorem lookup_execute {answer : Answer} {binding : Binding}
    (h : (command.run workspace).result = .ok ⟨answer, some (id, binding)⟩) :
    (workspace.execute command).1.bindings.lookup id = some binding := by
  simp only [execute, h, bind, List.lookup_cons_self]

/-- The variable then holds what is looked for in it, if the binding is of that sort. -/
theorem get_execute {α : Type} {answer : Answer} {binding : Binding} {value : α}
    (h : (command.run workspace).result = .ok ⟨answer, some (id, binding)⟩)
    (select : Binding → Option α) (hvalue : select binding = some value) :
    (workspace.execute command).1.get id select = .ok value := by
  rw [get, lookup_execute h, Option.bind_some, hvalue]

/-- A command leaves the variables alone that it does not bind. -/
theorem lookup_execute_of_ne (h : command.target? ≠ some id) :
    (workspace.execute command).1.bindings.lookup id = workspace.bindings.lookup id := by
  cases hresult : (command.run workspace).result with
  | error fault => simp only [execute, hresult]
  | ok effect =>
    obtain ⟨answer, _ | ⟨bound, binding⟩⟩ := effect
    · simp only [execute, hresult]
    · have hbound : command.target? = some bound :=
        command.ensures_run workspace _ hresult (bound, binding) rfl
      have hne : (id == bound) = false :=
        beq_eq_false_iff_ne.mpr fun heq => h (heq ▸ hbound)
      simp only [execute, hresult, bind, List.lookup_cons, hne]

/-- These hold what they held before, whatever is looked for in them. -/
theorem get_execute_of_ne {α : Type} (select : Binding → Option α)
    (h : command.target? ≠ some id) :
    (workspace.execute command).1.get id select = workspace.get id select := by
  rw [get, get, lookup_execute_of_ne h]

/-- The workspace after commands, whether they fail or not. -/
def after (workspace : Workspace) (commands : List Command) : Workspace :=
  (workspace.runAll (commands.map .command)).1

theorem after_cons (workspace : Workspace) (first : Command) (rest : List Command) :
    workspace.after (first :: rest) = (workspace.execute first).1.after rest := rfl

theorem after_append (workspace : Workspace) (first second : List Command) :
    workspace.after (first ++ second) = (workspace.after first).after second := by
  induction first generalizing workspace with
  | nil => rfl
  | cons command rest ih => exact ih (workspace.execute command).1

/-- Commands leave the variables alone that none of them binds. -/
theorem get_after_of_ne {α : Type} {commands : List Command} (select : Binding → Option α)
    (h : ∀ command ∈ commands, command.target? ≠ some id) :
    (workspace.after commands).get id select = workspace.get id select := by
  induction commands generalizing workspace with
  | nil => rfl
  | cons command rest ih =>
    rw [after_cons, ih fun other hother => h other (List.mem_cons_of_mem _ hother)]
    exact get_execute_of_ne select (h command List.mem_cons_self)

end Workspace

/-! ## Runs of commands -/

section Gathers

variable {α : Type}

/-- Commands of which those that bind `id` are of a known form, by which each contributes items. The
others are any commands that do not bind `id`. -/
inductive Gathers (form : Command → List α → Prop) (id : String) :
    List Command → List α → Prop where
  | nil : Gathers form id [] []
  | own {command : Command} {commands : List Command} {items later : List α}
      (hform : form command items) (hrest : Gathers form id commands later) :
      Gathers form id (command :: commands) (items ++ later)
  | other {command : Command} {commands : List Command} {later : List α}
      (hother : command.target? ≠ some id) (hrest : Gathers form id commands later) :
      Gathers form id (command :: commands) later

variable {form : Command → List α → Prop} {id : String} {commands : List Command}

/-- What every command keeps of a workspace and the items so far, a run of commands keeps. -/
theorem Gathers.after (Holds : Workspace → List α → Prop)
    (hown : ∀ {workspace command gathered items}, form command items → Holds workspace gathered →
      Holds (workspace.execute command).1 (gathered ++ items))
    (hother : ∀ {workspace command gathered}, command.target? ≠ some id →
      Holds workspace gathered → Holds (workspace.execute command).1 gathered)
    {items : List α} (hgathers : Gathers form id commands items) {start : Workspace}
    (hstart : Holds start []) : Holds (start.after commands) items := by
  -- The workspace and the items before the first command are general: each command moves them.
  suffices general : ∀ workspace gathered, Holds workspace gathered →
      Holds (workspace.after commands) (gathered ++ items) from general start [] hstart
  clear hstart
  induction hgathers with
  | nil =>
    intro workspace gathered h
    rwa [List.append_nil]
  | own hform _ ih =>
    intro workspace gathered h
    rw [Workspace.after_cons, ← List.append_assoc]
    exact ih _ _ (hown hform h)
  | other hne _ ih =>
    intro workspace gathered h
    exact ih _ _ (hother hne h)

end Gathers

end Session

end ContentLine
