import ContentLine.Property.Basic

/-!
# Histories of properties

Properties are created, copied, changed and questioned in any order, and each operation may fail. A
property is known by its position in the order of creation, so what happens to a property and to its
copies is told apart. An operation that fails leaves all properties as they were, and the switches
of leniency may be set anew before each operation.

## Main definitions

* `Property.Question`, `Property.Operation`: what is asked of properties and done to them.
* `Property.Operation.run`, `Property.Operation.apply`: an operation, and the properties after it.
* `Property.after`: the properties after a history, `Property.datedAt?` the date property among them
  at a position.
* `Property.Provenance`: where a date property comes from in one operation.

## Main results

* `Property.provenance_of_apply`: every date property after an operation comes from it in one of
  four ways.
* `Property.forall_after`: what every operation keeps of the date properties, a history keeps.
-/

namespace ContentLine

namespace Property

/-! ## Operations -/

/-- What can be asked of properties without changing them. -/
inductive Question where
  /-- The date or date-time that the property reads as. -/
  | read (position : Nat)
  /-- Whether the property is valid. -/
  | validate (position : Nat)
  /-- Whether the first property equals the second. -/
  | equal (first second : Nat)
  /-- What properties equal to this one share. -/
  | key (position : Nat)

/-- What can be done with properties. Nothing is done where there is no property. -/
inductive Operation where
  /-- Create a property, with the value of a text. -/
  | create (kind : Kind) (name : String) (parameters : List Parameter) (text : String)
      (registry : ZoneRegistry)
  | copy (position : Nat)
  | change (position : Nat) (edit : Change)
  | ask (question : Question)

/-- Ask a question of the properties; only whether it can be answered and the events matter. -/
def Question.run (leniency : Leniency) (properties : List Property) : Question → Action Unit
  | .read position =>
    match properties[position]? with
    | none => pure ()
    | some property => do
      let _ ← property.read leniency
      return ()
  | .validate position =>
    match properties[position]? with
    | none => pure ()
    | some property =>
      match property.validate with
      | .ok () => pure ()
      | .error fault => Action.fail (.invalid fault)
  | .equal first second =>
    match properties[first]?, properties[second]? with
    | some a, some b => do
      let _ ← a.agrees leniency b
      return ()
    | _, _ => pure ()
  | .key position =>
    match properties[position]? with
    | none => pure ()
    | some property => do
      let _ ← property.key leniency
      return ()

namespace Operation

/-- The properties that an operation leaves if it succeeds. New properties are put at the end. -/
def run (leniency : Leniency) (properties : List Property) : Operation → Action (List Property)
  | .create kind name parameters text registry => do
    let property ← Property.create leniency kind name parameters text registry
    return properties ++ [property]
  | .copy position =>
    match properties[position]? with
    | none => pure properties
    | some property => pure (properties ++ [property])
  | .change position edit =>
    match properties[position]? with
    | none => pure properties
    | some property => do
      let changed ← property.change leniency edit
      return properties.set position changed
  | .ask question => do
    question.run leniency properties
    return properties

/-- The properties after an operation; one that fails leaves them as they were. -/
def apply (leniency : Leniency) (properties : List Property) (operation : Operation) :
    List Property :=
  match (operation.run leniency properties).result with
  | .ok later => later
  | .error _ => properties

variable {leniency : Leniency} {properties : List Property}

theorem apply_create (kind : Kind) (name : String) (parameters : List Parameter) (text : String)
    (registry : ZoneRegistry) :
    apply leniency properties (.create kind name parameters text registry) =
      match (Property.create leniency kind name parameters text registry).result with
      | .ok property => properties ++ [property]
      | .error _ => properties := by
  rw [apply, run, Action.result_bind]
  cases (Property.create leniency kind name parameters text registry).result <;> rfl

theorem apply_copy (position : Nat) :
    apply leniency properties (.copy position) = properties ++ properties[position]?.toList := by
  rw [apply, run]
  cases properties[position]? with
  | none => exact (List.append_nil properties).symm
  | some property => rfl

theorem apply_change (position : Nat) (edit : Change) :
    apply leniency properties (.change position edit) =
      match properties[position]? with
      | none => properties
      | some property =>
        match (property.change leniency edit).result with
        | .ok changed => properties.set position changed
        | .error _ => properties := by
  rw [apply, run]
  cases properties[position]? with
  | none => rfl
  | some property =>
    dsimp only
    rw [Action.result_bind]
    cases (property.change leniency edit).result <;> rfl

/-- A question changes nothing, whether it can be answered or not. -/
@[simp] theorem apply_ask (question : Question) :
    apply leniency properties (.ask question) = properties := by
  rw [apply, run, Action.result_bind]
  cases (question.run leniency properties).result <;> rfl

end Operation

/-! ## Histories -/

/-- The properties after a history, which lists the operations, the latest first, each with the
switches it was done under. -/
def after : List (Leniency × Operation) → List Property
  | [] => []
  | (leniency, operation) :: earlier => operation.apply leniency (after earlier)

/-- The date property at a position, if there is one. -/
def datedAt? (properties : List Property) (position : Nat) : Option DateProperty :=
  match properties[position]? with
  | some (.dated property) => some property
  | _ => none

theorem datedAt?_eq_some_iff {properties : List Property} {position : Nat}
    {property : DateProperty} :
    datedAt? properties position = some property ↔
      properties[position]? = some (.dated property) := by
  rw [datedAt?]
  split
  next found hfound => simp [hfound]
  next hnone =>
    constructor
    · intro h
      cases h
    · intro h
      exact absurd h (hnone property)

/-- Where the date property at a position comes from, in an operation on the properties before. -/
inductive Provenance (leniency : Leniency) (before : List Property) (position : Nat)
    (property : DateProperty) : Operation → Prop
  /-- The property is created. -/
  | created (kind : DateKind) (name : String) (parameters : List Parameter) (text : String)
      (registry : ZoneRegistry) (hposition : position = before.length)
      (hcreate : (DateProperty.create leniency kind name parameters text registry).result =
        .ok property) :
      Provenance leniency before position property
        (.create (.date kind) name parameters text registry)
  /-- The property is the copy of another. -/
  | copied (source : Nat) (hposition : position = before.length)
      (hsource : before[source]? = some (.dated property)) :
      Provenance leniency before position property (.copy source)
  /-- The property was another before it was changed. -/
  | changed (edit : Change) (old : DateProperty) (hold : before[position]? = some (.dated old))
      (hedit : ((Property.dated old).change leniency edit).result = .ok (.dated property)) :
      Provenance leniency before position property (.change position edit)
  /-- The property was there before, and a change of it, if there was one, failed. -/
  | kept (operation : Operation) (hbefore : before[position]? = some (.dated property))
      (hfailed : ∀ edit, operation = .change position edit →
        ∃ fault, ((Property.dated property).change leniency edit).result = .error fault) :
      Provenance leniency before position property operation

/-- A property of a list with one more at the end is that one or was there before. -/
theorem getElem?_append_singleton_eq_some {before : List Property} {position : Nat}
    {last property : Property} (h : (before ++ [last])[position]? = some property) :
    before[position]? = some property ∨ position = before.length ∧ last = property := by
  rw [List.getElem?_append] at h
  split at h
  next => exact Or.inl h
  next hle =>
    obtain ⟨hlt, hlast⟩ := List.getElem?_eq_some_iff.mp h
    simp only [List.length_singleton] at hlt
    have hposition : position = before.length := by omega
    exact Or.inr ⟨hposition, by simpa using hlast⟩

/-- A date property is created only by a date kind. -/
theorem create_eq_dated {leniency : Leniency} {kind : Kind} {name : String}
    {parameters : List Parameter} {text : String} {registry : ZoneRegistry}
    {property : DateProperty}
    (h : (create leniency kind name parameters text registry).result = .ok (.dated property)) :
    ∃ dateKind, kind = .date dateKind ∧
      (DateProperty.create leniency dateKind name parameters text registry).result =
        .ok property := by
  cases kind with
  | literal literalKind => simp [create] at h
  | date dateKind =>
    obtain ⟨created, hcreated, heq⟩ := Action.result_bind_eq_ok_iff.mp h
    cases heq
    exact ⟨dateKind, rfl, hcreated⟩

/-- Setting the value of a text as a change gives what setting it gives. -/
theorem change_setValue_eq_ok_iff {leniency : Leniency} {text : String}
    {old property : DateProperty} :
    ((Property.dated old).change leniency (.setValue text)).result = .ok (.dated property) ↔
      (old.setValue leniency text).result = .ok property := by
  rw [change, Action.result_bind]
  cases (old.setValue leniency text).result <;> simp [Except.bind]

/-- Setting the value of a text as a change fails as setting it fails. -/
theorem change_setValue_eq_error_iff {leniency : Leniency} {text : String} {old : DateProperty}
    {fault : Fault} :
    ((Property.dated old).change leniency (.setValue text)).result = .error fault ↔
      (old.setValue leniency text).result = .error fault := by
  rw [change, Action.result_bind]
  cases (old.setValue leniency text).result <;> simp [Except.bind]

/-- Only a date property is a date property after a change. -/
theorem change_eq_dated {leniency : Leniency} {old : Property} {edit : Change}
    {property : DateProperty} (h : (old.change leniency edit).result = .ok (.dated property)) :
    ∃ oldDate, old = .dated oldDate := by
  cases old with
  | dated oldDate => exact ⟨oldDate, rfl⟩
  | literal oldLiteral =>
    cases edit <;> simp [change, withParameters, dated?, Action.result_bind, Except.bind] at h

/-- Every date property after an operation is created, copied, changed or kept by it. -/
theorem provenance_of_apply {leniency : Leniency} {before : List Property} {operation : Operation}
    {position : Nat} {property : DateProperty}
    (h : (operation.apply leniency before)[position]? = some (.dated property)) :
    Provenance leniency before position property operation := by
  -- Each operation touches at most one position, where it appends or replaces a property.
  cases operation with
  | create kind name parameters text registry =>
    rw [Operation.apply_create] at h
    split at h
    next created hcreated =>
      rcases getElem?_append_singleton_eq_some h with hbefore | ⟨hposition, rfl⟩
      · exact .kept _ hbefore (by simp)
      · obtain ⟨dateKind, rfl, hcreate⟩ := create_eq_dated hcreated
        exact .created dateKind name parameters text registry hposition hcreate
    next => exact .kept _ h (by simp)
  | copy source =>
    rw [Operation.apply_copy] at h
    cases hsource : before[source]? with
    | none =>
      rw [hsource, Option.toList_none, List.append_nil] at h
      exact .kept _ h (by simp)
    | some copied =>
      rw [hsource, Option.toList_some] at h
      rcases getElem?_append_singleton_eq_some h with hbefore | ⟨hposition, rfl⟩
      · exact .kept _ hbefore (by simp)
      · exact .copied source hposition hsource
  | change target edit =>
    rw [Operation.apply_change] at h
    by_cases htarget : target = position
    · subst htarget
      cases hold : before[target]? with
      | none => simp [hold] at h
      | some old =>
        simp only [hold] at h
        cases hedit : (old.change leniency edit).result with
        | error fault =>
          -- The change failed, so the property is the one that was to be changed.
          simp only [hedit] at h
          obtain rfl : old = .dated property := by simpa [hold] using h
          refine .kept _ hold ?_
          intro other heq
          cases heq
          exact ⟨fault, hedit⟩
        | ok changed =>
          simp only [hedit] at h
          obtain rfl : changed = .dated property := by
            rw [List.getElem?_set_self'] at h
            simpa [hold] using h
          obtain ⟨oldDate, rfl⟩ := change_eq_dated hedit
          exact .changed edit oldDate hold hedit
    · refine .kept _ ?_ (fun other heq => by cases heq; exact absurd rfl htarget)
      split at h
      next => exact h
      next =>
        split at h
        next => rwa [List.getElem?_set_ne htarget] at h
        next => exact h
  | ask question =>
    rw [Operation.apply_ask] at h
    exact .kept _ h (by simp)

/-- What every operation of a history leaves true of the date properties, if it was true of all of
them before, is true of all of them after the history. -/
theorem forall_after {holds : DateProperty → Prop} {history : List (Leniency × Operation)}
    (hstep : ∀ step ∈ history, ∀ before position property,
      (∀ (position : Nat) (old : DateProperty),
        before[position]? = some (.dated old) → holds old) →
      Provenance step.1 before position property step.2 → holds property)
    {position : Nat} {property : DateProperty}
    (hproperty : (after history)[position]? = some (.dated property)) : holds property := by
  -- The position is general, since copies move a property to another one.
  induction history generalizing position property with
  | nil => cases hproperty
  | cons step earlier ih =>
    refine hstep step List.mem_cons_self (after earlier) position property ?_
      (provenance_of_apply hproperty)
    intro position old hold
    exact ih (fun step hmem => hstep step (List.mem_cons_of_mem _ hmem)) hold

end Property

end ContentLine
