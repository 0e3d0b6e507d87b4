import ContentLine.Property.Basic

/-!
# Editing parameters

The ordered list of parameters stands for a map from names to sequences of parameters. What is found
under a name depends on the entries and the edits of that name alone: adding appends to them,
removing leaves none, and replacing leaves just the new one. Two spellings are one name if they have
the same upper case. A parameter is kept in upper case, and is looked up and removed by the upper
case of a spelling, so it matters that a text in upper case stays as it is.

## Main definitions

* `Parameter.Edit`: an edit with its name as it is spelled; `Parameter.Edit.apply`: the list after
  it.
* `Parameter.Edit.onEntries`: what an edit does to the entries of its own name.
* `Parameter.sameName`: two spellings are one name.
* `Property.edited`: a property after edits of its parameters.

## Main results

* `Parameter.filter_apply`, `Parameter.filter_foldl_apply`: on the parameters of some names, edits
  do what the edits of these names do.
* `Property.edited_eq`: edits never fail and change nothing but the parameters.
* `Property.parameters_of_edited`: the parameters after any edits, by name and in order.
-/

namespace ContentLine

namespace Parameter

/-! ## Edits -/

/-- An edit of a list of parameters, its name spelled in any way. -/
inductive Edit where
  /-- Append a parameter. -/
  | add (name value : String)
  /-- Put a parameter in the place of all of its name. -/
  | replace (name value : String)
  /-- Remove all parameters of a name. -/
  | remove (name : String)

namespace Edit

/-- The name that an edit is about, as it is spelled. -/
def name : Edit → String
  | add name _ | replace name _ | remove name => name

/-- The edit as a change of a property. -/
def change : Edit → Property.Change
  | add name value => .addParameter (.of name value)
  | replace name value => .replaceParameter (.of name value)
  | remove name => .removeParameters name

/-- The list of parameters after an edit. -/
def apply (parameters : List Parameter) : Edit → List Parameter
  | add name value => Parameter.add (.of name value) parameters
  | replace name value => Parameter.replace (.of name value) parameters
  | remove name => Parameter.remove name parameters

/-- The entries of the name of an edit after it: one more, the new one only, or none. -/
def onEntries (entries : List Parameter) : Edit → List Parameter
  | add name value => entries ++ [.of name value]
  | replace name value => [.of name value]
  | remove _ => []

end Edit

/-- Whether two spellings are one name. -/
def sameName (a b : String) : Bool :=
  Text.upper a == Text.upper b

/-- A parameter is named by every spelling of its name. -/
theorem isNamed_eq_sameName (name : String) (parameter : Parameter) :
    isNamed name parameter = sameName parameter.name name := by
  rw [isNamed, sameName, parameter.name_upper]

/-- The upper case of a spelling is a spelling of the same name. -/
theorem sameName_upper (spelling name : String) :
    sameName (Text.upper spelling) name = sameName spelling name := by
  rw [sameName, sameName, Text.upper_upper]

theorem all_eq_filter (name : String) (parameters : List Parameter) :
    all name parameters = parameters.filter fun parameter => sameName parameter.name name := by
  apply List.filter_congr
  intro parameter _
  exact isNamed_eq_sameName name parameter

/-! ## Edits and the parameters of some names -/

section Restriction

variable (keep : String → Bool) (parameters : List Parameter)

/-- An added parameter is kept if its name is. -/
theorem filter_add (parameter : Parameter) :
    (add parameter parameters).filter (keep ·.name) =
      if keep parameter.name then add parameter (parameters.filter (keep ·.name))
      else parameters.filter (keep ·.name) := by
  rw [add, List.filter_append]
  by_cases hkeep : keep parameter.name = true
  · simp [hkeep, add]
  · simp [hkeep]

/-- Removing a name commutes with keeping names. -/
theorem filter_remove (name : String) :
    (remove name parameters).filter (keep ·.name) =
      remove name (parameters.filter (keep ·.name)) := by
  rw [remove, remove, List.filter_filter, List.filter_filter]
  apply List.filter_congr
  intro parameter _
  exact Bool.and_comm _ _

/-- There is nothing to remove of a name that is not kept. -/
theorem remove_filter_of_not_keep {name : String} (hkeep : keep (Text.upper name) = false) :
    remove name (parameters.filter (keep ·.name)) = parameters.filter (keep ·.name) := by
  rw [remove, List.filter_eq_self]
  intro parameter hparameter
  have hkept : keep parameter.name = true := (List.mem_filter.mp hparameter).2
  have hne : parameter.name ≠ Text.upper name := by
    intro hname
    rw [hname, hkeep] at hkept
    cases hkept
  simpa [isNamed] using hne

/-- On the parameters of the names that are kept, an edit does what it does to a list of them alone,
if its name is kept, and nothing if it is not. -/
theorem filter_apply (edit : Edit) :
    (edit.apply parameters).filter (keep ·.name) =
      if keep (Text.upper edit.name) then edit.apply (parameters.filter (keep ·.name))
      else parameters.filter (keep ·.name) := by
  cases edit with
  | add name value => exact filter_add keep parameters (of name value)
  | replace name value =>
    have hupper : Text.upper (of name value).name = (of name value).name :=
      (of name value).name_upper
    change (Parameter.replace (of name value) parameters).filter (keep ·.name) = _
    rw [Parameter.replace, filter_add, filter_remove]
    -- If the name is not kept, then nothing of it was there to be replaced.
    by_cases hkeep : keep (of name value).name = true
    · rw [if_pos hkeep, Edit.name]
      exact (if_pos hkeep).symm
    · rw [if_neg hkeep, Edit.name]
      rw [remove_filter_of_not_keep keep parameters (by simpa [hupper] using hkeep)]
      exact (if_neg hkeep).symm
  | remove name =>
    change (Parameter.remove name parameters).filter (keep ·.name) = _
    rw [filter_remove, Edit.name]
    by_cases hkeep : keep (Text.upper name) = true
    · rw [if_pos hkeep, Edit.apply]
    · rw [if_neg hkeep, remove_filter_of_not_keep keep parameters (by simpa using hkeep)]

/-- On the parameters of the names that are kept, edits do what the edits of these names do. -/
theorem filter_foldl_apply (edits : List Edit) :
    (edits.foldl Edit.apply parameters).filter (keep ·.name) =
      (edits.filter fun edit => keep (Text.upper edit.name)).foldl Edit.apply
        (parameters.filter (keep ·.name)) := by
  induction edits generalizing parameters with
  | nil => rfl
  | cons edit rest ih =>
    rw [List.foldl_cons, ih, filter_apply, List.filter_cons]
    split
    · rw [List.foldl_cons]
    · rfl

end Restriction

/-! ## Edits of one name -/

/-- An edit of the only name in a list adds to the list, replaces it or empties it. -/
theorem apply_eq_onEntries {edit : Edit} {entries : List Parameter}
    (h : ∀ entry ∈ entries, entry.name = Text.upper edit.name) :
    edit.apply entries = edit.onEntries entries := by
  have hremove (spelling : String) (hspelling : Text.upper spelling = Text.upper edit.name) :
      remove spelling entries = [] := by
    rw [remove, List.filter_eq_nil_iff]
    intro entry hentry
    simp [isNamed, hspelling, h entry hentry]
  cases edit with
  | add name value => rfl
  | replace name value =>
    change add (of name value) (Parameter.remove (of name value).name entries) = [of name value]
    rw [hremove _ (of name value).name_upper, add, List.nil_append]
  | remove name => exact hremove name rfl

/-- The entries that an edit leaves of a name have that name. -/
theorem name_of_mem_onEntries {edit : Edit} {entries : List Parameter}
    (h : ∀ entry ∈ entries, entry.name = Text.upper edit.name) :
    ∀ entry ∈ edit.onEntries entries, entry.name = Text.upper edit.name := by
  intro entry hentry
  cases edit with
  | add name value =>
    rcases List.mem_append.mp hentry with hold | hnew
    · exact h entry hold
    · rw [List.mem_singleton.mp hnew]
      rfl
  | replace name value =>
    rw [List.mem_singleton.mp hentry]
    rfl
  | remove name => cases hentry

/-- Edits of the only name in a list add to it, replace it or empty it one after the other. -/
theorem foldl_apply_eq_onEntries (name : String) {edits : List Edit} {entries : List Parameter}
    (hentries : ∀ entry ∈ entries, entry.name = Text.upper name)
    (hedits : ∀ edit ∈ edits, Text.upper edit.name = Text.upper name) :
    edits.foldl Edit.apply entries = edits.foldl Edit.onEntries entries := by
  -- Each edit leaves a list with that one name, to which the next can be applied.
  induction edits generalizing entries with
  | nil => rfl
  | cons edit rest ih =>
    have hedit : Text.upper edit.name = Text.upper name := hedits edit List.mem_cons_self
    have hnamed : ∀ entry ∈ entries, entry.name = Text.upper edit.name := by
      intro entry hentry
      rw [hedit, hentries entry hentry]
    rw [List.foldl_cons, List.foldl_cons, apply_eq_onEntries hnamed]
    apply ih
    · intro entry hentry
      rw [name_of_mem_onEntries hnamed entry hentry, hedit]
    · intro other hother
      exact hedits other (List.mem_cons_of_mem edit hother)

/-- After edits, the parameters of a name are what the edits of that name, one after the other, make
of those that there were. -/
theorem all_foldl_apply (name : String) (edits : List Edit) (parameters : List Parameter) :
    all name (edits.foldl Edit.apply parameters) =
      (edits.filter (sameName ·.name name)).foldl Edit.onEntries
        (parameters.filter (sameName ·.name name)) := by
  rw [all_eq_filter, filter_foldl_apply (sameName · name)]
  simp only [sameName_upper]
  -- What is left is about the edits and the entries of this name alone.
  apply foldl_apply_eq_onEntries name
  · intro entry hentry
    have hsame := (List.mem_filter.mp hentry).2
    rw [← entry.name_upper]
    exact beq_iff_eq.mp hsame
  · intro edit hedit
    have hsame := (List.mem_filter.mp hedit).2
    exact beq_iff_eq.mp hsame

/-- The sharp s is spelled SS in upper case, so all but one of these edits are of one name. -/
example :
    all "STRASSE" ([.add "straße" "1", .add "x" "2", .replace "Strasse" "3",
      .add "STRASSE" "4"].foldl Edit.apply []) = [of "strasse" "3", of "strasse" "4"] := by
  decide +kernel

end Parameter

/-! ## Edits of a property -/

namespace Property

@[simp] theorem parameters_withParameters (parameters : List Parameter) (property : Property) :
    (property.withParameters parameters).parameters = parameters := by
  cases property <;> rfl

@[simp] theorem withParameters_withParameters (first second : List Parameter)
    (property : Property) :
    (property.withParameters first).withParameters second = property.withParameters second := by
  cases property <;> rfl

@[simp] theorem withParameters_parameters (property : Property) :
    property.withParameters property.parameters = property := by
  cases property <;> rfl

/-- A property after edits of its parameters, in order. -/
def edited (leniency : Leniency) (property : Property) (edits : List Parameter.Edit) :
    Action Property :=
  edits.foldlM (fun property edit => property.change leniency edit.change) property

/-- One edit never fails, and changes nothing but the parameters. -/
theorem change_edit (leniency : Leniency) (property : Property) (edit : Parameter.Edit) :
    property.change leniency edit.change =
      pure (property.withParameters (edit.apply property.parameters)) := by
  cases edit <;> rfl

/-- Edits never fail, and change nothing but the parameters. -/
theorem edited_eq (leniency : Leniency) (property : Property) (edits : List Parameter.Edit) :
    property.edited leniency edits =
      pure (property.withParameters (edits.foldl Parameter.Edit.apply property.parameters)) := by
  induction edits generalizing property with
  | nil => rw [List.foldl_nil, withParameters_parameters]; rfl
  | cons edit rest ih =>
    rw [edited, List.foldlM_cons, change_edit, pure_bind]
    have hrest := ih (property.withParameters (edit.apply property.parameters))
    rw [parameters_withParameters, withParameters_withParameters] at hrest
    exact hrest

/-- Edits of the parameters of a property, of any kind, never fail and change nothing else. Under
each name they leave what the edits of that name alone make of the entries of that name, with the
first of these as the first parameter of the name. The parameters of all other names are, in their
order, what the edits of other names make of them. A parameter that is added or put in the place of
others is the last of all. -/
theorem parameters_of_edited (leniency : Leniency) (property : Property)
    (edits : List Parameter.Edit) :
    ∃ parameters, property.edited leniency edits = pure (property.withParameters parameters) ∧
      (∀ name, Parameter.all name parameters =
        (edits.filter (Parameter.sameName ·.name name)).foldl Parameter.Edit.onEntries
          (property.parameters.filter (Parameter.sameName ·.name name))) ∧
      (∀ name, Parameter.first? name parameters = (Parameter.all name parameters).head?) ∧
      (∀ name, parameters.filter (!Parameter.sameName ·.name name) =
        (edits.filter (!Parameter.sameName ·.name name)).foldl Parameter.Edit.apply
          (property.parameters.filter (!Parameter.sameName ·.name name))) ∧
      ∀ earlier name value,
        edits = earlier ++ [.add name value] ∨ edits = earlier ++ [.replace name value] →
          parameters.getLast? = some (Parameter.of name value) := by
  refine ⟨_, edited_eq leniency property edits, ?_, ?_, ?_, ?_⟩
  · intro name
    exact Parameter.all_foldl_apply name edits property.parameters
  · intro name
    exact (Parameter.head?_all name _).symm
  · -- The names other than this one are some names as well.
    intro name
    rw [Parameter.filter_foldl_apply fun spelling => !Parameter.sameName spelling name]
    simp only [Parameter.sameName_upper]
  · -- Both edits put the parameter after what they leave of the list.
    rintro earlier name value (rfl | rfl)
    all_goals
      rw [List.foldl_append]
      exact List.getLast?_concat

end Property

end ContentLine
