import ContentLine.Property.Basic
import ContentLine.Proofs.Text.SelfDelimiting

/-!
# What a description shows

The description of a property is a record of its kind, its name, its parameters and its value, with
every text quoted. Names and values may hold anything, also text that looks like the rest of a
record, but a quoted text shows where it ends, so each part of the record can be told from what
comes after it. Two literal properties therefore look the same exactly if they are equal. A date
property shows the literal of its value only, and not how its zone is resolved.

## Main results

* `Parameter.selfDelimiting_description`, `Parameter.selfDelimiting_descriptions`: parameters, and
  lists of them, can be told from what follows.
* `Property.description_eq_iff`: descriptions are the same if all that they show is.
* `Property.description_eq_iff_agrees`: descriptions tell literal properties apart just as equality
  does.
-/

namespace ContentLine

open Text (SelfDelimiting)

attribute [ext] Parameter LiteralProperty

/-! ## Parameters -/

namespace Parameter

/-- Described parameters are self-delimiting. -/
theorem selfDelimiting_description :
    SelfDelimiting fun parameter : Parameter => parameter.description.toList := by
  intro a b x y h
  unfold description at h
  simp only [String.toList_append, Text.toList_quote, List.append_assoc] at h
  obtain ⟨hname, h⟩ := Text.selfDelimiting_quoteChars (List.append_cancel_left h)
  obtain ⟨hvalue, h⟩ := Text.selfDelimiting_quoteChars (List.append_cancel_left h)
  exact ⟨Parameter.ext (String.toList_inj.mp hname) (String.toList_inj.mp hvalue),
    List.append_cancel_left h⟩

/-- A parameter as it is described behind others in a list. -/
def continued (parameter : Parameter) : List Char :=
  ", ".toList ++ parameter.description.toList

/-- Described parameters with a comma before each are self-delimiting. -/
theorem selfDelimiting_continued : SelfDelimiting continued := by
  intro a b x y h
  rw [continued, continued, List.append_assoc, List.append_assoc] at h
  exact selfDelimiting_description (List.append_cancel_left h)

/-- The parameters of a list in a row, with commas between them. -/
theorem intercalate_description (first : Parameter) (rest : List Parameter) :
    (", ".intercalate ((first :: rest).map description)).toList =
      first.description.toList ++ rest.flatMap continued := by
  induction rest generalizing first with
  | nil => simp
  | cons next rest ih =>
    have hnext := ih next
    rw [List.map_cons] at hnext
    rw [List.map_cons, List.map_cons, String.intercalate_cons_cons, String.toList_append,
      String.toList_append, hnext, List.flatMap_cons, continued]
    simp only [List.append_assoc]

/-- The description of a list and what follows, by the first parameter and those behind it. -/
theorem toList_descriptions_cons_append (first : Parameter) (rest : List Parameter)
    (x : List Char) :
    (descriptions (first :: rest)).toList ++ x =
      "[".toList ++ (first.description.toList ++ (rest.flatMap continued ++ [']'] ++ x)) := by
  have hclose : "]".toList = [']'] := rfl
  unfold descriptions
  rw [String.toList_append, String.toList_append, intercalate_description, hclose]
  simp only [List.append_assoc]

/-- No parameter begins like the end of a list. -/
theorem description_append_ne (parameter : Parameter) (x y : List Char) :
    parameter.description.toList ++ x ≠ ']' :: y := by
  unfold description
  simp

/-- No parameter behind others begins like the end of a list. -/
theorem continued_append_ne (parameter : Parameter) (x y : List Char) :
    continued parameter ++ x ≠ ']' :: y := by
  simp [continued]

/-- A list of parameters is not described like the empty one, whatever follows. -/
theorem descriptions_cons_append_ne (first : Parameter) (rest : List Parameter)
    (x y : List Char) :
    (descriptions (first :: rest)).toList ++ x ≠ (descriptions []).toList ++ y := by
  intro h
  have hempty : (descriptions []).toList = "[".toList ++ [']'] := rfl
  rw [toList_descriptions_cons_append, hempty, List.append_assoc] at h
  exact description_append_ne first _ _ (List.append_cancel_left h)

/-- Described lists of parameters are self-delimiting. -/
theorem selfDelimiting_descriptions :
    SelfDelimiting fun parameters : List Parameter => (descriptions parameters).toList := by
  intro list other x y h
  dsimp only at h
  cases list with
  | nil =>
    cases other with
    | nil => exact ⟨rfl, List.append_cancel_left h⟩
    | cons first rest => exact absurd h.symm (descriptions_cons_append_ne first rest y x)
  | cons first rest =>
    cases other with
    | nil => exact absurd h (descriptions_cons_append_ne first rest x y)
    | cons first' rest' =>
      rw [toList_descriptions_cons_append, toList_descriptions_cons_append] at h
      obtain ⟨rfl, hrest⟩ := selfDelimiting_description (List.append_cancel_left h)
      -- Behind the first parameter each has a comma before it, up to the bracket.
      obtain ⟨rfl, hfollow⟩ := selfDelimiting_continued.closed continued_append_ne hrest
      exact ⟨rfl, hfollow⟩

end Parameter

/-! ## Kinds -/

namespace Kind

/-- No name of a kind has a parenthesis in it. -/
theorem not_mem_name (kind : Kind) : '(' ∉ kind.name.toList := by
  rcases kind with kind | kind <;> cases kind <;> decide

/-- Different kinds have different names. -/
theorem name_injective : Function.Injective name := by
  rintro (a | a) (b | b) <;> cases a <;> cases b <;> decide

end Kind

/-! ## Properties -/

namespace Property

/-- Two properties have the same description exactly if they have the same kind, name, parameters
and value. -/
theorem description_eq_iff {a b : Property} :
    a.description = b.description ↔
      a.kind = b.kind ∧ a.name = b.name ∧ a.parameters = b.parameters ∧ a.value = b.value := by
  constructor
  · intro h
    have hopen : "(name=".toList = '(' :: "name=".toList := rfl
    replace h := congrArg String.toList h
    unfold description at h
    simp only [String.toList_append, Text.toList_quote, List.append_assoc, hopen,
      List.cons_append] at h
    -- Each part of the record shows where it ends.
    obtain ⟨hkind, h⟩ := Text.eq_of_append_cons a.kind.not_mem_name b.kind.not_mem_name h
    obtain ⟨hname, h⟩ := Text.selfDelimiting_quoteChars (List.append_cancel_left h)
    obtain ⟨hparameters, h⟩ :=
      Parameter.selfDelimiting_descriptions (List.append_cancel_left h)
    obtain ⟨hvalue, -⟩ := Text.selfDelimiting_quoteChars (List.append_cancel_left h)
    exact ⟨Kind.name_injective (String.toList_inj.mp hkind), String.toList_inj.mp hname,
      hparameters, String.toList_inj.mp hvalue⟩
  · rintro ⟨hkind, hname, hparameters, hvalue⟩
    unfold description
    rw [hkind, hname, hparameters, hvalue]

/-- Two literal properties have the same description exactly if they are equal, whatever their
names, parameters and values hold. -/
theorem description_eq_iff_agrees (leniency : Leniency) (a b : LiteralProperty) :
    (literal a).description = (literal b).description ↔
      (literal a).agrees leniency (literal b) = pure true := by
  have hagrees : (literal a).agrees leniency (literal b) = pure true ↔ a = b := by
    simp [agrees, Action.pure_def]
  rw [hagrees, description_eq_iff]
  constructor
  · rintro ⟨hkind, hname, hparameters, hvalue⟩
    exact LiteralProperty.ext (Kind.literal.inj hkind) hname hparameters hvalue
  · rintro rfl
    exact ⟨rfl, rfl, rfl, rfl⟩

/-- A value that holds both quotes and looks like the end of a record is still one value. -/
example : (literal ⟨.plain, "A", [], "x'', value=\"y"⟩).description =
    "PlainProperty(name='A', params=[], value='x\\'\\', value=\"y')" := by decide

end Property

end ContentLine
