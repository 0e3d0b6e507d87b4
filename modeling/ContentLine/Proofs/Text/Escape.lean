import ContentLine.Text.Escape

/-!
# Reading escaped text

Each character is escaped by itself, while escaped text is read in steps of one or two characters,
so that what a character is read as depends on how many backslashes stand before it. The written
form of a character is exactly one step, whatever follows it: a backslash never stands alone in it,
to be joined with the next character. A step therefore ends where an escaped text ends.

## Main results

* `Text.escapeChar_eq_or`: the two kinds of written forms.
* `Text.unescapeChars_escapeChar_append`: the written form of a character is read in one step.
* `Text.unescape_escape_append`: an escaped text is read back, and what follows it is read as it
  would be by itself.
-/

namespace ContentLine.Text

/-! ## Steps of reading -/

/-- A character that is no backslash stands for itself. -/
theorem unescapeChars_cons_of_ne {c : Char} (hplain : c ≠ '\\') (rest : List Char) :
    unescapeChars (c :: rest) = c :: unescapeChars rest := by
  cases rest with
  | nil => rfl
  | cons next rest => rw [unescapeChars, if_neg hplain]

/-- A backslash and the code of a character stand for the character. -/
theorem unescapeChars_escaped {code c : Char} (hcode : escapedBy? code = some c)
    (rest : List Char) : unescapeChars ('\\' :: code :: rest) = c :: unescapeChars rest := by
  rw [unescapeChars, if_pos rfl, hcode]

/-! ## Written forms -/

/-- A character is written as itself, if it is no backslash, or as a backslash and its code. -/
theorem escapeChar_eq_or (c : Char) :
    escapeChar c = [c] ∧ c ≠ '\\' ∨
      ∃ code, escapeChar c = ['\\', code] ∧ escapedBy? code = some c := by
  unfold escapeChar
  split
  · exact Or.inr ⟨'\\', rfl, rfl⟩
  · exact Or.inr ⟨';', rfl, rfl⟩
  · exact Or.inr ⟨',', rfl, rfl⟩
  · exact Or.inr ⟨'n', rfl, rfl⟩
  · next hbackslash _ _ _ => exact Or.inl ⟨rfl, hbackslash⟩

/-- The written form of a character is read in one step. -/
theorem unescapeChars_escapeChar_append (c : Char) (rest : List Char) :
    unescapeChars (escapeChar c ++ rest) = c :: unescapeChars rest := by
  rcases escapeChar_eq_or c with ⟨hself, hplain⟩ | ⟨code, hpair, hcode⟩
  · rw [hself]
    exact unescapeChars_cons_of_ne hplain rest
  · rw [hpair]
    exact unescapeChars_escaped hcode rest

/-- An escaped list of characters is read back, and what follows it is read by itself. -/
theorem unescapeChars_escapeChars_append (text rest : List Char) :
    unescapeChars (escapeChars text ++ rest) = text ++ unescapeChars rest := by
  -- What follows is general, since for each character the others are part of it.
  induction text generalizing rest with
  | nil => rfl
  | cons c text ih =>
    rw [escapeChars_cons, List.append_assoc, unescapeChars_escapeChar_append, ih, List.cons_append]

@[simp] theorem unescapeChars_escapeChars (text : List Char) :
    unescapeChars (escapeChars text) = text := by
  have happend := unescapeChars_escapeChars_append text []
  rwa [List.append_nil, unescapeChars, List.append_nil] at happend

/-- An escaped text is read back, and what follows it is read as it would be by itself; so escaping
loses nothing. -/
theorem unescape_escape_append (a b : String) :
    unescape (escape a ++ b) = a ++ unescape b ∧ unescape (escape a) = a := by
  constructor
  · apply String.toList_inj.mp
    simp only [toList_unescape, String.toList_append, toList_escape]
    exact unescapeChars_escapeChars_append a.toList b.toList
  · apply String.toList_inj.mp
    simp only [toList_unescape, toList_escape, unescapeChars_escapeChars]

/-- An escaped backslash and an `n` after it are not taken for a line feed. -/
example : unescape (escape "\\" ++ "n") = "\\n" := by decide

end ContentLine.Text
