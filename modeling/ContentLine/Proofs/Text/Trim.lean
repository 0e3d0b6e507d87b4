import ContentLine.Proofs.Text.Escape
import ContentLine.Text.Blank
import Mathlib.Data.List.DropRight

/-!
# Trimming escaped text

A value is trimmed while it is escaped and read afterwards. Of the blank characters only the line
feed is escaped, and no code of a character is blank, so trimming cuts no written form in two: it
removes the blanks that stand for themselves and stops at an escaped line feed. What is read of a
trimmed text therefore has no such blank at its ends, and is not trimmed any further when it is
written again.

## Main definitions

* `Text.isBareBlank`: a blank character other than the line feed.
* `Text.dropEnds`: a text without its longest ends of characters of a class.
* `Text.trimBare`: a string without its ends of blank characters other than the line feed.

## Main results

* `Text.trimChars_escapeChars`: trimming what is written removes the bare blanks of the text.
* `Text.unescape_trim_escape`: so reading what is left gives the text without those.
* `Text.dropEnds_unescapeChars_trimChars`: what is read of a trimmed text has none at its ends.
-/

namespace ContentLine.Text

/-! ## Ends of a text -/

/-- A blank character other than the line feed, which is the only blank that is escaped. -/
def isBareBlank (c : Char) : Bool :=
  isBlank c && c != '\n'

/-- A text without the longest ends of it that consist of characters of a class. -/
def dropEnds (drops : Char → Bool) (text : List Char) : List Char :=
  (text.dropWhile drops).rdropWhile drops

/-- A string without the blank characters at its ends, up to the first and the last character that
is a line feed or not blank. -/
def trimBare (text : String) : String :=
  String.ofList (dropEnds isBareBlank text.toList)

@[simp] theorem toList_trimBare (text : String) :
    (trimBare text).toList = dropEnds isBareBlank text.toList :=
  String.toList_ofList

/-- Trimming drops the ends of blank characters. -/
theorem trimChars_eq_dropEnds (text : List Char) : trimChars text = dropEnds isBlank text := rfl

section Ends

variable {drops : Char → Bool} {text : List Char} {c : Char}

theorem eq_false_of_mem_getLast?_dropEnds (h : c ∈ (dropEnds drops text).getLast?) :
    drops c = false := by
  obtain ⟨hne, rfl⟩ := List.mem_getLast?_eq_getLast h
  exact eq_false_of_ne_true (List.rdropWhile_last_not drops _ hne)

theorem eq_false_of_mem_head?_dropEnds (h : c ∈ (dropEnds drops text).head?) :
    drops c = false := by
  -- Dropping the end of a text leaves its first character, if it leaves any.
  have hmem : c ∈ (text.dropWhile drops).head? := by
    obtain ⟨tail, htail⟩ := List.rdropWhile_prefix drops (text.dropWhile drops)
    rw [← htail]
    exact List.mem_head?_append_of_mem_head? h
  have hhead := List.head?_dropWhile_not drops text
  rw [Option.mem_def.mp hmem] at hhead
  exact hhead

/-- A text whose first and last character are not of the class has no ends to drop. -/
theorem dropEnds_eq_self (hhead : ∀ c ∈ text.head?, drops c = false)
    (hlast : ∀ c ∈ text.getLast?, drops c = false) : dropEnds drops text = text := by
  have hstart : text.dropWhile drops = text := by
    rw [List.dropWhile_eq_self_iff]
    intro hlength
    rw [hhead text[0] (by rw [List.head?_eq_getElem?, List.getElem?_eq_getElem hlength]; rfl)]
    exact Bool.false_ne_true
  rw [dropEnds, hstart, List.rdropWhile_eq_self_iff]
  intro hne
  rw [hlast _ (List.getLast_mem_getLast? hne)]
  exact Bool.false_ne_true

/-- A text without its ends has no such ends any more. -/
theorem dropEnds_dropEnds : dropEnds drops (dropEnds drops text) = dropEnds drops text :=
  dropEnds_eq_self (fun _ => eq_false_of_mem_head?_dropEnds)
    fun _ => eq_false_of_mem_getLast?_dropEnds

end Ends

/-- A text that is trimmed is not trimmed any further. -/
theorem trim_trim (text : String) : trim (trim text) = trim text := by
  apply String.toList_inj.mp
  simp only [toList_trim, trimChars_eq_dropEnds, dropEnds_dropEnds]

/-! ## Trimming what is written -/

/-- Neither a code nor the character that it stands for is trimmed from escaped text. -/
theorem isBareBlank_of_escapedBy? {code c : Char} (h : escapedBy? code = some c) :
    isBlank code = false ∧ isBareBlank c = false := by
  unfold escapedBy? at h
  split at h <;> cases h <;> exact ⟨by decide, by decide⟩

/-- A bare blank is written as itself. -/
theorem escapeChar_of_isBareBlank {c : Char} (h : isBareBlank c = true) : escapeChar c = [c] := by
  rcases escapeChar_eq_or c with ⟨hself, -⟩ | ⟨code, -, hcode⟩
  · exact hself
  · rw [(isBareBlank_of_escapedBy? hcode).2] at h
    cases h

/-- The written form of any other character begins and ends with a character that is not blank. -/
theorem escapeChar_of_not_isBareBlank {c : Char} (h : isBareBlank c = false) :
    (∃ first rest, escapeChar c = first :: rest ∧ isBlank first = false) ∧
      ∃ rest last, escapeChar c = rest ++ [last] ∧ isBlank last = false := by
  rcases escapeChar_eq_or c with ⟨hself, -⟩ | ⟨code, hpair, hcode⟩
  · have hblank : isBlank c = false := by
      -- A line feed is not written as itself.
      have hfeed : c ≠ '\n' := by
        rintro rfl
        cases hself
      simpa [isBareBlank, hfeed] using h
    exact ⟨⟨c, [], hself, hblank⟩, ⟨[], c, hself, hblank⟩⟩
  · exact ⟨⟨'\\', [code], hpair, by decide⟩,
      ⟨['\\'], code, hpair, (isBareBlank_of_escapedBy? hcode).1⟩⟩

theorem dropWhile_escapeChars (text : List Char) :
    (escapeChars text).dropWhile isBlank = escapeChars (text.dropWhile isBareBlank) := by
  induction text with
  | nil => rfl
  | cons c text ih =>
    cases hbare : isBareBlank c with
    | true =>
      have hblank : isBlank c = true := (Bool.and_eq_true_iff.mp hbare).1
      rw [escapeChars_cons, escapeChar_of_isBareBlank hbare, List.singleton_append,
        List.dropWhile_cons_of_pos hblank, List.dropWhile_cons_of_pos hbare, ih]
    | false =>
      obtain ⟨⟨first, rest, hform, hfirst⟩, -⟩ := escapeChar_of_not_isBareBlank hbare
      rw [List.dropWhile_cons_of_neg (by simp [hbare]), escapeChars_cons, hform, List.cons_append,
        List.dropWhile_cons_of_neg (by simp [hfirst])]

theorem rdropWhile_escapeChars (text : List Char) :
    (escapeChars text).rdropWhile isBlank = escapeChars (text.rdropWhile isBareBlank) := by
  -- The text is taken apart from its end, as the blanks are dropped there.
  induction text using List.reverseRecOn with
  | nil => rfl
  | append_singleton text c ih =>
    have hlast : escapeChars (text ++ [c]) = escapeChars text ++ escapeChar c := by
      rw [escapeChars_append, escapeChars_cons, escapeChars_nil, List.append_nil]
    cases hbare : isBareBlank c with
    | true =>
      have hblank : isBlank c = true := (Bool.and_eq_true_iff.mp hbare).1
      rw [hlast, escapeChar_of_isBareBlank hbare, List.rdropWhile_concat_pos _ _ _ hblank,
        List.rdropWhile_concat_pos _ _ _ hbare, ih]
    | false =>
      obtain ⟨-, rest, last, hform, hblank⟩ := escapeChar_of_not_isBareBlank hbare
      rw [List.rdropWhile_concat_neg _ _ _ (by simp [hbare]), hlast, hform, ← List.append_assoc,
        List.rdropWhile_concat_neg _ _ _ (by simp [hblank])]

/-- Trimming what is written of a text removes the bare blanks at the ends of the text. -/
theorem trimChars_escapeChars (text : List Char) :
    trimChars (escapeChars text) = escapeChars (dropEnds isBareBlank text) := by
  rw [trimChars_eq_dropEnds, dropEnds, dropWhile_escapeChars, rdropWhile_escapeChars, dropEnds]

/-- What is read of a text that was trimmed after it was written is the text without the bare blanks
at its ends. -/
theorem unescape_trim_escape (text : String) : unescape (trim (escape text)) = trimBare text := by
  apply String.toList_inj.mp
  simp only [toList_unescape, toList_trim, toList_escape, toList_trimBare, trimChars_escapeChars,
    unescapeChars_escapeChars]

/-! ## Reading what is trimmed -/

theorem isBareBlank_of_not_isBlank {c : Char} (h : isBlank c = false) : isBareBlank c = false := by
  rw [isBareBlank, h, Bool.false_and]

theorem unescapeChars_ne_nil {text : List Char} (h : text ≠ []) : unescapeChars text ≠ [] := by
  unfold unescapeChars
  split
  · exact absurd rfl h
  · exact List.cons_ne_nil _ _
  · split
    · split <;> exact List.cons_ne_nil _ _
    · exact List.cons_ne_nil _ _

/-- What is read begins with no bare blank if the text begins with no blank. -/
theorem head?_unescapeChars {text : List Char} (h : ∀ c ∈ text.head?, isBlank c = false) :
    ∀ c ∈ (unescapeChars text).head?, isBareBlank c = false := by
  intro c hc
  -- One step of reading decides the first character.
  unfold unescapeChars at hc
  split at hc
  · cases hc
  · exact isBareBlank_of_not_isBlank (h c hc)
  · split at hc
    · split at hc
      next plain hcode =>
        obtain rfl : plain = c := Option.some.inj hc
        exact (isBareBlank_of_escapedBy? hcode).2
      next => exact isBareBlank_of_not_isBlank (h c hc)
    · exact isBareBlank_of_not_isBlank (h c hc)

/-- The last character of a text is that of its rest, or the first if there is no rest. -/
theorem forall_mem_getLast?_cons {drops : Char → Bool} {first : Char} {rest : List Char}
    (hfirst : rest = [] → drops first = false) (hrest : ∀ c ∈ rest.getLast?, drops c = false) :
    ∀ c ∈ (first :: rest).getLast?, drops c = false := by
  cases rest with
  | nil =>
    intro c hc
    obtain rfl : first = c := Option.some.inj hc
    exact hfirst rfl
  | cons next rest =>
    rw [List.getLast?_cons_cons]
    exact hrest

/-- What is read ends with no bare blank if the text ends with no blank. -/
theorem getLast?_unescapeChars {text : List Char} (h : ∀ c ∈ text.getLast?, isBlank c = false) :
    ∀ c ∈ (unescapeChars text).getLast?, isBareBlank c = false := by
  -- The last character is that of the last step, and each step before it leaves the end of the text
  -- as it is.
  fun_induction unescapeChars text with
  | case1 => exact fun c hc => by cases hc
  | case2 c => exact fun last hlast => isBareBlank_of_not_isBlank (h last hlast)
  | case3 code rest plain hcode ih =>
    refine forall_mem_getLast?_cons (fun _ => (isBareBlank_of_escapedBy? hcode).2) (ih ?_)
    intro last hlast
    cases rest with
    | nil => cases hlast
    | cons next rest => exact h last (by simpa using hlast)
  | case4 c rest hnone ih =>
    -- A backslash that escapes nothing stands for itself.
    refine forall_mem_getLast?_cons (fun _ => by decide) (ih ?_)
    rwa [List.getLast?_cons_cons] at h
  | case5 b c rest hplain ih =>
    refine forall_mem_getLast?_cons (fun hnil => ?_) (ih ?_)
    · exact absurd hnil (unescapeChars_ne_nil (List.cons_ne_nil c rest))
    · rwa [List.getLast?_cons_cons] at h

/-- What is read of a trimmed text has no bare blanks at its ends. -/
theorem dropEnds_unescapeChars_trimChars (text : List Char) :
    dropEnds isBareBlank (unescapeChars (trimChars text)) = unescapeChars (trimChars text) :=
  dropEnds_eq_self (head?_unescapeChars fun _ => eq_false_of_mem_head?_dropEnds)
    (getLast?_unescapeChars fun _ => eq_false_of_mem_getLast?_dropEnds)

/-- A text that is read after it was trimmed is read again from what is written of it. -/
theorem unescape_trim_escape_unescape_trim (raw : String) :
    unescape (trim (escape (unescape (trim raw)))) = unescape (trim raw) := by
  rw [unescape_trim_escape]
  apply String.toList_inj.mp
  simp only [toList_trimBare, toList_unescape, toList_trim, dropEnds_unescapeChars_trimChars]

end ContentLine.Text
