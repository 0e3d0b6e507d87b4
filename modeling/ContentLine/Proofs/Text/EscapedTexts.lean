import ContentLine.Proofs.Text.Escape

/-!
# Which texts are escaped

An escaped text is a concatenation of pieces. A piece is a backslash with one of the four codes that
escaping writes, the `n` only in lower case, or a character that is written as itself. Reading
takes more than that: an `N`, a backslash before any other character or at the end, and a separator
without a backslash are read as well, but none of them is written again as it was.

## Main definitions

* `Text.Piece`: a piece of escaped text.
* `Text.IsEscaped`: a text is a concatenation of pieces.

## Main results

* `Text.piece_iff`: the pieces are the written forms of single characters.
* `Text.isEscaped_iff`: the concatenations of pieces are the texts that escaping writes.
* `Text.escape_unescape_eq_self_iff`: reading and escaping gives back exactly these texts, each of
  which is the escaped form of exactly one text.
-/

namespace ContentLine.Text

/-- A piece of escaped text: a backslash and a code, or a character that needs no backslash. -/
inductive Piece : List Char → Prop where
  | pair (code : Char) (hcode : code ∈ ['\\', ';', ',', 'n']) : Piece ['\\', code]
  | single (c : Char) (hplain : c ∉ ['\\', ';', ',', '\n']) : Piece [c]

/-- A text is a concatenation of pieces of escaped text. -/
def IsEscaped (text : String) : Prop :=
  ∃ pieces : List (List Char), (∀ piece ∈ pieces, Piece piece) ∧ text.toList = pieces.flatten

/-- The written form of a character is a piece. -/
theorem piece_escapeChar (c : Char) : Piece (escapeChar c) := by
  unfold escapeChar
  split
  · exact .pair '\\' (by decide)
  · exact .pair ';' (by decide)
  · exact .pair ',' (by decide)
  · exact .pair 'n' (by decide)
  next hbackslash hsemicolon hcomma hlineFeed =>
    apply Piece.single
    simp only [List.mem_cons, List.not_mem_nil, or_false, not_or]
    exact ⟨hbackslash, hsemicolon, hcomma, hlineFeed⟩

/-- A character that needs no backslash is written as itself. -/
theorem escapeChar_of_not_mem {c : Char} (hplain : c ∉ ['\\', ';', ',', '\n']) :
    escapeChar c = [c] := by
  rcases escapeChar_eq_or c with ⟨hself, -⟩ | ⟨code, hpair, hcode⟩
  · exact hself
  · -- A character with a code other than itself is one of the four.
    refine absurd ?_ hplain
    unfold escapedBy? at hcode
    split at hcode <;> cases hcode <;> decide

/-- The pieces are the written forms of single characters. -/
theorem piece_iff {piece : List Char} : Piece piece ↔ ∃ c, escapeChar c = piece := by
  constructor
  · intro h
    cases h with
    | pair code hcode =>
      simp only [List.mem_cons, List.not_mem_nil, or_false] at hcode
      rcases hcode with rfl | rfl | rfl | rfl
      · exact ⟨'\\', rfl⟩
      · exact ⟨';', rfl⟩
      · exact ⟨',', rfl⟩
      · exact ⟨'\n', rfl⟩
    | single c hplain => exact ⟨c, escapeChar_of_not_mem hplain⟩
  · rintro ⟨c, rfl⟩
    exact piece_escapeChar c

/-- Pieces in sequence are the escaped form of the characters that they stand for. -/
theorem exists_escapeChars_eq_flatten {pieces : List (List Char)}
    (h : ∀ piece ∈ pieces, Piece piece) : ∃ text, escapeChars text = pieces.flatten := by
  induction pieces with
  | nil => exact ⟨[], rfl⟩
  | cons piece rest ih =>
    obtain ⟨c, hc⟩ := piece_iff.mp (h piece List.mem_cons_self)
    obtain ⟨text, htext⟩ := ih fun other hother => h other (List.mem_cons_of_mem piece hother)
    refine ⟨c :: text, ?_⟩
    rw [escapeChars_cons, hc, htext, List.flatten_cons]

/-- A text is a concatenation of pieces exactly if it is the escaped form of a text. -/
theorem isEscaped_iff {s : String} : IsEscaped s ↔ ∃ text, escape text = s := by
  constructor
  · rintro ⟨pieces, hpieces, hs⟩
    obtain ⟨text, htext⟩ := exists_escapeChars_eq_flatten hpieces
    refine ⟨String.ofList text, ?_⟩
    apply String.toList_inj.mp
    rw [toList_escape, String.toList_ofList, htext, hs]
  · rintro ⟨text, rfl⟩
    refine ⟨text.toList.map escapeChar, ?_, ?_⟩
    · intro piece hpiece
      obtain ⟨c, -, rfl⟩ := List.mem_map.mp hpiece
      exact piece_escapeChar c
    · rw [toList_escape, escapeChars, List.flatMap_def]

/-- The escaped form of a text is read as the text. -/
theorem unescape_escape (text : String) : unescape (escape text) = text := by
  apply String.toList_inj.mp
  rw [toList_unescape, toList_escape, unescapeChars_escapeChars]

/-- Reading a text and escaping what was read gives the text back exactly if it is a concatenation
of pieces. These texts are exactly those that escaping writes, and each of them is the escaped form
of one text only. -/
theorem escape_unescape_eq_self_iff (s : String) :
    (escape (unescape s) = s ↔ IsEscaped s) ∧
      (IsEscaped s ↔ ∃ text, escape text = s) ∧
      ∀ text other, escape text = s → escape other = s → text = other := by
  refine ⟨⟨?_, ?_⟩, isEscaped_iff, ?_⟩
  · intro h
    exact isEscaped_iff.mpr ⟨unescape s, h⟩
  · intro h
    obtain ⟨text, rfl⟩ := isEscaped_iff.mp h
    rw [unescape_escape]
  · intro text other htext hother
    -- Both are what is read of the one escaped form.
    calc text = unescape s := by rw [← htext, unescape_escape]
      _ = other := by rw [← hother, unescape_escape]

/-- A line feed written with an `N`, a comma without a backslash, and a backslash at the end are
read, but written otherwise. -/
example : ∀ s ∈ ["a\\Nb", "a,b", "ab\\"], escape (unescape s) ≠ s := by decide

end ContentLine.Text
