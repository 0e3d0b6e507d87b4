import ContentLine.Text.Quoted
import Mathlib.Algebra.Ring.Nat

/-!
# Self-delimiting texts

A way of writing things is self-delimiting if, of a text that begins with a written thing, it can be
told what was written and where it ends, whatever comes after. Then things can be written one after
the other and still be told apart. Quoted texts are written in such a way, although the quote they
are enclosed in depends on them, and although they may hold text that looks like what encloses them:
neither the quote nor a backslash stands in them as itself.

## Main definitions

* `Text.SelfDelimiting`: what was written can be told from what follows.
* `Text.readQuotedChar?`: the first character of a quoted text, and the text behind it.

## Main results

* `Text.SelfDelimiting.closed`: lists of self-delimiting things are self-delimiting if an end is put
  behind them with which none of these things begins.
* `Text.eq_of_append_cons`: so is a text behind which a character is put that it does not hold.
* `Text.readQuotedChar?_quoteChar_append`: the quoted form of a character is read back.
* `Text.selfDelimiting_quoteChars`: quoted texts are self-delimiting.
-/

namespace ContentLine.Text

/-! ## Telling apart what was written -/

/-- What was written, and what follows, can be told from the text of both. -/
def SelfDelimiting {α : Type} (write : α → List Char) : Prop :=
  ∀ ⦃a b : α⦄ ⦃x y : List Char⦄, write a ++ x = write b ++ y → a = b ∧ x = y

namespace SelfDelimiting

variable {α : Type} {write : α → List Char}

/-- What can be read back, whatever follows, is self-delimiting. -/
theorem of_read {read : List Char → Option (α × List Char)}
    (hread : ∀ a rest, read (write a ++ rest) = some (a, rest)) : SelfDelimiting write := by
  intro a b x y h
  have hpair : some (a, x) = some (b, y) := by rw [← hread, ← hread, h]
  cases hpair
  exact ⟨rfl, rfl⟩

/-- Lists of self-delimiting things are self-delimiting if they are closed by a character with which
none of these things begins. -/
theorem closed (hwrite : SelfDelimiting write) {stop : Char}
    (hstop : ∀ a x y, write a ++ x ≠ stop :: y) :
    SelfDelimiting fun list : List α => list.flatMap write ++ [stop] := by
  intro list other x y h
  simp only [List.append_assoc, List.singleton_append] at h
  -- Both lists are taken apart from the front, where an end never stands against an element.
  induction list generalizing other with
  | nil =>
    cases other with
    | nil => exact ⟨rfl, (List.cons.inj h).2⟩
    | cons b rest =>
      rw [List.flatMap_cons, List.append_assoc] at h
      exact absurd h.symm (hstop b _ _)
  | cons a list ih =>
    cases other with
    | nil =>
      rw [List.flatMap_cons, List.append_assoc] at h
      exact absurd h (hstop a _ _)
    | cons b other =>
      rw [List.flatMap_cons, List.flatMap_cons, List.append_assoc, List.append_assoc] at h
      obtain ⟨rfl, hrest⟩ := hwrite h
      obtain ⟨rfl, hfollow⟩ := ih hrest
      exact ⟨rfl, hfollow⟩

end SelfDelimiting

/-- A text is self-delimiting if it is closed by a character that it does not hold. -/
theorem eq_of_append_cons {stop : Char} {text other x y : List Char} (htext : stop ∉ text)
    (hother : stop ∉ other) (h : text ++ stop :: x = other ++ stop :: y) :
    text = other ∧ x = y := by
  -- Each text is what comes before the first of the characters that close it.
  have hbefore {before : List Char} (hbefore : stop ∉ before) (behind : List Char) :
      (before ++ stop :: behind).takeWhile (· != stop) = before := by
    have hother : ∀ c ∈ before, (c != stop) = true := by
      intro c hc
      exact bne_iff_ne.mpr fun hstop => hbefore (hstop ▸ hc)
    rw [List.takeWhile_append_of_pos hother, List.takeWhile_cons_of_neg (by simp),
      List.append_nil]
  have hsame : text = other := by rw [← hbefore htext x, h, hbefore hother y]
  subst hsame
  exact ⟨rfl, (List.cons.inj (List.append_cancel_left h)).2⟩

/-! ## Reading quoted characters -/

/-- The value of a hexadecimal digit in lower case. -/
def hexValue (c : Char) : Nat :=
  if c.toNat < 'a'.toNat then c.toNat - '0'.toNat else c.toNat - 'a'.toNat + 10

/-- The number that hexadecimal digits stand for. -/
def readHex (digits : List Char) : Nat :=
  digits.foldl (fun value c => 16 * value + hexValue c) 0

/-- The character whose code point fills `width` hexadecimal digits, and the text behind it. -/
def readCodePoint (width : Nat) (text : List Char) : Char × List Char :=
  (Char.ofNat (readHex (text.take width)), text.drop width)

/-- The character that a backslash and the front of a text stand for, and the text behind it. -/
def readEscape? : List Char → Option (Char × List Char)
  | [] => none
  | 't' :: rest => some ('\t', rest)
  | 'n' :: rest => some ('\n', rest)
  | 'r' :: rest => some ('\r', rest)
  | 'x' :: rest => some (readCodePoint 2 rest)
  | 'u' :: rest => some (readCodePoint 4 rest)
  | 'U' :: rest => some (readCodePoint 8 rest)
  | c :: rest => some (c, rest)

/-- The first character of a quoted text, and the text behind it. -/
def readQuotedChar? : List Char → Option (Char × List Char)
  | [] => none
  | c :: rest => if c = '\\' then readEscape? rest else some (c, rest)

/-- A hexadecimal digit has its value. -/
theorem hexValue_digitChar {d : Nat} (hd : d < 16) : hexValue (Nat.digitChar d) = d := by
  revert d
  decide

/-- A number that is padded with zeros is read back. -/
theorem readHex_hexPadded {width n : Nat} (small : n < 16 ^ width) :
    readHex (hexPadded width n) = n := by
  -- The last digit is written last and read last.
  induction width generalizing n with
  | zero =>
    rw [Nat.pow_zero] at small
    exact (Nat.lt_one_iff.mp small).symm
  | succ width ih =>
    have hrest : readHex (fixedDigits 16 width (n / 16)) = n / 16 := by
      rw [Nat.pow_succ] at small
      exact ih (Nat.div_lt_of_lt_mul (by omega))
    rw [readHex] at hrest
    rw [hexPadded, fixedDigits, readHex, List.foldl_append, hrest, List.foldl_cons,
      hexValue_digitChar (Nat.mod_lt n (by omega)), List.foldl_nil, Nat.div_add_mod]

/-- A character is read back from its code point. -/
theorem readCodePoint_hexPadded {width : Nat} {c : Char} (small : c.toNat < 16 ^ width)
    (rest : List Char) : readCodePoint width (hexPadded width c.toNat ++ rest) = (c, rest) := by
  have hlength : (hexPadded width c.toNat).length = width := length_fixedDigits 16 width c.toNat
  rw [readCodePoint, List.take_left' hlength, List.drop_left' hlength, readHex_hexPadded small,
    Char.ofNat_toNat]

/-- An unprintable character is read back, in whichever width its code point is written. -/
theorem readQuotedChar?_codePoint_append (c : Char) (rest : List Char) :
    readQuotedChar? (codePoint c ++ rest) = some (c, rest) := by
  unfold codePoint
  dsimp only
  split
  next htwo => exact congrArg some (readCodePoint_hexPadded htwo rest)
  split
  next hfour => exact congrArg some (readCodePoint_hexPadded hfour rest)
  next =>
    -- Code points end long before eight digits do.
    have hvalid : c.toNat.isValidChar := c.valid
    have height : c.toNat < 16 ^ 8 := by
      unfold Nat.isValidChar at hvalid
      omega
    exact congrArg some (readCodePoint_hexPadded height rest)

variable {mark : Char}

/-- The quoted form of a character is read back, whatever follows. -/
theorem readQuotedChar?_quoteChar_append (hmark : mark = '\'' ∨ mark = '"') (c : Char)
    (rest : List Char) : readQuotedChar? (quoteChar mark c ++ rest) = some (c, rest) := by
  unfold quoteChar
  split
  next hself =>
    -- The backslash and the quotes are no codes of other characters.
    rcases hself with rfl | rfl
    · rfl
    · rcases hmark with rfl | rfl <;> rfl
  next hself =>
    split
    next h => rw [h]; rfl
    split
    next h => rw [h]; rfl
    split
    next h => rw [h]; rfl
    split
    next => exact if_neg fun hbackslash => hself (Or.inl hbackslash)
    next => exact readQuotedChar?_codePoint_append c rest

/-- An unprintable character is written with a backslash. -/
theorem exists_codePoint_eq (c : Char) : ∃ digits, codePoint c = '\\' :: digits := by
  unfold codePoint
  dsimp only
  split
  · exact ⟨_, rfl⟩
  split
  · exact ⟨_, rfl⟩
  · exact ⟨_, rfl⟩

/-- A character is quoted as itself, if it does not end the text, or with a backslash. -/
theorem quoteChar_eq_or (mark c : Char) :
    quoteChar mark c = [c] ∧ c ≠ mark ∨ ∃ rest, quoteChar mark c = '\\' :: rest := by
  unfold quoteChar
  split
  next => exact Or.inr ⟨_, rfl⟩
  next hself =>
    split
    next => exact Or.inr ⟨_, rfl⟩
    split
    next => exact Or.inr ⟨_, rfl⟩
    split
    next => exact Or.inr ⟨_, rfl⟩
    split
    next => exact Or.inl ⟨rfl, fun hmark => hself (Or.inr hmark)⟩
    next => exact Or.inr (exists_codePoint_eq c)

/-- No quoted character begins with the quote that ends the text. -/
theorem quoteChar_append_ne (hmark : mark = '\'' ∨ mark = '"') (c : Char) (x y : List Char) :
    quoteChar mark c ++ x ≠ mark :: y := by
  intro h
  rcases quoteChar_eq_or mark c with ⟨hself, hne⟩ | ⟨rest, hescaped⟩
  · rw [hself] at h
    exact hne (List.cons.inj h).1
  · rw [hescaped] at h
    have hbackslash : '\\' = mark := (List.cons.inj h).1
    rcases hmark with rfl | rfl <;> cases hbackslash

/-! ## Quoted texts -/

/-- A text is enclosed in one of two quotes. -/
theorem delimiter_eq_or (text : List Char) : delimiter text = '\'' ∨ delimiter text = '"' := by
  unfold delimiter
  split
  · exact Or.inr rfl
  · exact Or.inl rfl

/-- Quoted texts are self-delimiting: the quote shows which one ends the text, and it does not stand
in the text as itself. -/
theorem selfDelimiting_quoteChars : SelfDelimiting quoteChars := by
  intro text other x y h
  have hmark := delimiter_eq_or text
  have hchar : SelfDelimiting (quoteChar (delimiter text)) :=
    .of_read (readQuotedChar?_quoteChar_append hmark)
  simp only [quoteChars, List.cons_append, List.cons.injEq] at h
  obtain ⟨hsame, hrest⟩ := h
  rw [← hsame] at hrest
  exact hchar.closed (quoteChar_append_ne hmark) hrest

end ContentLine.Text
