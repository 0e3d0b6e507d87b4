import ContentLine.Text.DecimalLemmas

/-!
# Fields of digits

A padded number is a text of ASCII digits with a fixed length, and the digits form the number. This
is the same as what is written and read, seen from the text: its length, its characters and their
places decide, with no writer and no reader in between.

## Main definitions

* `Text.IsDigits`: a text consists of a given number of ASCII digits.
* `Text.number`: the number that decimal digits form.
* `Text.ThreeFields`: a text of three numbers in fields of fixed widths.

## Main results

* `Text.eq_padded_iff`: digits that form a number are the padded number.
* `Text.threeFields_iff`: three fields are three padded numbers, one after the other.
-/

namespace ContentLine.Text

/-! ## One field -/

/-- A text that consists of a given number of ASCII digits. -/
def IsDigits (width : Nat) (text : List Char) : Prop :=
  text.length = width ∧ ∀ c ∈ text, '0' ≤ c ∧ c ≤ '9'

/-- The number that decimal digits form. -/
def number (digits : List Char) : Nat :=
  Nat.ofDigitChars 10 digits 0

theorem digitValue?_eq_some_iff {c : Char} {d : Nat} :
    digitValue? c = some d ↔ ('0' ≤ c ∧ c ≤ '9') ∧ c.toNat - '0'.toNat = d := by
  have hrange : (48 ≤ c.toNat ∧ c.toNat ≤ 57) ↔ '0' ≤ c ∧ c ≤ '9' := Iff.rfl
  unfold digitValue?
  split
  next h => simp [hrange.mp h]
  next h => simp [mt hrange.mpr h]

namespace IsDigits

variable {width more count : Nat} {text rest : List Char}

theorem cons_iff {c : Char} :
    IsDigits (width + 1) (c :: text) ↔ ('0' ≤ c ∧ c ≤ '9') ∧ IsDigits width text := by
  simp only [IsDigits, List.length_cons, Nat.add_right_cancel_iff, List.forall_mem_cons]
  exact and_left_comm

theorem append (h : IsDigits width text) (hrest : IsDigits more rest) :
    IsDigits (width + more) (text ++ rest) := by
  refine ⟨?_, fun c hc => ?_⟩
  · rw [List.length_append, h.1, hrest.1]
  · rcases List.mem_append.mp hc with hc | hc
    · exact h.2 c hc
    · exact hrest.2 c hc

theorem take (h : IsDigits width text) (hcount : count ≤ width) :
    IsDigits count (text.take count) := by
  refine ⟨?_, fun c hc => h.2 c (List.mem_of_mem_take hc)⟩
  rw [List.length_take, h.1, Nat.min_eq_left hcount]

theorem drop (h : IsDigits (count + width) text) : IsDigits width (text.drop count) := by
  refine ⟨?_, fun c hc => h.2 c (List.mem_of_mem_drop hc)⟩
  rw [List.length_drop, h.1, Nat.add_sub_cancel_left]

end IsDigits

/-- A field is read exactly if the text starts with digits, which continue the number read so far.
-/
theorem readDigitsFrom?_eq_some_iff_isDigits {value width n : Nat} {text rest : List Char} :
    readDigitsFrom? value width text = some (n, rest) ↔
      ∃ digits, IsDigits width digits ∧ text = digits ++ rest ∧
        Nat.ofDigitChars 10 digits value = n := by
  -- The number read so far is general, since each digit multiplies it by ten.
  induction width generalizing value text with
  | zero =>
    constructor
    · intro h
      cases h
      exact ⟨[], ⟨rfl, by simp⟩, rfl, rfl⟩
    · rintro ⟨digits, ⟨hlength, -⟩, rfl, rfl⟩
      obtain rfl := List.eq_nil_of_length_eq_zero hlength
      rfl
  | succ width ih =>
    constructor
    · intro h
      cases text with
      | nil => cases h
      | cons c text =>
        simp only [readDigitsFrom?] at h
        split at h
        next d hdigit =>
          obtain ⟨hrange, rfl⟩ := digitValue?_eq_some_iff.mp hdigit
          obtain ⟨digits, hdigits, rfl, hnumber⟩ := ih.mp h
          refine ⟨c :: digits, IsDigits.cons_iff.mpr ⟨hrange, hdigits⟩, rfl, ?_⟩
          rwa [Nat.ofDigitChars_cons, Nat.mul_comm]
        next => cases h
    · rintro ⟨digits, hdigits, rfl, hnumber⟩
      cases digits with
      | nil => cases hdigits.1
      | cons c digits =>
        obtain ⟨hrange, hdigits⟩ := IsDigits.cons_iff.mp hdigits
        rw [Nat.ofDigitChars_cons, Nat.mul_comm] at hnumber
        simp only [List.cons_append, readDigitsFrom?, digitValue?_eq_some_iff.mpr ⟨hrange, rfl⟩]
        exact ih.mpr ⟨digits, hdigits, rfl, hnumber⟩

/-- A text is a padded number exactly if it consists of digits that form the number. -/
theorem eq_padded_iff {width n : Nat} {text : List Char} :
    n < 10 ^ width ∧ text = padded width n ↔ IsDigits width text ∧ number text = n := by
  -- Both sides say that the number is read and that nothing is left of the text.
  have hread : readDigits? width text = some (n, []) ↔
      n < 10 ^ width ∧ text = padded width n ++ [] := readDigits?_eq_some_iff
  rw [List.append_nil, readDigits?, readDigitsFrom?_eq_some_iff_isDigits] at hread
  rw [← hread]
  simp only [List.append_nil, number]
  constructor
  · rintro ⟨digits, hdigits, rfl, hnumber⟩
    exact ⟨hdigits, hnumber⟩
  · rintro ⟨hdigits, hnumber⟩
    exact ⟨text, hdigits, rfl, hnumber⟩

/-! ## Three fields -/

/-- A text that consists of digits in three fields of the widths `a`, `b` and `c`, which form the
numbers `x`, `y` and `z`. -/
structure ThreeFields (a b c x y z : Nat) (text : List Char) : Prop where
  /-- There are as many digits as the fields are wide together. -/
  digits : IsDigits (a + b + c) text
  /-- The number of the first field. -/
  first : number (text.take a) = x
  /-- The number of the second field. -/
  second : number ((text.drop a).take b) = y
  /-- The number of the third field. -/
  third : number (text.drop (a + b)) = z

/-- Three fields are three padded numbers, one after the other. -/
theorem threeFields_iff {a b c x y z : Nat} {text : List Char} :
    ThreeFields a b c x y z text ↔
      (x < 10 ^ a ∧ y < 10 ^ b ∧ z < 10 ^ c) ∧ text = padded a x ++ padded b y ++ padded c z := by
  constructor
  · rintro ⟨hdigits, hfirst, hsecond, hthird⟩
    obtain ⟨hx, htextx⟩ := eq_padded_iff.mpr ⟨hdigits.take (by omega), hfirst⟩
    obtain ⟨hz, htextz⟩ := eq_padded_iff.mpr ⟨hdigits.drop, hthird⟩
    -- The middle field is the front of what follows the first.
    rw [Nat.add_assoc] at hdigits
    obtain ⟨hy, htexty⟩ := eq_padded_iff.mpr ⟨hdigits.drop.take (by omega), hsecond⟩
    refine ⟨⟨hx, hy, hz⟩, ?_⟩
    rw [← htextx, ← htexty, ← htextz, List.append_assoc, ← List.drop_drop,
      List.take_append_drop, List.take_append_drop]
  · rintro ⟨⟨hx, hy, hz⟩, rfl⟩
    obtain ⟨hdigitsx, hnumberx⟩ := eq_padded_iff.mp ⟨hx, rfl⟩
    obtain ⟨hdigitsy, hnumbery⟩ := eq_padded_iff.mp ⟨hy, rfl⟩
    obtain ⟨hdigitsz, hnumberz⟩ := eq_padded_iff.mp ⟨hz, rfl⟩
    refine ⟨(hdigitsx.append hdigitsy).append hdigitsz, ?_, ?_, ?_⟩
    · rw [List.append_assoc, List.take_left' hdigitsx.1, hnumberx]
    · rw [List.append_assoc, List.drop_left' hdigitsx.1, List.take_left' hdigitsy.1, hnumbery]
    · rw [List.drop_left' (hdigitsx.append hdigitsy).1, hnumberz]

end ContentLine.Text
