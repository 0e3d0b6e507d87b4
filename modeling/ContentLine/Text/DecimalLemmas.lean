import ContentLine.Text.Decimal
import Mathlib.Algebra.Ring.Nat

/-!
# Reading padded numbers

Writing a number in a fixed width and reading a field of that width undo each other. A number that
is not padded lacks the zeros in front and nothing else.

## Main statements

- `Text.readDigits?_padded`: a padded number is read back up to its width.
- `Text.padded_of_readDigits?`: a field that is read is the padded number, with the text behind it.
- `Text.readDigits?_eq_some_iff`: both directions in one.
- `Text.padded_eq_zeros_append`: padding puts zeros in front of a number.
-/

namespace ContentLine.Text

/-- The leading digit of a field comes before the digits of the rest. -/
theorem fixedDigits_succ (base width n : Nat) :
    fixedDigits base (width + 1) n =
      Nat.digitChar (n / base ^ width % base) :: fixedDigits base width n := by
  induction width generalizing n with
  | zero => simp [fixedDigits]
  | succ width ih =>
    rw [fixedDigits, ih, List.cons_append, Nat.div_div_eq_div_mul, ← Nat.pow_succ']
    rfl

/-- The leading digit of a padded number comes before the digits of the rest. -/
theorem padded_succ (width n : Nat) :
    padded (width + 1) n = Nat.digitChar (n / 10 ^ width % 10) :: padded width n :=
  fixedDigits_succ 10 width n

/-- A padded number is read back, after the digits read so far. -/
theorem readDigitsFrom?_padded (value width n : Nat) (rest : List Char) :
    readDigitsFrom? value width (padded width n ++ rest) =
      some (value * 10 ^ width + n % 10 ^ width, rest) := by
  induction width generalizing value with
  | zero => simp [padded, fixedDigits, readDigitsFrom?, Nat.mod_one]
  | succ width ih =>
    rw [padded_succ, List.cons_append, readDigitsFrom?,
      digitValue?_digitChar (Nat.mod_lt _ (by omega))]
    dsimp only
    rw [ih, Nat.pow_succ, Nat.mod_mul, Nat.add_mul, Nat.mul_comm (10 ^ width) 10,
      Nat.mul_assoc, Nat.mul_comm (10 ^ width), Nat.add_assoc, Nat.add_comm (n % 10 ^ width)]

/-- A padded number is read back up to its width. -/
theorem readDigits?_padded (width n : Nat) (rest : List Char) :
    readDigits? width (padded width n ++ rest) = some (n % 10 ^ width, rest) := by
  rw [readDigits?, readDigitsFrom?_padded, Nat.zero_mul, Nat.zero_add]

/-- Only the last digits of a number are written. -/
theorem padded_mul_add (width high low : Nat) :
    padded width (high * 10 ^ width + low) = padded width low := by
  unfold padded
  induction width generalizing low with
  | zero => rfl
  | succ width ih =>
    have shift : high * 10 ^ (width + 1) = 10 * (high * 10 ^ width) := by
      rw [Nat.pow_succ, Nat.mul_comm, Nat.mul_comm (10 ^ width), Nat.mul_assoc,
        Nat.mul_comm (10 ^ width)]
    rw [fixedDigits, fixedDigits, shift, Nat.mul_add_div (by omega), Nat.mul_add_mod, ih]

/-- A field that is read, after the digits read so far, is a padded number. -/
theorem padded_of_readDigitsFrom? {value width read : Nat} {text rest : List Char}
    (h : readDigitsFrom? value width text = some (read, rest)) :
    ∃ n < 10 ^ width, text = padded width n ++ rest ∧ read = value * 10 ^ width + n := by
  -- The number read so far is general, since each digit multiplies it by ten.
  induction width generalizing value text with
  | zero =>
    cases h
    exact ⟨0, by simp, rfl, by simp⟩
  | succ width ih =>
    cases text with
    | nil => cases h
    | cons c text =>
      simp only [readDigitsFrom?] at h
      split at h
      next d found =>
        obtain ⟨lt, rfl⟩ := eq_digitChar_of_digitValue? found
        obtain ⟨m, small, rfl, rfl⟩ := ih h
        have power : 0 < 10 ^ width := Nat.pow_pos (by omega)
        have leading : (d * 10 ^ width + m) / 10 ^ width = d := by
          rw [Nat.mul_comm, Nat.mul_add_div power, Nat.div_eq_of_lt small, Nat.add_zero]
        refine ⟨d * 10 ^ width + m, ?_, ?_, ?_⟩
        · have := Nat.mul_le_mul_right (10 ^ width) (Nat.le_of_lt_succ lt)
          omega
        · rw [padded_succ, leading, Nat.mod_eq_of_lt lt, List.cons_append, padded_mul_add]
        · rw [Nat.add_mul, Nat.pow_succ, Nat.mul_assoc, Nat.mul_comm 10, Nat.add_assoc]
      next => cases h

/-- A field that is read is the padded number, with the text behind it. -/
theorem padded_of_readDigits? {width n : Nat} {text rest : List Char}
    (h : readDigits? width text = some (n, rest)) :
    n < 10 ^ width ∧ text = padded width n ++ rest := by
  obtain ⟨m, small, rfl, rfl⟩ := padded_of_readDigitsFrom? h
  rw [Nat.zero_mul, Nat.zero_add]
  exact ⟨small, rfl⟩

/-- A field is read exactly if the text starts with the padded number. -/
theorem readDigits?_eq_some_iff {width n : Nat} {text rest : List Char} :
    readDigits? width text = some (n, rest) ↔ n < 10 ^ width ∧ text = padded width n ++ rest := by
  constructor
  · exact padded_of_readDigits?
  · rintro ⟨small, rfl⟩
    rw [readDigits?_padded, Nat.mod_eq_of_lt small]

/-- Three fields are read one after the other exactly if the text starts with the three padded
numbers. -/
theorem readDigits?_three_iff {a b c x y z : Nat} {text rest : List Char} :
    (∃ text₁ text₂, readDigits? a text = some (x, text₁) ∧ readDigits? b text₁ = some (y, text₂) ∧
        readDigits? c text₂ = some (z, rest)) ↔
      (x < 10 ^ a ∧ y < 10 ^ b ∧ z < 10 ^ c) ∧
        text = padded a x ++ padded b y ++ padded c z ++ rest := by
  simp only [readDigits?_eq_some_iff]
  constructor
  · rintro ⟨text₁, text₂, ⟨hx, rfl⟩, ⟨hy, rfl⟩, hz, rfl⟩
    refine ⟨⟨hx, hy, hz⟩, ?_⟩
    simp only [List.append_assoc]
  · rintro ⟨⟨hx, hy, hz⟩, rfl⟩
    refine ⟨padded b y ++ (padded c z ++ rest), padded c z ++ rest, ⟨hx, ?_⟩, ⟨hy, rfl⟩, hz, rfl⟩
    simp only [List.append_assoc]

theorem isSome_digitValue?_of_mem_padded {width n : Nat} {c : Char} (h : c ∈ padded width n) :
    (digitValue? c).isSome := by
  induction width with
  | zero => cases h
  | succ width ih =>
    rw [padded_succ] at h
    rcases List.mem_cons.mp h with rfl | h
    · rw [digitValue?_digitChar (Nat.mod_lt _ (by omega))]
      rfl
    · exact ih h

theorem length_unpadded_le_iff {width n : Nat} (hwidth : 0 < width) :
    (unpadded n).length ≤ width ↔ n < 10 ^ width :=
  Nat.length_toDigits_le_iff (by omega) hwidth

/-- Padding puts zeros in front of the digits of a number. -/
theorem padded_eq_zeros_append {width n : Nat} (hwidth : 0 < width) (small : n < 10 ^ width) :
    padded width n = List.replicate (width - (unpadded n).length) '0' ++ unpadded n := by
  -- Both spellings end in the last digit, so the induction drops digits from the end.
  induction width, hwidth using Nat.le_induction generalizing n with
  | base =>
    have hdigit : unpadded n = [Nat.digitChar n] := Nat.toDigits_of_lt_base (by omega)
    rw [hdigit, padded, fixedDigits, Nat.mod_eq_of_lt (by omega)]
    rfl
  | succ width hwidth ih =>
    have hlast : padded (width + 1) n = padded width (n / 10) ++ [Nat.digitChar (n % 10)] := rfl
    have hrest : n / 10 < 10 ^ width := by
      rw [Nat.pow_succ] at small
      omega
    rw [hlast, ih hrest]
    rcases Nat.lt_or_ge n 10 with hone | hmore
    · -- A single digit has nothing before it, where the padded number has a zero more.
      have hdigit : unpadded n = [Nat.digitChar n] := Nat.toDigits_of_lt_base hone
      have hzero : unpadded (n / 10) = ['0'] := by
        rw [Nat.div_eq_of_lt hone]
        rfl
      rw [hdigit, hzero, Nat.mod_eq_of_lt hone, List.length_singleton, List.length_singleton,
        ← List.replicate_succ', Nat.sub_add_cancel hwidth, Nat.add_sub_cancel]
    · have hdigits : unpadded n = unpadded (n / 10) ++ [Nat.digitChar (n % 10)] :=
        Nat.toDigits_of_base_le (by omega) hmore
      rw [hdigits, List.length_append, List.length_singleton, Nat.add_sub_add_right,
        List.append_assoc]

end ContentLine.Text
