/-!
# Digits

Numbers as ASCII digits: decimal numbers padded to a width or not padded at all, hexadecimal numbers
of a fixed width, and fixed-width fields of decimal digits read from the front of a text.

## Main definitions

- `Text.padded`, `Text.unpadded`: a number in decimal digits.
- `Text.hexPadded`: a number in lower-case hexadecimal digits.
- `Text.readDigits?`: a field of exactly `width` decimal digits, and the text behind it.
-/

namespace ContentLine.Text

/-- The last `width` digits of a number in the given base, at most sixteen, in lower case. -/
def fixedDigits (base : Nat) : Nat → Nat → List Char
  | 0, _ => []
  | width + 1, n => fixedDigits base width (n / base) ++ [Nat.digitChar (n % base)]

/-- A number in decimal digits, with leading zeros up to `width` digits; exact below
`10 ^ width`. -/
def padded (width n : Nat) : List Char :=
  fixedDigits 10 width n

/-- A number in lower-case hexadecimal digits, with leading zeros up to `width` digits; exact below
`16 ^ width`. -/
def hexPadded (width n : Nat) : List Char :=
  fixedDigits 16 width n

/-- A number in decimal digits, without leading zeros. -/
def unpadded (n : Nat) : List Char :=
  Nat.toDigits 10 n

/-- The value of an ASCII decimal digit. -/
def digitValue? (c : Char) : Option Nat :=
  if 48 ≤ c.toNat ∧ c.toNat ≤ 57 then some (c.toNat - 48) else none

/-- Read exactly `width` decimal digits, continuing the number `value` read so far. -/
def readDigitsFrom? (value : Nat) : Nat → List Char → Option (Nat × List Char)
  | 0, rest => some (value, rest)
  | _ + 1, [] => none
  | width + 1, c :: rest =>
    match digitValue? c with
    | some d => readDigitsFrom? (value * 10 + d) width rest
    | none => none

/-- Read exactly `width` decimal digits from the front of a text. -/
def readDigits? (width : Nat) (text : List Char) : Option (Nat × List Char) :=
  readDigitsFrom? 0 width text

@[simp] theorem length_fixedDigits (base width n : Nat) :
    (fixedDigits base width n).length = width := by
  induction width generalizing n with
  | zero => rfl
  | succ width ih => simp [fixedDigits, ih]

@[simp] theorem length_padded (width n : Nat) : (padded width n).length = width :=
  length_fixedDigits 10 width n

/-- A digit has its value. -/
theorem digitValue?_digitChar {d : Nat} (h : d < 10) : digitValue? (Nat.digitChar d) = some d := by
  rw [digitValue?, Nat.toNat_digitChar_of_lt_ten h, if_pos (by omega)]
  congr 1
  omega

/-- Only the digit of a value has that value. -/
theorem eq_digitChar_of_digitValue? {c : Char} {d : Nat} (h : digitValue? c = some d) :
    d < 10 ∧ c = Nat.digitChar d := by
  unfold digitValue? at h
  split at h
  next bounds =>
    cases h
    refine ⟨by omega, Char.toNat_inj.1 ?_⟩
    rw [Nat.toNat_digitChar_of_lt_ten (by omega)]
    omega
  next => cases h

end ContentLine.Text
