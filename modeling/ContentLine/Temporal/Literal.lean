import ContentLine.Civil.LocalTime

/-!
# Date and date-time literals

The three forms of a literal: eight digits, or eight digits, a `T` and six digits, or those followed
by a `Z`. Only ASCII digits count, and nothing may precede or follow. Whether the digits are a date
and a time is decided after the form.

## Main definitions

- `DateDigits`, `TimeDigits`: the numbers of a literal.
- `Literal`: the three forms, `Literal.read?` the form of a text.
- `DateDigits.date`, `LocalTime.ofDigits`: the date and time, or the first component out of range.
-/

namespace ContentLine

/-- The numbers of the date of a literal. -/
structure DateDigits where
  /-- The number of four digits. -/
  year : Nat
  /-- The first number of two digits. -/
  month : Nat
  /-- The second number of two digits. -/
  day : Nat
deriving DecidableEq, Repr

/-- The numbers of the time of a literal. -/
structure TimeDigits where
  /-- The first number of two digits. -/
  hour : Nat
  /-- The second number of two digits. -/
  minute : Nat
  /-- The third number of two digits. -/
  second : Nat
deriving DecidableEq, Repr

/-- Read the digits of a date from the front of a text. -/
def DateDigits.read? (text : List Char) : Option (DateDigits × List Char) :=
  match Text.readDigits? 4 text with
  | none => none
  | some (year, text) =>
    match Text.readDigits? 2 text with
    | none => none
    | some (month, text) =>
      match Text.readDigits? 2 text with
      | none => none
      | some (day, rest) => some (⟨year, month, day⟩, rest)

/-- Read the digits of a time from the front of a text. -/
def TimeDigits.read? (text : List Char) : Option (TimeDigits × List Char) :=
  match Text.readDigits? 2 text with
  | none => none
  | some (hour, text) =>
    match Text.readDigits? 2 text with
    | none => none
    | some (minute, text) =>
      match Text.readDigits? 2 text with
      | none => none
      | some (second, rest) => some (⟨hour, minute, second⟩, rest)

/-- The date of the digits. -/
def DateDigits.date (digits : DateDigits) : Except RangeFault Date :=
  Date.of? digits.year digits.month digits.day

/-- The time of the digits. -/
def TimeDigits.time (digits : TimeDigits) : Except RangeFault TimeOfDay :=
  TimeOfDay.of? digits.hour digits.minute digits.second 0

/-- The local time of the digits; the whole date is judged before the time. -/
def LocalTime.ofDigits (date : DateDigits) (time : TimeDigits) : Except RangeFault LocalTime :=
  match date.date with
  | .error fault => .error fault
  | .ok givenDate =>
    match time.time with
    | .error fault => .error fault
    | .ok givenTime => .ok ⟨givenDate, givenTime⟩

/-- The forms of a literal. -/
inductive Literal where
  | date (date : DateDigits)
  | floating (date : DateDigits) (time : TimeDigits)
  | utc (date : DateDigits) (time : TimeDigits)
deriving DecidableEq, Repr

/-- The form of a text. -/
def Literal.read? (text : List Char) : Option Literal :=
  match DateDigits.read? text with
  | some (day, []) => some (.date day)
  | some (day, 'T' :: rest) =>
    match TimeDigits.read? rest with
    | some (time, []) => some (.floating day time)
    | some (time, ['Z']) => some (.utc day time)
    | _ => none
  | _ => none

end ContentLine
