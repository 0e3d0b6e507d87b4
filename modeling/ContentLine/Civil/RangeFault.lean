/-!
# Components out of range

The reasons why numbers do not form a date or a time of day. The components are judged in the order
of the constructors, and the first one out of range is the one reported.

## Main definitions

- `RangeFault`, `RangeFault.message`: the reasons and their wording.

## Main statements

- `RangeFault.message_inj`: each wording belongs to one component alone.
-/

namespace ContentLine

/-- A component of a date or time that is out of range. -/
inductive RangeFault where
  /-- The year is not between 1 and 9999. -/
  | year (given : Nat)
  /-- The month is not between 1 and 12. -/
  | month
  /-- The month has no such day. -/
  | day
  /-- The hour is not below 24. -/
  | hour
  /-- The minute is not below 60. -/
  | minute
  /-- The second is not below 60. -/
  | second
  /-- The fraction is not below a million microseconds. -/
  | microsecond
deriving DecidableEq, Repr

namespace RangeFault

/-- The wording of a fault. -/
def message : RangeFault → String
  | .year given => s!"year {given} is out of range"
  | .month => "month must be in 1..12"
  | .day => "day is out of range for month"
  | .hour => "hour must be in 0..23"
  | .minute => "minute must be in 0..59"
  | .second => "second must be in 0..59"
  | .microsecond => "microsecond must be in 0..999999"

theorem message_year (given : Nat) :
    (year given).message = "year " ++ given.repr ++ " is out of range" := rfl

theorem head?_message_year (given : Nat) : (year given).message.toList.head? = some 'y' := by
  simp [message_year]

/-- Each wording belongs to one component alone, and that of a year to one number. -/
theorem message_inj {a b : RangeFault} : a.message = b.message ↔ a = b := by
  refine ⟨fun h => ?_, fun h => h ▸ rfl⟩
  have hhead := congrArg (fun text : String => text.toList.head?) h
  -- Only the wording of a year has a part that varies, and only that starts with its letter.
  cases a with
  | year given =>
    cases b with
    | year other =>
      rw [message_year, message_year, String.append_assoc, String.append_assoc] at h
      have hrepr : given.repr = other.repr := by simpa using h
      -- A number can be read back from its digits.
      simpa using congrArg (fun text : String => Nat.ofDigitChars 10 text.toList 0) hrepr
    | month | day | hour | minute | second | microsecond =>
      simp only [head?_message_year] at hhead
      exact absurd hhead (by decide)
  | month | day | hour | minute | second | microsecond =>
    cases b with
    | year other =>
      simp only [head?_message_year] at hhead
      exact absurd hhead (by decide)
    | month | day | hour | minute | second | microsecond =>
      first | rfl | exact absurd h (by decide)

end RangeFault

end ContentLine
