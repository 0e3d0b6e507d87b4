import ContentLine.Civil.RangeFault
import ContentLine.Text.Decimal

/-!
# Times of day

A time of day to the microsecond. Every day has 86400 seconds.

## Main definitions

- `TimeOfDay`: a time of day, valid by construction.
- `TimeOfDay.of?`: a time from its components, or the first component out of range.
- `TimeOfDay.secondOfDay`, `TimeOfDay.atSecond`: a time and its whole seconds since midnight.

## Main statements

- `TimeOfDay.of?_eq_ok_iff`: the components of a time are those that `TimeOfDay.of?` accepts.
-/

namespace ContentLine

/-- A time of day. -/
structure TimeOfDay where
  /-- The hour, from 0. -/
  hour : Nat
  /-- The minute, from 0. -/
  minute : Nat
  /-- The second, from 0. -/
  second : Nat
  /-- The microseconds after the whole second. -/
  microsecond : Nat
  hour_lt : hour < 24 := by omega
  minute_lt : minute < 60 := by omega
  second_lt : second < 60 := by omega
  microsecond_lt : microsecond < 1000000 := by omega
deriving DecidableEq, Repr

namespace TimeOfDay

/-- The start of a day. -/
def midnight : TimeOfDay :=
  { hour := 0, minute := 0, second := 0, microsecond := 0 }

/-- The time with the given components, or the first component out of range. -/
def of? (hour minute second microsecond : Nat) : Except RangeFault TimeOfDay :=
  if hour_lt : hour < 24 then
    if minute_lt : minute < 60 then
      if second_lt : second < 60 then
        if microsecond_lt : microsecond < 1000000 then
          .ok { hour, minute, second, microsecond, hour_lt, minute_lt, second_lt, microsecond_lt }
        else .error .microsecond
      else .error .second
    else .error .minute
  else .error .hour

/-- The number of whole seconds since midnight. -/
def secondOfDay (time : TimeOfDay) : Nat :=
  3600 * time.hour + 60 * time.minute + time.second

/-- The time `n` seconds after midnight, around the clock, with the fraction of `time`. -/
def atSecond (time : TimeOfDay) (n : Nat) : TimeOfDay where
  hour := n / 3600 % 24
  minute := n / 60 % 60
  second := n % 60
  microsecond := time.microsecond
  microsecond_lt := time.microsecond_lt

/-- The extended form: two digits each of hour, minute and second between colons, and six digits of
the fraction if there is one. -/
def extended (time : TimeOfDay) : List Char :=
  Text.padded 2 time.hour ++ ':' :: Text.padded 2 time.minute ++ ':' :: Text.padded 2 time.second ++
    if time.microsecond = 0 then [] else '.' :: Text.padded 6 time.microsecond

/-- The basic form: two digits each of hour, minute and second. The fraction is left out. -/
def basic (time : TimeOfDay) : List Char :=
  Text.padded 2 time.hour ++ Text.padded 2 time.minute ++ Text.padded 2 time.second

theorem secondOfDay_lt (time : TimeOfDay) : time.secondOfDay < 86400 := by
  have := time.hour_lt
  have := time.minute_lt
  have := time.second_lt
  unfold secondOfDay
  omega

@[simp] theorem atSecond_secondOfDay (time : TimeOfDay) :
    time.atSecond time.secondOfDay = time := by
  have := time.hour_lt
  have := time.minute_lt
  have := time.second_lt
  have hour : (3600 * time.hour + 60 * time.minute + time.second) / 3600 % 24 = time.hour := by
    omega
  have minute : (3600 * time.hour + 60 * time.minute + time.second) / 60 % 60 = time.minute := by
    omega
  have second : (3600 * time.hour + 60 * time.minute + time.second) % 60 = time.second := by
    omega
  cases time
  simp_all [atSecond, secondOfDay]

theorem secondOfDay_atSecond (time : TimeOfDay) {n : Nat} (h : n < 86400) :
    (time.atSecond n).secondOfDay = n := by
  simp only [atSecond, secondOfDay]
  omega

@[simp] theorem of?_components (time : TimeOfDay) :
    of? time.hour time.minute time.second time.microsecond = .ok time := by
  simp [of?, time.hour_lt, time.minute_lt, time.second_lt, time.microsecond_lt]

/-- The components of a time are exactly those that are accepted. -/
theorem of?_eq_ok_iff {hour minute second microsecond : Nat} {time : TimeOfDay} :
    of? hour minute second microsecond = .ok time ↔
      time.hour = hour ∧ time.minute = minute ∧ time.second = second ∧
        time.microsecond = microsecond := by
  constructor
  · intro h
    unfold of? at h
    split at h
    · split at h
      · split at h
        · split at h
          · cases h; exact ⟨rfl, rfl, rfl, rfl⟩
          · cases h
        · cases h
      · cases h
    · cases h
  · rintro ⟨rfl, rfl, rfl, rfl⟩
    exact of?_components time

end TimeOfDay

end ContentLine
