import ContentLine.Temporal.Parse
import ContentLine.Text.DecimalLemmas

/-!
# The grammar of temporal literals

The written forms that `Temporal.parse` accepts, given by what writes them: eight digits of a date,
eight digits of a date and six of a time around a `T`, or those followed by a `Z`. The numbers are
padded and come from a valid date and a valid time to the second, so the forms hold nothing of how a
text is read.

## Main definitions

* `Date.literal`, `LocalTime.literal`: the digits of a date and of a local time.
* `Temporal.Denotes`: the value that a text denotes, under an optional identifier and a registry.

## Main results

* `Literal.read?_eq_date_iff`, `Literal.read?_eq_floating_iff`, `Literal.read?_eq_utc_iff`: the form
  of a text is read exactly if the text is written in that form.
* `Temporal.parse_eq_ok_iff`: `Temporal.parse` gives a value exactly if the text denotes it.
-/

namespace ContentLine

/-! ## Digits -/

/-- The digits of a date: four of year, two of month and two of day. -/
def DateDigits.literal (digits : DateDigits) : List Char :=
  Text.padded 4 digits.year ++ Text.padded 2 digits.month ++ Text.padded 2 digits.day

/-- The digits of a time: two each of hour, minute and second. -/
def TimeDigits.literal (digits : TimeDigits) : List Char :=
  Text.padded 2 digits.hour ++ Text.padded 2 digits.minute ++ Text.padded 2 digits.second

/-- The numbers of a date fit into their fields. -/
def DateDigits.Fits (digits : DateDigits) : Prop :=
  digits.year < 10 ^ 4 ∧ digits.month < 10 ^ 2 ∧ digits.day < 10 ^ 2

/-- The numbers of a time fit into their fields. -/
def TimeDigits.Fits (digits : TimeDigits) : Prop :=
  digits.hour < 10 ^ 2 ∧ digits.minute < 10 ^ 2 ∧ digits.second < 10 ^ 2

/-- Reading the digits of a date reads three fields. -/
theorem DateDigits.read?_eq_some_iff_fields {text rest : List Char} {digits : DateDigits} :
    DateDigits.read? text = some (digits, rest) ↔
      ∃ text₁ text₂, Text.readDigits? 4 text = some (digits.year, text₁) ∧
        Text.readDigits? 2 text₁ = some (digits.month, text₂) ∧
        Text.readDigits? 2 text₂ = some (digits.day, rest) := by
  constructor
  · intro h
    unfold DateDigits.read? at h
    split at h
    · cases h
    next year text₁ hyear =>
      split at h
      · cases h
      next month text₂ hmonth =>
        split at h
        · cases h
        next day text₃ hday =>
          cases h
          exact ⟨text₁, text₂, hyear, hmonth, hday⟩
  · rintro ⟨text₁, text₂, hyear, hmonth, hday⟩
    simp only [DateDigits.read?, hyear, hmonth, hday]

/-- Reading the digits of a time reads three fields. -/
theorem TimeDigits.read?_eq_some_iff_fields {text rest : List Char} {digits : TimeDigits} :
    TimeDigits.read? text = some (digits, rest) ↔
      ∃ text₁ text₂, Text.readDigits? 2 text = some (digits.hour, text₁) ∧
        Text.readDigits? 2 text₁ = some (digits.minute, text₂) ∧
        Text.readDigits? 2 text₂ = some (digits.second, rest) := by
  constructor
  · intro h
    unfold TimeDigits.read? at h
    split at h
    · cases h
    next hour text₁ hhour =>
      split at h
      · cases h
      next minute text₂ hminute =>
        split at h
        · cases h
        next second text₃ hsecond =>
          cases h
          exact ⟨text₁, text₂, hhour, hminute, hsecond⟩
  · rintro ⟨text₁, text₂, hhour, hminute, hsecond⟩
    simp only [TimeDigits.read?, hhour, hminute, hsecond]

/-- The digits of a date are read from the front of a text exactly if they are written there. -/
theorem DateDigits.read?_eq_some_iff {text rest : List Char} {digits : DateDigits} :
    DateDigits.read? text = some (digits, rest) ↔ digits.Fits ∧ text = digits.literal ++ rest :=
  read?_eq_some_iff_fields.trans Text.readDigits?_three_iff

/-- The digits of a time are read from the front of a text exactly if they are written there. -/
theorem TimeDigits.read?_eq_some_iff {text rest : List Char} {digits : TimeDigits} :
    TimeDigits.read? text = some (digits, rest) ↔ digits.Fits ∧ text = digits.literal ++ rest :=
  read?_eq_some_iff_fields.trans Text.readDigits?_three_iff

/-! ## Forms -/

namespace Literal

/-- A text has the form of a date exactly if it is the digits of one. -/
theorem read?_eq_date_iff {text : List Char} {day : DateDigits} :
    read? text = some (.date day) ↔ day.Fits ∧ text = day.literal := by
  constructor
  · intro h
    unfold read? at h
    split at h
    next found hday =>
      cases h
      simpa using DateDigits.read?_eq_some_iff.mp hday
    next => split at h <;> cases h
    next => cases h
  · intro h
    have hday : DateDigits.read? text = some (day, []) :=
      DateDigits.read?_eq_some_iff.mpr (by simpa using h)
    simp [read?, hday]

/-- A text has the form of a local date-time exactly if it is the digits of a date and a time around
a `T`. -/
theorem read?_eq_floating_iff {text : List Char} {day : DateDigits} {time : TimeDigits} :
    read? text = some (.floating day time) ↔
      day.Fits ∧ time.Fits ∧ text = day.literal ++ 'T' :: time.literal := by
  constructor
  · intro h
    unfold read? at h
    split at h
    next => cases h
    next found rest hday =>
      split at h
      next foundTime htime =>
        cases h
        obtain ⟨hdayFits, rfl⟩ := DateDigits.read?_eq_some_iff.mp hday
        obtain ⟨htimeFits, rfl⟩ := TimeDigits.read?_eq_some_iff.mp htime
        exact ⟨hdayFits, htimeFits, by simp⟩
      next => cases h
      next => cases h
    next => cases h
  · rintro ⟨hdayFits, htimeFits, rfl⟩
    have hday : DateDigits.read? (day.literal ++ 'T' :: time.literal) =
        some (day, 'T' :: time.literal) :=
      DateDigits.read?_eq_some_iff.mpr ⟨hdayFits, rfl⟩
    have htime : TimeDigits.read? time.literal = some (time, []) :=
      TimeDigits.read?_eq_some_iff.mpr ⟨htimeFits, by simp⟩
    simp [read?, hday, htime]

/-- A text has the form of a date-time in UTC exactly if it is the digits of a date and a time
around a `T`, and a `Z`. -/
theorem read?_eq_utc_iff {text : List Char} {day : DateDigits} {time : TimeDigits} :
    read? text = some (.utc day time) ↔
      day.Fits ∧ time.Fits ∧ text = day.literal ++ 'T' :: time.literal ++ ['Z'] := by
  constructor
  · intro h
    unfold read? at h
    split at h
    next => cases h
    next found rest hday =>
      split at h
      next => cases h
      next foundTime htime =>
        cases h
        obtain ⟨hdayFits, rfl⟩ := DateDigits.read?_eq_some_iff.mp hday
        obtain ⟨htimeFits, rfl⟩ := TimeDigits.read?_eq_some_iff.mp htime
        exact ⟨hdayFits, htimeFits, by simp⟩
      next => cases h
    next => cases h
  · rintro ⟨hdayFits, htimeFits, rfl⟩
    have hday : DateDigits.read? (day.literal ++ 'T' :: time.literal ++ ['Z']) =
        some (day, 'T' :: (time.literal ++ ['Z'])) :=
      DateDigits.read?_eq_some_iff.mpr ⟨hdayFits, by simp⟩
    have htime : TimeDigits.read? (time.literal ++ ['Z']) = some (time, ['Z']) :=
      TimeDigits.read?_eq_some_iff.mpr ⟨htimeFits, rfl⟩
    rw [read?, hday]
    simp only [htime]

end Literal

/-! ## Valid dates and times -/

/-- The numbers of a date. -/
def Date.toDigits (date : Date) : DateDigits :=
  ⟨date.year, date.month, date.day⟩

/-- The numbers of a time. -/
def TimeOfDay.toDigits (time : TimeOfDay) : TimeDigits :=
  ⟨time.hour, time.minute, time.second⟩

/-- The literal of a date: four digits of year, two of month and two of day. -/
def Date.literal (date : Date) : List Char :=
  Text.padded 4 date.year ++ Text.padded 2 date.month ++ Text.padded 2 date.day

/-- The literal of a local time: the digits of the date, a `T`, and two digits each of hour, minute
and second. -/
def LocalTime.literal (wall : LocalTime) : List Char :=
  wall.date.literal ++ 'T' :: wall.time.basic

theorem monthLength_le (year month : Nat) : monthLength year month ≤ 31 := by
  unfold monthLength
  split <;> try omega
  split <;> omega

theorem Date.fits_toDigits (date : Date) : date.toDigits.Fits := by
  have hyear := date.year_range
  have hmonth := date.month_range
  have hday := date.day_range
  have hlength := monthLength_le date.year date.month
  simp only [DateDigits.Fits, Date.toDigits]
  omega

theorem TimeOfDay.fits_toDigits (time : TimeOfDay) : time.toDigits.Fits := by
  have hhour := time.hour_lt
  have hminute := time.minute_lt
  have hsecond := time.second_lt
  simp only [TimeDigits.Fits, TimeOfDay.toDigits]
  omega

/-- Numbers form a date exactly if they are those of the date. -/
theorem DateDigits.date_eq_ok_iff {digits : DateDigits} {date : Date} :
    digits.date = .ok date ↔ digits = date.toDigits := by
  rcases digits with ⟨year, month, day⟩
  rw [DateDigits.date, Date.of?_eq_ok_iff]
  simp [Date.toDigits, eq_comm]

/-- Numbers form a time exactly if they are those of the time, which is then a whole second. -/
theorem TimeDigits.time_eq_ok_iff {digits : TimeDigits} {time : TimeOfDay} :
    digits.time = .ok time ↔ digits = time.toDigits ∧ time.microsecond = 0 := by
  rcases digits with ⟨hour, minute, second⟩
  rw [TimeDigits.time, TimeOfDay.of?_eq_ok_iff]
  simp [TimeOfDay.toDigits, eq_comm, and_assoc]

/-- Numbers form a local time exactly if those of its date form the date and those of its time the
time of day. -/
theorem LocalTime.ofDigits_eq_ok_iff {day : DateDigits} {time : TimeDigits} {wall : LocalTime} :
    LocalTime.ofDigits day time = .ok wall ↔
      day = wall.date.toDigits ∧ time = wall.time.toDigits ∧ wall.time.microsecond = 0 := by
  rw [← DateDigits.date_eq_ok_iff, ← TimeDigits.time_eq_ok_iff, LocalTime.ofDigits]
  rcases wall with ⟨date, timeOfDay⟩
  cases hdate : day.date with
  | error fault => simp
  | ok found => cases htime : time.time with
    | error fault => simp
    | ok foundTime => simp

/-! ## Values -/

namespace Temporal

/-- The value that a text denotes. A date and a moment in UTC are denoted only without an
identifier; a local time denotes its reading in the zone of the identifier, or of the default. -/
inductive Denotes (registry : ZoneRegistry) (leniency : Leniency) :
    Option String → List Char → Temporal → Prop
  | date (date : Date) : Denotes registry leniency none date.literal (.date date)
  | utc (wall : LocalTime) (hwhole : wall.time.microsecond = 0) :
      Denotes registry leniency none (wall.literal ++ ['Z']) (.utc wall false)
  /-- A local time, in the zone that the registry finds. -/
  | zoned (tzid : Option String) (wall : LocalTime) (hwhole : wall.time.microsecond = 0)
      (zone : Zone)
      (hzone : (registry.resolve leniency (tzid.getD registry.defaultTzid)).result = .ok zone) :
      Denotes registry leniency tzid wall.literal
        (.zoned ⟨wall, false, zone⟩ (tzid.getD registry.defaultTzid))

variable {registry : ZoneRegistry} {leniency : Leniency} {tzid : Option String} {text : String}
  {value : Temporal}

/-- A literal is read as its date. -/
theorem read?_date (date : Date) : Literal.read? date.literal = some (.date date.toDigits) :=
  Literal.read?_eq_date_iff.mpr ⟨date.fits_toDigits, rfl⟩

/-- A literal is read as its local time. -/
theorem read?_wall (wall : LocalTime) :
    Literal.read? wall.literal = some (.floating wall.date.toDigits wall.time.toDigits) :=
  Literal.read?_eq_floating_iff.mpr ⟨wall.date.fits_toDigits, wall.time.fits_toDigits, rfl⟩

/-- A literal with a `Z` is read as a time in UTC. -/
theorem read?_wall_utc (wall : LocalTime) :
    Literal.read? (wall.literal ++ ['Z']) =
      some (.utc wall.date.toDigits wall.time.toDigits) :=
  Literal.read?_eq_utc_iff.mpr ⟨wall.date.fits_toDigits, wall.time.fits_toDigits, rfl⟩

/-- Binding a local time gives its reading in the zone that the registry finds. -/
theorem bindLocal_eq_ok_iff {identifier : String} {wall : LocalTime} :
    (bindLocal registry leniency identifier wall).result = .ok value ↔
      ∃ zone, (registry.resolve leniency identifier).result = .ok zone ∧
        value = .zoned ⟨wall, false, zone⟩ identifier := by
  rw [bindLocal, Action.result_bind_eq_ok_iff]
  simp [eq_comm]

/-- A text whose form is a date gives the date of its numbers. -/
theorem parse_of_date {day : DateDigits} (hform : Literal.read? text.toList = some (.date day)) :
    parse registry leniency none text =
      match day.date with
      | .ok given => pure (.date given)
      | .error fault => Action.fail (.format (.badDate text fault)) := by
  cases hday : day.date <;> simp only [parse, hform, hday]

/-- A text whose form is a time in UTC gives the moment of its numbers. -/
theorem parse_of_utc {day : DateDigits} {time : TimeDigits}
    (hform : Literal.read? text.toList = some (.utc day time)) :
    parse registry leniency none text =
      match LocalTime.ofDigits day time with
      | .ok wall => pure (.utc wall false)
      | .error fault => Action.fail (.format (.badDateTime text fault)) := by
  cases hwall : LocalTime.ofDigits day time <;> simp only [parse, hform, hwall]

/-- A text whose form is a local time gives the local time of its numbers, bound to a zone. -/
theorem parse_of_floating {day : DateDigits} {time : TimeDigits}
    (hform : Literal.read? text.toList = some (.floating day time)) :
    parse registry leniency tzid text =
      match LocalTime.ofDigits day time with
      | .ok wall => bindLocal registry leniency (tzid.getD registry.defaultTzid) wall
      | .error fault => Action.fail (.format (.badDateTime text fault)) := by
  cases hwall : LocalTime.ofDigits day time <;> simp only [parse, hform, hwall]

/-- With an identifier only a local time is accepted. -/
theorem parse_of_not_floating {identifier : String}
    (hform : ∀ day time, Literal.read? text.toList ≠ some (.floating day time)) :
    parse registry leniency (some identifier) text =
      Action.fail (.format (.notLocal identifier text)) := by
  cases hread : Literal.read? text.toList with
  | none => simp only [parse, hread]
  | some form =>
    cases form with
    | floating day time => exact absurd hread (hform day time)
    | date day => simp only [parse, hread]
    | utc day time => simp only [parse, hread]

/-- A value is the reading of a literal only if the text denotes the value. -/
theorem denotes_of_parse (h : (parse registry leniency tzid text).result = .ok value) :
    Denotes registry leniency tzid text.toList value := by
  -- The form of the text decides which branch of `parse` gave the value.
  cases hform : Literal.read? text.toList with
  | none =>
    cases tzid <;> simp [parse, hform] at h
  | some form =>
    cases form with
    | floating day time =>
      rw [parse_of_floating hform] at h
      obtain ⟨-, -, htext⟩ := Literal.read?_eq_floating_iff.mp hform
      cases hwall : LocalTime.ofDigits day time with
      | error fault => simp [hwall] at h
      | ok wall =>
        obtain ⟨rfl, rfl, hwhole⟩ := LocalTime.ofDigits_eq_ok_iff.mp hwall
        rw [hwall] at h
        obtain ⟨zone, hzone, rfl⟩ := bindLocal_eq_ok_iff.mp h
        rw [htext]
        exact .zoned tzid wall hwhole zone hzone
    | date day =>
      cases tzid with
      | some identifier => rw [parse_of_not_floating (by simp [hform])] at h; cases h
      | none =>
        rw [parse_of_date hform] at h
        obtain ⟨-, htext⟩ := Literal.read?_eq_date_iff.mp hform
        cases hdate : day.date with
        | error fault => simp [hdate] at h
        | ok date =>
          obtain rfl := DateDigits.date_eq_ok_iff.mp hdate
          rw [hdate] at h
          cases h
          rw [htext]
          exact .date date
    | utc day time =>
      cases tzid with
      | some identifier => rw [parse_of_not_floating (by simp [hform])] at h; cases h
      | none =>
        rw [parse_of_utc hform] at h
        obtain ⟨-, -, htext⟩ := Literal.read?_eq_utc_iff.mp hform
        cases hwall : LocalTime.ofDigits day time with
        | error fault => simp [hwall] at h
        | ok wall =>
          obtain ⟨rfl, rfl, hwhole⟩ := LocalTime.ofDigits_eq_ok_iff.mp hwall
          rw [hwall] at h
          cases h
          rw [htext]
          exact .utc wall hwhole

/-- A text gives a value exactly if it denotes the value. -/
theorem parse_eq_ok_iff :
    (parse registry leniency tzid text).result = .ok value ↔
      Denotes registry leniency tzid text.toList value := by
  refine ⟨denotes_of_parse, fun h => ?_⟩
  generalize hchars : text.toList = chars at h
  cases h with
  | date date =>
    have hform := read?_date date
    rw [← hchars] at hform
    rw [parse_of_date hform, DateDigits.date_eq_ok_iff.mpr rfl]
    rfl
  | utc wall hwhole =>
    have hform := read?_wall_utc wall
    rw [← hchars] at hform
    rw [parse_of_utc hform, LocalTime.ofDigits_eq_ok_iff.mpr ⟨rfl, rfl, hwhole⟩]
    rfl
  | zoned _ wall hwhole zone hzone =>
    have hform := read?_wall wall
    rw [← hchars] at hform
    rw [parse_of_floating hform, LocalTime.ofDigits_eq_ok_iff.mpr ⟨rfl, rfl, hwhole⟩]
    exact bindLocal_eq_ok_iff.mpr ⟨zone, hzone, rfl⟩

end Temporal

end ContentLine
