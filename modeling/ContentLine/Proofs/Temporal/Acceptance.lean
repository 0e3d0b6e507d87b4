import ContentLine.Proofs.Temporal.Grammar
import ContentLine.Proofs.Text.Digits
import ContentLine.Zone.Excerpt

/-!
# Accepted texts

The grammar of temporal literals from the side of the text: what counts is that its characters are
ASCII digits, where they stand, and which numbers they form. The numbers must be those of a day of
the calendar in the years 1 to 9999, leap days included, and of a time of day to the second. A
local time also needs a zone, which the registry finds for the identifier, or for the default if
there is none; a day and a time in UTC are accepted only without an identifier.

## Main definitions

* `IsDateText`, `IsTimeText`, `IsLocalText`: the digits of a day, of a time of day, and of both.
* `Date.WrittenAs`, `TimeOfDay.WrittenAs`, `LocalTime.WrittenAs`: the components that digits write.
* `Temporal.SpelledBy`: a value holds exactly what a text spells.

## Main results

* `Temporal.spelledBy_iff_denotes`: a text spells the values that it denotes.
* `Temporal.parse_accepts_iff`: which texts give a value, and which value each of them gives.
-/

namespace ContentLine

/-! ## Days and times of day -/

/-- Eight digits of a day of the calendar: four of its year, from 1 to 9999, two of its month, and
two of its day in the month. -/
def IsDateText (text : List Char) : Prop :=
  ∃ year month day, Text.ThreeFields 4 2 2 year month day text ∧
    (1 ≤ year ∧ year ≤ 9999) ∧ (1 ≤ month ∧ month ≤ 12) ∧ 1 ≤ day ∧ day ≤ monthLength year month

/-- Six digits of a time of day: two each of hour, minute and second. -/
def IsTimeText (text : List Char) : Prop :=
  ∃ hour minute second, Text.ThreeFields 2 2 2 hour minute second text ∧
    hour < 24 ∧ minute < 60 ∧ second < 60

/-- The digits of a day and of a time of day around a `T`. -/
def IsLocalText (text : List Char) : Prop :=
  ∃ day time, IsDateText day ∧ IsTimeText time ∧ text = day ++ 'T' :: time

/-- Eight digits form the year, the month and the day of a date. -/
def Date.WrittenAs (date : Date) (text : List Char) : Prop :=
  Text.ThreeFields 4 2 2 date.year date.month date.day text

/-- Six digits form the hour, the minute and the second of a time, which has no fraction. -/
def TimeOfDay.WrittenAs (time : TimeOfDay) (text : List Char) : Prop :=
  Text.ThreeFields 2 2 2 time.hour time.minute time.second text ∧ time.microsecond = 0

/-- A text consists of the digits of the date and of the time around a `T`. -/
def LocalTime.WrittenAs (wall : LocalTime) (text : List Char) : Prop :=
  ∃ day time, wall.date.WrittenAs day ∧ wall.time.WrittenAs time ∧ text = day ++ 'T' :: time

/-- A text is the digits of a day exactly if it writes a date. -/
theorem isDateText_iff {text : List Char} :
    IsDateText text ↔ ∃ date : Date, date.WrittenAs text := by
  constructor
  · rintro ⟨year, month, day, hfields, hyear, hmonth, hday⟩
    exact ⟨⟨year, month, day, hyear, hmonth, hday⟩, hfields⟩
  · rintro ⟨date, hfields⟩
    exact ⟨_, _, _, hfields, date.year_range, date.month_range, date.day_range⟩

/-- A text is the digits of a time of day exactly if it writes one. -/
theorem isTimeText_iff {text : List Char} :
    IsTimeText text ↔ ∃ time : TimeOfDay, time.WrittenAs text := by
  constructor
  · rintro ⟨hour, minute, second, hfields, hhour, hminute, hsecond⟩
    exact ⟨⟨hour, minute, second, 0, hhour, hminute, hsecond, by decide⟩, hfields, rfl⟩
  · rintro ⟨time, hfields, -⟩
    exact ⟨_, _, _, hfields, time.hour_lt, time.minute_lt, time.second_lt⟩

/-- A text is the digits of a day and a time exactly if it writes a local time. -/
theorem isLocalText_iff {text : List Char} :
    IsLocalText text ↔ ∃ wall : LocalTime, wall.WrittenAs text := by
  constructor
  · rintro ⟨day, time, hday, htime, rfl⟩
    obtain ⟨date, hdate⟩ := isDateText_iff.mp hday
    obtain ⟨timeOfDay, htimeOfDay⟩ := isTimeText_iff.mp htime
    exact ⟨⟨date, timeOfDay⟩, day, time, hdate, htimeOfDay, rfl⟩
  · rintro ⟨wall, day, time, hdate, htime, rfl⟩
    exact ⟨day, time, isDateText_iff.mpr ⟨_, hdate⟩, isTimeText_iff.mpr ⟨_, htime⟩, rfl⟩

/-! ## Literals -/

/-- Only the literal of a date writes the date. -/
theorem Date.writtenAs_iff {date : Date} {text : List Char} :
    date.WrittenAs text ↔ text = date.literal :=
  Text.threeFields_iff.trans (and_iff_right date.fits_toDigits)

theorem TimeOfDay.writtenAs_iff {time : TimeOfDay} {text : List Char} :
    time.WrittenAs text ↔ text = time.basic ∧ time.microsecond = 0 :=
  and_congr_left fun _ => Text.threeFields_iff.trans (and_iff_right time.fits_toDigits)

/-- Only the literal of a local time writes it, if it is a whole second. -/
theorem LocalTime.writtenAs_iff {wall : LocalTime} {text : List Char} :
    wall.WrittenAs text ↔ text = wall.literal ∧ wall.time.microsecond = 0 := by
  constructor
  · rintro ⟨day, time, hday, htime, rfl⟩
    obtain rfl := Date.writtenAs_iff.mp hday
    obtain ⟨rfl, hwhole⟩ := TimeOfDay.writtenAs_iff.mp htime
    exact ⟨rfl, hwhole⟩
  · rintro ⟨rfl, hwhole⟩
    exact ⟨_, _, Date.writtenAs_iff.mpr rfl, TimeOfDay.writtenAs_iff.mpr ⟨rfl, hwhole⟩, rfl⟩

/-! ## Values -/

namespace Temporal

variable {registry : ZoneRegistry} {leniency : Leniency} {tzid : Option String}

/-- A value holds exactly what a text spells, under an optional identifier: the components that are
written, the first occurrence of a time, and the zone that the registry finds, under the identifier
that it was asked for. -/
def SpelledBy (registry : ZoneRegistry) (leniency : Leniency) (tzid : Option String)
    (text : List Char) : Temporal → Prop
  | date day => tzid = none ∧ day.WrittenAs text
  | utc wall fold =>
    tzid = none ∧ fold = false ∧ ∃ digits, wall.WrittenAs digits ∧ text = digits ++ ['Z']
  | zoned time identifier =>
    identifier = tzid.getD registry.defaultTzid ∧ time.fold = false ∧
      time.wall.WrittenAs text ∧ (registry.resolve leniency identifier).result = .ok time.zone

/-- A text spells exactly the values that it denotes. -/
theorem spelledBy_iff_denotes {text : List Char} {value : Temporal} :
    value.SpelledBy registry leniency tzid text ↔
      Denotes registry leniency tzid text value := by
  constructor
  · intro h
    cases value with
    | date day =>
      obtain ⟨rfl, hday⟩ := h
      obtain rfl := Date.writtenAs_iff.mp hday
      exact .date day
    | utc wall fold =>
      obtain ⟨rfl, rfl, digits, hwall, rfl⟩ := h
      obtain ⟨rfl, hwhole⟩ := LocalTime.writtenAs_iff.mp hwall
      exact .utc wall hwhole
    | zoned time identifier =>
      rcases time with ⟨wall, fold, zone⟩
      obtain ⟨rfl, hfold, hwall, hzone⟩ := h
      obtain rfl : fold = false := hfold
      obtain ⟨rfl, hwhole⟩ := LocalTime.writtenAs_iff.mp hwall
      exact .zoned tzid wall hwhole zone hzone
  · intro h
    cases h with
    | date day => exact ⟨rfl, Date.writtenAs_iff.mpr rfl⟩
    | utc wall hwhole =>
      exact ⟨rfl, rfl, wall.literal, LocalTime.writtenAs_iff.mpr ⟨rfl, hwhole⟩, rfl⟩
    | zoned _ wall hwhole zone hzone =>
      exact ⟨rfl, rfl, LocalTime.writtenAs_iff.mpr ⟨rfl, hwhole⟩, hzone⟩

/-- A text gives a value exactly if it spells a day without an identifier, a moment in UTC without
an identifier, or a local time for which the registry finds a zone; and the value holds exactly what
the text spells. -/
theorem parse_accepts_iff (registry : ZoneRegistry) (leniency : Leniency) (tzid : Option String)
    (text : String) :
    ((∃ value, (parse registry leniency tzid text).result = .ok value) ↔
      tzid = none ∧ IsDateText text.toList ∨
      tzid = none ∧ (∃ digits, IsLocalText digits ∧ text.toList = digits ++ ['Z']) ∨
      IsLocalText text.toList ∧ ∃ zone,
        (registry.resolve leniency (tzid.getD registry.defaultTzid)).result = .ok zone) ∧
    ∀ value, (parse registry leniency tzid text).result = .ok value ↔
      value.SpelledBy registry leniency tzid text.toList := by
  have hvalue (value : Temporal) : (parse registry leniency tzid text).result = .ok value ↔
      value.SpelledBy registry leniency tzid text.toList :=
    parse_eq_ok_iff.trans spelledBy_iff_denotes.symm
  refine ⟨?_, hvalue⟩
  -- Each form is accepted because a value of its variant is spelled.
  simp only [hvalue, isDateText_iff, isLocalText_iff]
  constructor
  · rintro ⟨value, hspelled⟩
    cases value with
    | date day => exact Or.inl ⟨hspelled.1, day, hspelled.2⟩
    | utc wall fold =>
      obtain ⟨hnone, -, digits, hwall, htext⟩ := hspelled
      exact Or.inr (Or.inl ⟨hnone, digits, ⟨wall, hwall⟩, htext⟩)
    | zoned time identifier =>
      obtain ⟨rfl, -, hwall, hzone⟩ := hspelled
      exact Or.inr (Or.inr ⟨⟨time.wall, hwall⟩, time.zone, hzone⟩)
  · rintro (⟨hnone, day, hday⟩ | ⟨hnone, digits, hdigits, htext⟩ | ⟨htext, zone, hzone⟩)
    · exact ⟨.date day, hnone, hday⟩
    · obtain ⟨wall, hwall⟩ := hdigits
      exact ⟨.utc wall false, hnone, rfl, digits, hwall, htext⟩
    · obtain ⟨wall, hwall⟩ := htext
      exact ⟨.zoned ⟨wall, false, zone⟩ (tzid.getD registry.defaultTzid), rfl, rfl, hwall, hzone⟩

/-- A date is not accepted with a line feed after it, in digits that are not ASCII, or on the 29th
of February of a common year. -/
example : ∀ text ∈ ["20230615\n", "20230229", "２０２３０６１５"],
    (parse .standard .strict none text).result.toOption = none := by
  decide +kernel

end Temporal

end ContentLine
