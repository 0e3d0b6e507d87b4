import ContentLine.Proofs.Temporal.Grammar
import ContentLine.Zone.Excerpt

/-!
# Writing and reading temporal values

A value is written without padding its year, while a text is read as a date only if four digits of
year are there. From the year 1000 on the two agree, so that what is read is written as it was and
what is written is read back, up to what a literal does not hold: the fraction of a second, the fold
and the zone. A year before 1000 loses its leading zeros in writing, and the literal is then too
short to be read as anything.

## Main definitions

* `Temporal.day`: the date of a value, on its own clock.
* `Date.yearZeros`: the zeros that a year lacks to have four digits.
* `Temporal.Restores`: the value that is left of another once it is written and read back.

## Main results

* `Temporal.literal_eq_zeros_append_ics`: what is written of a value lacks only the leading zeros of
  the year.
* `Temporal.read?_ics_eq_none`: a value of a year before 1000 is written in no form of a literal.
* `Temporal.ics_of_parse`: a value that is read is written as the text it was read from, exactly if
  its year is at least 1000.
* `Temporal.parse_ics`: a value is read back from what is written of it, exactly if its year is at
  least 1000.
-/

namespace ContentLine

/-! ## Dates without leading zeros -/

/-- Every character of the digits of a date is a digit. -/
theorem DateDigits.isSome_digitValue?_of_mem_literal {digits : DateDigits} {c : Char}
    (h : c ∈ digits.literal) : (Text.digitValue? c).isSome := by
  simp only [DateDigits.literal, List.mem_append] at h
  rcases h with (h | h) | h <;> exact Text.isSome_digitValue?_of_mem_padded h

theorem DateDigits.length_literal (digits : DateDigits) : digits.literal.length = 8 := by
  simp only [DateDigits.literal, List.length_append, Text.length_padded]

namespace Date

/-- The zeros that the year of a date lacks to have four digits. -/
def yearZeros (date : Date) : List Char :=
  List.replicate (4 - (Text.unpadded date.year).length) '0'

theorem literal_eq_zeros_append_basic (date : Date) :
    date.literal = date.yearZeros ++ date.basic := by
  have hyear := date.year_range
  rw [literal, basic, yearZeros, Text.padded_eq_zeros_append (by omega) (by omega)]
  simp only [List.append_assoc]

/-- A year has four digits exactly if it is at least 1000. -/
theorem yearZeros_eq_nil_iff (date : Date) : date.yearZeros = [] ↔ 1000 ≤ date.year := by
  have hthree : (Text.unpadded date.year).length ≤ 3 ↔ date.year < 10 ^ 3 :=
    Text.length_unpadded_le_iff (by omega)
  rw [yearZeros, List.replicate_eq_nil_iff]
  omega

theorem length_basic_lt {date : Date} (hyear : date.year < 1000) : date.basic.length < 8 := by
  have hzeros : date.yearZeros ≠ [] := by
    rw [Ne, yearZeros_eq_nil_iff]
    omega
  have hlength : date.literal.length = 8 := date.toDigits.length_literal
  rw [literal_eq_zeros_append_basic, List.length_append] at hlength
  have := List.length_pos_iff.mpr hzeros
  omega

/-- A date of a year before 1000 is not read where no digit follows what is written of it. -/
theorem read?_basic_append_eq_none {date : Date} (hyear : date.year < 1000) {tail : List Char}
    (htail : ∀ c ∈ tail.head?, Text.digitValue? c = none) :
    DateDigits.read? (date.basic ++ tail) = none := by
  rw [Option.eq_none_iff_forall_not_mem]
  rintro ⟨digits, rest⟩ hread
  obtain ⟨-, htext⟩ := DateDigits.read?_eq_some_iff.mp hread
  have hshort := length_basic_lt hyear
  have hlength := digits.length_literal
  -- Eight digits were read, so they reach into the tail, which begins with none.
  rcases List.append_eq_append_iff.mp htext with ⟨beyond, hliteral, hbeyond⟩ | ⟨beyond, hbasic, -⟩
  · cases beyond with
    | nil =>
      rw [hliteral, List.append_nil] at hlength
      omega
    | cons c beyond =>
      have hmem : c ∈ digits.literal := by
        rw [hliteral]
        exact List.mem_append_right _ List.mem_cons_self
      have hdigit := DateDigits.isSome_digitValue?_of_mem_literal hmem
      rw [htail c (by simp [hbeyond])] at hdigit
      cases hdigit
  · rw [hbasic, List.length_append] at hshort
    omega

end Date

/-! ## What is written of a value -/

/-- A local time without its fraction of a second. -/
def LocalTime.wholeSecond (wall : LocalTime) : LocalTime :=
  { wall with
    time := { wall.time with
      microsecond := 0, microsecond_lt := TimeOfDay.midnight.microsecond_lt } }

namespace Temporal

/-- The date of a value; that of a time is the one on its own clock. -/
def day : Temporal → Date
  | date d => d
  | utc wall _ => wall.date
  | zoned time _ => time.wall.date

/-- The literal of a value, with four digits of year. -/
def literal : Temporal → List Char
  | date d => d.literal
  | utc wall _ => wall.literal ++ ['Z']
  | zoned time _ => time.wall.literal

/-- What is written of a value lacks the leading zeros of the year and nothing else. -/
theorem literal_eq_zeros_append_ics (value : Temporal) :
    value.literal = value.day.yearZeros ++ value.ics.toList := by
  cases value with
  | date d =>
    rw [ics, String.toList_ofList]
    exact d.literal_eq_zeros_append_basic
  | utc wall fold =>
    simp only [literal, day, ics, String.toList_ofList, LocalTime.literal, LocalTime.basic,
      Date.literal_eq_zeros_append_basic, List.append_assoc]
  | zoned time tzid =>
    simp only [literal, day, ics, String.toList_ofList, LocalTime.literal, LocalTime.basic,
      Date.literal_eq_zeros_append_basic, List.append_assoc]

/-- The date of a value is written first, and no digit follows it. -/
theorem toList_ics (value : Temporal) :
    ∃ tail : List Char, value.ics.toList = value.day.basic ++ tail ∧
      ∀ c ∈ tail.head?, Text.digitValue? c = none := by
  have hseparator (rest : List Char) (c : Char) (h : c ∈ ('T' :: rest).head?) :
      Text.digitValue? c = none := by
    obtain rfl : 'T' = c := Option.some.inj h
    rfl
  cases value with
  | date d => exact ⟨[], by simp [ics, day], by simp⟩
  | utc wall fold =>
    exact ⟨'T' :: (wall.time.basic ++ ['Z']), by simp [ics, day, LocalTime.basic], hseparator _⟩
  | zoned time tzid =>
    exact ⟨'T' :: time.wall.time.basic, by simp [ics, day, LocalTime.basic], hseparator _⟩

/-- A value of a year before 1000 is written in no form of a literal. -/
theorem read?_ics_eq_none {value : Temporal} (hyear : value.day.year < 1000) :
    Literal.read? value.ics.toList = none := by
  obtain ⟨tail, htext, htail⟩ := value.toList_ics
  rw [htext, Literal.read?, Date.read?_basic_append_eq_none hyear htail]

variable {registry : ZoneRegistry} {leniency : Leniency} {tzid : Option String} {text : String}
  {value : Temporal}

/-- A text that is no literal is refused, by its form alone. -/
theorem parse_of_no_form (hform : Literal.read? text.toList = none) :
    parse registry leniency tzid text = Action.fail (.format
      (match tzid with
        | none => .notTemporal text
        | some identifier => .notLocal identifier text)) := by
  cases tzid <;> simp only [parse, hform]

/-- A text denotes only a value that has the text for its literal. -/
theorem literal_of_denotes {chars : List Char}
    (h : Denotes registry leniency tzid chars value) : chars = value.literal := by
  cases h <;> rfl

/-- A value that is read is written as the text it was read from, without the leading zeros of the
year; so the two are the same exactly if the year is at least 1000. -/
theorem ics_of_parse (h : (parse registry leniency tzid text).result = .ok value) :
    (value.ics = text ↔ 1000 ≤ value.day.year) ∧
      text.toList = value.day.yearZeros ++ value.ics.toList := by
  have htext : text.toList = value.day.yearZeros ++ value.ics.toList := by
    rw [literal_of_denotes (parse_eq_ok_iff.mp h), literal_eq_zeros_append_ics]
  refine ⟨?_, htext⟩
  -- The two are the same exactly if no zeros are lost.
  rw [← Date.yearZeros_eq_nil_iff, ← String.toList_inj, htext]
  exact ⟨fun hsame => List.append_left_eq_self.mp hsame.symm, fun hnone => by rw [hnone]; rfl⟩

/-- A second before the first of March of a leap year is written as it was read. -/
theorem ics_of_parse_leapDay :
    ∃ value, (parse .standard .strict (some "America/New_York") "20240229T235959").result =
        .ok value ∧ value.day.year = 2024 ∧ value.ics = "20240229T235959" := by
  have hread : (parse .standard .strict (some "America/New_York") "20240229T235959").result =
      .ok (.zoned ⟨⟨⟨2024, 2, 29, by decide, by decide, by decide⟩, ⟨23, 59, 59, 0, by decide,
        by decide, by decide, by decide⟩⟩, false, .named "America/New_York"⟩
        "America/New_York") := by decide +kernel
  exact ⟨_, hread, rfl, (ics_of_parse hread).1.mpr (by decide)⟩

/-- A date of the year 99 is not written as it was read. -/
theorem ics_ne_of_parse_year99 :
    ∃ value, (parse .standard .strict none "00990615").result = .ok value ∧
      value.ics = "990615" ∧ value.ics ≠ "00990615" := by
  have hread : (parse .standard .strict none "00990615").result =
      .ok (.date ⟨99, 6, 15, by decide, by decide, by decide⟩) := by decide +kernel
  exact ⟨_, hread, by decide, by decide⟩

/-! ## What is read back -/

/-- What is left of a value once it is written and read back: a date as it is, and a time at the
start of its second, the first occurrence of it, in the zone that the registry finds. -/
inductive Restores (registry : ZoneRegistry) (leniency : Leniency) : Temporal → Temporal → Prop
  | date (date : Date) : Restores registry leniency (.date date) (.date date)
  | utc (wall : LocalTime) (fold : Bool) :
      Restores registry leniency (.utc wall fold) (.utc wall.wholeSecond false)
  | zoned (time : ZonedTime) (tzid : String) (zone : Zone)
      (hzone : (registry.resolve leniency tzid).result = .ok zone) :
      Restores registry leniency (.zoned time tzid)
        (.zoned ⟨time.wall.wholeSecond, false, zone⟩ tzid)

/-- The literal of a value denotes what is left of the value. -/
theorem Restores.denotes {restored : Temporal} (h : Restores registry leniency value restored) :
    Denotes registry leniency value.tzid? value.literal restored := by
  cases h with
  | date d => exact .date d
  | utc wall fold => exact .utc wall.wholeSecond rfl
  | zoned time tzid zone hzone => exact .zoned (some tzid) time.wall.wholeSecond rfl zone hzone

/-- Something is left of every value whose identifier, if it has one, has a zone. -/
theorem exists_restores
    (hresolved : ∀ tzid ∈ value.tzid?, ∃ zone, (registry.resolve leniency tzid).result = .ok zone) :
    ∃ restored, Restores registry leniency value restored := by
  cases value with
  | date d => exact ⟨_, .date d⟩
  | utc wall fold => exact ⟨_, .utc wall fold⟩
  | zoned time tzid =>
    obtain ⟨zone, hzone⟩ := hresolved tzid rfl
    exact ⟨_, .zoned time tzid zone hzone⟩

/-- A value of a year from 1000 on is read back from what is written of it, up to the fraction of a
second, the fold and the zone; what is written of an earlier one is refused as no literal. -/
theorem parse_ics
    (hresolved : ∀ tzid ∈ value.tzid?, ∃ zone, (registry.resolve leniency tzid).result = .ok zone) :
    (1000 ≤ value.day.year → ∃ restored, Restores registry leniency value restored ∧
        (parse registry leniency value.tzid? value.ics).result = .ok restored) ∧
      (value.day.year < 1000 →
        ∃ fault,
          (parse registry leniency value.tzid? value.ics).result = .error (.format fault)) := by
  constructor
  · intro hyear
    obtain ⟨restored, hrestores⟩ := exists_restores hresolved
    refine ⟨restored, hrestores, parse_eq_ok_iff.mpr ?_⟩
    have hliteral : value.ics.toList = value.literal := by
      rw [literal_eq_zeros_append_ics, value.day.yearZeros_eq_nil_iff.mpr hyear, List.nil_append]
    rw [hliteral]
    exact hrestores.denotes
  · intro hyear
    rw [parse_of_no_form (read?_ics_eq_none hyear)]
    exact ⟨_, rfl⟩

/-- Half a second past half past one in New York, on the day when the clocks there are set back and
show it for the second time. -/
def secondHalfPastOne : Temporal :=
  .zoned ⟨⟨(Date.of? 2023 11 5).toOption.get (by decide),
    { TimeOfDay.midnight.atSecond (3600 + 60 * 30) with
      microsecond := 500000, microsecond_lt := by decide }⟩, true, .named "America/New_York"⟩
    "America/New_York"

/-- The second occurrence of half past one is read back as the first one, at the whole second. -/
theorem parse_ics_secondHalfPastOne :
    secondHalfPastOne.ics = "20231105T013000" ∧
      ∃ restored, Restores .standard .strict secondHalfPastOne restored ∧
        (parse .standard .strict (some "America/New_York") secondHalfPastOne.ics).result =
          .ok restored := by
  have hzone : (ZoneRegistry.standard.resolve .strict "America/New_York").result =
      .ok (.named "America/New_York") :=
    ZoneRegistry.resolveInDatabase_of_isName rfl (by decide +kernel)
  have hresolved : ∀ tzid ∈ secondHalfPastOne.tzid?,
      ∃ zone, (ZoneRegistry.standard.resolve .strict tzid).result = .ok zone := by
    intro tzid htzid
    obtain rfl : "America/New_York" = tzid := Option.some.inj htzid
    exact ⟨_, hzone⟩
  exact ⟨by decide +kernel, (parse_ics hresolved).1 (by decide)⟩

end Temporal

end ContentLine
