import ContentLine.Proofs.Temporal.Acceptance
import ContentLine.Proofs.Temporal.RoundTrip
import ContentLine.Zone.Excerpt

/-!
# Why a text gives no value

Reading a text fails for one of two reasons. The text itself is judged first: it must have one of
the forms that the identifier leaves open, and then each number in it must be in range, the date
before the time. Only a local time in range is then looked up in the registry, once, and where the
registry finds no zone its fault is passed on. A day or a time in UTC is never looked up.

## Main definitions

* `Literal.WrittenAs`: the digits and marks that a form is written with.
* `Literal.AdmittedUnder`: a form is left open by an identifier.
* `Literal.components`, `Literal.rangeFault?`: the numbers of a form in order, and the first of them
  that is out of range.

## Main results

* `Literal.read?_eq_some_iff`: a form is read exactly if it is written.
* `LocalTime.ofDigits_eq_error_iff`: numbers that form no local time are faulted for the first of
  them that is out of range.
* `Temporal.parse_faults`: which texts give no value, for which reason, and what is looked up.
-/

namespace ContentLine

/-! ## Numbers in range -/

/-- The first of several components that is not in range. Each is given with its fault and with
whether it is in range. -/
def RangeFault.first? (components : List (RangeFault × Bool)) : Option RangeFault :=
  (components.find? fun component => !component.2).map (·.1)

/-- The numbers of a date in order: the year from 1 to 9999, the month from 1 to 12, and the day up
to the length of the month. -/
def DateDigits.components (digits : DateDigits) : List (RangeFault × Bool) :=
  [(.year digits.year, 1 ≤ digits.year ∧ digits.year ≤ 9999),
    (.month, 1 ≤ digits.month ∧ digits.month ≤ 12),
    (.day, 1 ≤ digits.day ∧ digits.day ≤ monthLength digits.year digits.month)]

/-- The numbers of a time in order: the hour below 24, the minute and the second below 60. -/
def TimeDigits.components (digits : TimeDigits) : List (RangeFault × Bool) :=
  [(.hour, digits.hour < 24), (.minute, digits.minute < 60), (.second, digits.second < 60)]

/-- Numbers that form no date are faulted for the first of them that is out of range. -/
theorem DateDigits.date_eq_error_iff {digits : DateDigits} {fault : RangeFault} :
    digits.date = .error fault ↔ RangeFault.first? digits.components = some fault := by
  rw [DateDigits.date, Date.of?, RangeFault.first?, components]
  by_cases hyear : 1 ≤ digits.year ∧ digits.year ≤ 9999
  · by_cases hmonth : 1 ≤ digits.month ∧ digits.month ≤ 12
    · by_cases hday : 1 ≤ digits.day ∧ digits.day ≤ monthLength digits.year digits.month
      · simp [hyear, hmonth, hday]
      · simp [hyear, hmonth, hday]
    · simp [hyear, hmonth]
  · simp [hyear]

/-- Numbers that form no time are faulted for the first of them that is out of range. -/
theorem TimeDigits.time_eq_error_iff {digits : TimeDigits} {fault : RangeFault} :
    digits.time = .error fault ↔ RangeFault.first? digits.components = some fault := by
  rw [TimeDigits.time, TimeOfDay.of?, RangeFault.first?, components]
  by_cases hhour : digits.hour < 24
  · by_cases hminute : digits.minute < 60
    · by_cases hsecond : digits.second < 60
      · simp [hhour, hminute, hsecond]
      · simp [hhour, hminute, hsecond]
    · simp [hhour, hminute]
  · simp [hhour]

theorem RangeFault.first?_append (earlier later : List (RangeFault × Bool)) :
    first? (earlier ++ later) = (first? earlier).or (first? later) := by
  rw [first?, List.find?_append]
  cases h : earlier.find? fun component => !component.2 <;> simp [first?, h]

/-- Numbers that form no local time are faulted for the first of them that is out of range, the date
before the time. -/
theorem LocalTime.ofDigits_eq_error_iff {day : DateDigits} {time : TimeDigits}
    {fault : RangeFault} :
    LocalTime.ofDigits day time = .error fault ↔
      RangeFault.first? (day.components ++ time.components) = some fault := by
  rw [RangeFault.first?_append, LocalTime.ofDigits]
  cases hday : RangeFault.first? day.components with
  | some found =>
    rw [DateDigits.date_eq_error_iff.mpr hday]
    simp
  | none =>
    cases hdate : day.date with
    | error found => simp [DateDigits.date_eq_error_iff.mp hdate] at hday
    | ok date =>
      rw [Option.none_or, ← TimeDigits.time_eq_error_iff]
      cases time.time <;> simp

/-- Numbers in range form a date. -/
theorem DateDigits.exists_date {digits : DateDigits}
    (h : RangeFault.first? digits.components = none) : ∃ date, digits.date = .ok date := by
  cases hdate : digits.date with
  | ok date => exact ⟨date, rfl⟩
  | error fault => simp [DateDigits.date_eq_error_iff.mp hdate] at h

/-- Numbers in range form a local time. -/
theorem LocalTime.exists_ofDigits {day : DateDigits} {time : TimeDigits}
    (h : RangeFault.first? (day.components ++ time.components) = none) :
    ∃ wall, LocalTime.ofDigits day time = .ok wall := by
  cases hwall : LocalTime.ofDigits day time with
  | ok wall => exact ⟨wall, rfl⟩
  | error fault => simp [LocalTime.ofDigits_eq_error_iff.mp hwall] at h

/-! ## Forms -/

/-- Eight digits: four of the year, two of the month and two of the day. -/
def DateDigits.WrittenAs (digits : DateDigits) (text : List Char) : Prop :=
  Text.ThreeFields 4 2 2 digits.year digits.month digits.day text

/-- Six digits: two each of the hour, the minute and the second. -/
def TimeDigits.WrittenAs (digits : TimeDigits) (text : List Char) : Prop :=
  Text.ThreeFields 2 2 2 digits.hour digits.minute digits.second text

theorem DateDigits.writtenAs_iff {digits : DateDigits} {text : List Char} :
    digits.WrittenAs text ↔ digits.Fits ∧ text = digits.literal :=
  Text.threeFields_iff

theorem TimeDigits.writtenAs_iff {digits : TimeDigits} {text : List Char} :
    digits.WrittenAs text ↔ digits.Fits ∧ text = digits.literal :=
  Text.threeFields_iff

namespace Literal

/-- What a form is written with: the digits of a date; those of a date and a time around a `T`; or
those followed by a `Z`. The numbers may be anything that fits into the digits. -/
inductive WrittenAs : Literal → List Char → Prop
  | date {day : DateDigits} {text : List Char} (hday : day.WrittenAs text) :
      WrittenAs (.date day) text
  | floating {day : DateDigits} {time : TimeDigits} {dayText timeText : List Char}
      (hday : day.WrittenAs dayText) (htime : time.WrittenAs timeText) :
      WrittenAs (.floating day time) (dayText ++ 'T' :: timeText)
  | utc {day : DateDigits} {time : TimeDigits} {dayText timeText : List Char}
      (hday : day.WrittenAs dayText) (htime : time.WrittenAs timeText) :
      WrittenAs (.utc day time) (dayText ++ 'T' :: timeText ++ ['Z'])

/-- An identifier leaves only the form of a local time open, and no identifier leaves all forms
open. -/
def AdmittedUnder (tzid : Option String) : Literal → Prop
  | .floating .. => True
  | .date _ | .utc .. => tzid = none

/-- The form is that of a local time. -/
def IsLocal : Literal → Prop
  | .floating .. => True
  | .date _ | .utc .. => False

/-- The numbers of a form in order, the date before the time. -/
def components : Literal → List (RangeFault × Bool)
  | .date day => day.components
  | .floating day time | .utc day time => day.components ++ time.components

/-- The first number of a form that is out of range. -/
def rangeFault? (literal : Literal) : Option RangeFault :=
  RangeFault.first? literal.components

/-- A form is read exactly if it is written. -/
theorem read?_eq_some_iff {text : List Char} {literal : Literal} :
    read? text = some literal ↔ literal.WrittenAs text := by
  constructor
  · intro h
    cases literal with
    | date day =>
      exact .date (DateDigits.writtenAs_iff.mpr (read?_eq_date_iff.mp h))
    | floating day time =>
      obtain ⟨hday, htime, rfl⟩ := read?_eq_floating_iff.mp h
      exact .floating (DateDigits.writtenAs_iff.mpr ⟨hday, rfl⟩)
        (TimeDigits.writtenAs_iff.mpr ⟨htime, rfl⟩)
    | utc day time =>
      obtain ⟨hday, htime, rfl⟩ := read?_eq_utc_iff.mp h
      exact .utc (DateDigits.writtenAs_iff.mpr ⟨hday, rfl⟩)
        (TimeDigits.writtenAs_iff.mpr ⟨htime, rfl⟩)
  · intro h
    cases h with
    | date hday => exact read?_eq_date_iff.mpr (DateDigits.writtenAs_iff.mp hday)
    | floating hday htime =>
      obtain ⟨hdayFits, rfl⟩ := DateDigits.writtenAs_iff.mp hday
      obtain ⟨htimeFits, rfl⟩ := TimeDigits.writtenAs_iff.mp htime
      exact read?_eq_floating_iff.mpr ⟨hdayFits, htimeFits, rfl⟩
    | utc hday htime =>
      obtain ⟨hdayFits, rfl⟩ := DateDigits.writtenAs_iff.mp hday
      obtain ⟨htimeFits, rfl⟩ := TimeDigits.writtenAs_iff.mp htime
      exact read?_eq_utc_iff.mpr ⟨hdayFits, htimeFits, rfl⟩

end Literal

/-! ## What reading a text does -/

namespace Temporal

variable {registry : ZoneRegistry} {leniency : Leniency} {tzid : Option String} {text : String}

/-- The fault of a text that has no form which the identifier leaves open. -/
def formFault (tzid : Option String) (text : String) : FormatFault :=
  match tzid with
  | some tzid => .notLocal tzid text
  | none => .notTemporal text

/-- The fault of a text whose form has a number out of range. -/
def rangeFault (text : String) (fault : RangeFault) : Literal → FormatFault
  | .date _ => .badDate text fault
  | .floating .. | .utc .. => .badDateTime text fault

theorem detail_formFault (tzid : Option String) (text : String) :
    (formFault tzid text).detail = text := by
  cases tzid <;> rfl

theorem detail_rangeFault (text : String) (fault : RangeFault) (literal : Literal) :
    (rangeFault text fault literal).detail = fault.message := by
  cases literal <;> rfl

/-- A text without an open form is faulted as such. -/
theorem parse_of_not_admitted
    (h : ∀ literal : Literal, literal.WrittenAs text.toList → ¬literal.AdmittedUnder tzid) :
    parse registry leniency tzid text = Action.fail (.format (formFault tzid text)) := by
  cases tzid with
  | some identifier =>
    refine parse_of_not_floating fun day time hform => ?_
    exact h _ (Literal.read?_eq_some_iff.mp hform) trivial
  | none =>
    -- Without an identifier every form is open, so the text has none.
    refine parse_of_no_form ?_
    cases hform : Literal.read? text.toList with
    | none => rfl
    | some literal =>
      refine absurd ?_ (h literal (Literal.read?_eq_some_iff.mp hform))
      cases literal <;> trivial

/-- A text with an open form is faulted for its first number out of range. -/
theorem parse_of_rangeFault {literal : Literal} {fault : RangeFault}
    (hliteral : literal.WrittenAs text.toList) (hopen : literal.AdmittedUnder tzid)
    (hfault : literal.rangeFault? = some fault) :
    parse registry leniency tzid text =
      Action.fail (.format (rangeFault text fault literal)) := by
  have hform := Literal.read?_eq_some_iff.mpr hliteral
  cases literal with
  | date day =>
    obtain rfl : tzid = none := hopen
    rw [parse_of_date hform, DateDigits.date_eq_error_iff.mpr hfault]
    rfl
  | floating day time =>
    rw [parse_of_floating hform, LocalTime.ofDigits_eq_error_iff.mpr hfault]
    rfl
  | utc day time =>
    obtain rfl : tzid = none := hopen
    rw [parse_of_utc hform, LocalTime.ofDigits_eq_error_iff.mpr hfault]
    rfl

/-- A day or a time in UTC whose numbers are in range gives a value, and asks for nothing. -/
theorem parse_of_inRange {literal : Literal} (hliteral : literal.WrittenAs text.toList)
    (hopen : literal.AdmittedUnder tzid) (hrange : literal.rangeFault? = none)
    (hnotLocal : ¬literal.IsLocal) :
    ∃ value, parse registry leniency tzid text = pure value := by
  have hform := Literal.read?_eq_some_iff.mpr hliteral
  cases literal with
  | date day =>
    obtain rfl : tzid = none := hopen
    obtain ⟨date, hdate⟩ := DateDigits.exists_date hrange
    rw [parse_of_date hform, hdate]
    exact ⟨_, rfl⟩
  | floating day time => exact absurd trivial hnotLocal
  | utc day time =>
    obtain rfl : tzid = none := hopen
    obtain ⟨wall, hwall⟩ := LocalTime.exists_ofDigits hrange
    rw [parse_of_utc hform, hwall]
    exact ⟨_, rfl⟩

/-- A local time whose numbers are in range is bound to the zone of the identifier, or of the
default if there is none. -/
theorem parse_of_local {literal : Literal} (hliteral : literal.WrittenAs text.toList)
    (hrange : literal.rangeFault? = none) (hlocal : literal.IsLocal) :
    ∃ wall, parse registry leniency tzid text =
      bindLocal registry leniency (tzid.getD registry.defaultTzid) wall := by
  have hform := Literal.read?_eq_some_iff.mpr hliteral
  cases literal with
  | date | utc => exact hlocal.elim
  | floating day time =>
    obtain ⟨wall, hwall⟩ := LocalTime.exists_ofDigits hrange
    rw [parse_of_floating hform, hwall]
    exact ⟨wall, rfl⟩

/-- Binding a local time asks a recorded registry once, before the registry does anything of its
own, and passes its fault on. -/
theorem bindLocal_recorded (registry : ZoneRegistry) (serial : Nat) (leniency : Leniency)
    (identifier : String) (wall : LocalTime) :
    bindLocal (registry.recorded serial) leniency identifier wall =
      ⟨.lookup serial identifier :: (registry.resolve leniency identifier).events,
        (registry.resolve leniency identifier).result.map fun zone =>
          .zoned ⟨wall, false, zone⟩ identifier⟩ := by
  rw [bindLocal]
  dsimp only [ZoneRegistry.recorded]
  generalize registry.resolve leniency identifier = asked
  rcases asked with ⟨events, result⟩
  cases result <;> simp [Action.emit, Except.map]

/-- A text has no open form, an open form with a number out of range, or one in order, which is or
is not that of a local time. -/
theorem parse_cases (registry : ZoneRegistry) (leniency : Leniency) (tzid : Option String)
    (text : String) :
    (∃ fault, parse registry leniency tzid text = Action.fail (.format fault)) ∨
      (∃ value, parse registry leniency tzid text = pure value) ∨
      ∃ wall, parse registry leniency tzid text =
        bindLocal registry leniency (tzid.getD registry.defaultTzid) wall := by
  by_cases hform : ∃ literal : Literal, literal.WrittenAs text.toList ∧ literal.AdmittedUnder tzid
  · obtain ⟨literal, hliteral, hopen⟩ := hform
    cases hrange : literal.rangeFault? with
    | some fault => exact Or.inl ⟨_, parse_of_rangeFault hliteral hopen hrange⟩
    | none =>
      by_cases hlocal : literal.IsLocal
      · exact Or.inr (Or.inr (parse_of_local hliteral hrange hlocal))
      · exact Or.inr (Or.inl (parse_of_inRange hliteral hopen hrange hlocal))
  · refine Or.inl ⟨_, parse_of_not_admitted fun literal hliteral hopen => ?_⟩
    exact hform ⟨literal, hliteral, hopen⟩

/-- A text that has no form which the identifier leaves open is faulted as a whole, and one that has
such a form with a number out of range for the first such number, in words that belong to that
component alone; nothing is looked up for either. A text in order is looked up exactly if it is a
local time, once, under the identifier, be it empty, or under the default if there is none. There is
no other fault than these and that of the registry, which is passed on. -/
theorem parse_faults (registry : ZoneRegistry) (serial : Nat) (leniency : Leniency)
    (tzid : Option String) (text : String) :
    let parsed := parse (registry.recorded serial) leniency tzid text
    let identifier := tzid.getD registry.defaultTzid
    let asked := registry.resolve leniency identifier
    ((∀ literal : Literal, literal.WrittenAs text.toList → ¬literal.AdmittedUnder tzid) →
        ∃ fault, parsed = ⟨[], .error (.format fault)⟩ ∧ fault.detail = text) ∧
      (∀ literal : Literal, literal.WrittenAs text.toList → literal.AdmittedUnder tzid →
        (∀ component, literal.rangeFault? = some component →
          ∃ fault, parsed = ⟨[], .error (.format fault)⟩ ∧ fault.detail = component.message ∧
            ∀ other : RangeFault, fault.detail = other.message → other = component) ∧
        (literal.rangeFault? = none → ¬literal.IsLocal → ∃ value, parsed = ⟨[], .ok value⟩) ∧
        (literal.rangeFault? = none → literal.IsLocal →
          ∃ wall, parsed = ⟨.lookup serial identifier :: asked.events,
            asked.result.map fun zone => .zoned ⟨wall, false, zone⟩ identifier⟩)) ∧
      ∀ fault, parsed.result = .error fault →
        (∃ found, fault = .format found ∧ parsed.events = []) ∨
          asked.result = .error fault ∧
            parsed.events = .lookup serial identifier :: asked.events := by
  intro parsed identifier asked
  refine ⟨fun hnone => ?_, fun literal hliteral hopen => ⟨fun component hcomponent => ?_,
    parse_of_inRange hliteral hopen, fun hrange hlocal => ?_⟩, fun fault hfault => ?_⟩
  · exact ⟨_, parse_of_not_admitted hnone, detail_formFault tzid text⟩
  · have hdetail := detail_rangeFault text
    refine ⟨_, parse_of_rangeFault hliteral hopen hcomponent, hdetail _ _, fun other hother => ?_⟩
    -- No other component is described in these words.
    exact RangeFault.message_inj.mp (hother.symm.trans (hdetail _ _))
  · have hbound : ∃ wall, parsed =
        bindLocal (registry.recorded serial) leniency identifier wall :=
      parse_of_local hliteral hrange hlocal
    obtain ⟨wall, hwall⟩ := hbound
    exact ⟨wall, hwall.trans (bindLocal_recorded registry serial leniency identifier wall)⟩
  · rcases parse_cases (registry.recorded serial) leniency tzid text with
      ⟨found, hparsed⟩ | ⟨value, hparsed⟩ | ⟨wall, hparsed⟩
    · have hparsed : parsed = ⟨[], .error (.format found)⟩ := hparsed
      rw [hparsed] at hfault ⊢
      exact Or.inl ⟨found, (Except.error.inj hfault).symm, rfl⟩
    · have hparsed : parsed = ⟨[], .ok value⟩ := hparsed
      rw [hparsed] at hfault
      cases hfault
    · -- The registry is asked for the zone, and only its fault is left.
      have hparsed : parsed = ⟨.lookup serial identifier :: asked.events,
          asked.result.map fun zone => .zoned ⟨wall, false, zone⟩ identifier⟩ :=
        hparsed.trans (bindLocal_recorded registry serial leniency identifier wall)
      rw [hparsed] at hfault ⊢
      cases hasked : asked.result with
      | ok zone =>
        rw [hasked] at hfault
        cases hfault
      | error found =>
        rw [hasked] at hfault
        obtain rfl : found = fault := Except.error.inj hfault
        exact Or.inr ⟨rfl, rfl⟩

/-- Under an empty identifier, which has no zone, the 31st of June at 25 o'clock is faulted for its
day and nothing is looked up, and the 30th of June at noon is looked up under that identifier. -/
theorem parse_faults_june :
    (∃ fault, parse (ZoneRegistry.standard.recorded 7) .strict (some "") "20240631T250000" =
        ⟨[], .error (.format fault)⟩ ∧ fault.detail = "day is out of range for month") ∧
      parse (ZoneRegistry.standard.recorded 7) .strict (some "") "20240630T120000" =
        ⟨[.lookup 7 ""], .error (.zone (.notInDatabase ""))⟩ := by
  constructor
  · have hliteral : (Literal.floating ⟨2024, 6, 31⟩ ⟨25, 0, 0⟩).WrittenAs
        "20240631T250000".toList := Literal.read?_eq_some_iff.mp (by decide +kernel)
    obtain ⟨fault, hparsed, hdetail, -⟩ := ((parse_faults .standard 7 .strict (some "")
      "20240631T250000").2.1 _ hliteral trivial).1 .day (by decide +kernel)
    exact ⟨fault, hparsed, hdetail⟩
  · have hliteral : (Literal.floating ⟨2024, 6, 30⟩ ⟨12, 0, 0⟩).WrittenAs
        "20240630T120000".toList := Literal.read?_eq_some_iff.mp (by decide +kernel)
    obtain ⟨wall, hparsed⟩ := ((parse_faults .standard 7 .strict (some "")
      "20240630T120000").2.1 _ hliteral trivial).2.2 (by decide +kernel) trivial
    have hasked : ZoneRegistry.standard.resolve .strict "" =
        ⟨[], .error (.zone (.notInDatabase ""))⟩ := by
      have hname : ZoneDatabase.isName "" = false := by decide +kernel
      simp [ZoneRegistry.standard, ZoneRegistry.database, ZoneRegistry.resolveInDatabase,
        ZoneRegistry.find, Leniency.strict, Action.lift, hname]
    refine hparsed.trans ?_
    dsimp only [Option.getD_some]
    rw [hasked]
    rfl

end Temporal

end ContentLine
