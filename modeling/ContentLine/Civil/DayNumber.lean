import ContentLine.Civil.LocalTime

/-!
# Day numbers and dates

Day numbers and dates determine each other, and so do local times and their seconds.

## Main statements

- `daysBeforeYear_succ`: years follow each other without a gap.
- `yearOfDay_eq`: a day number that falls in a year has that year.
- `Date.ofDayNumber?_dayNumber`: the date of the day number of a date is that date.
- `Date.dayNumber_of_ofDayNumber?`: the day number of the date of a day number is that number.
- `LocalTime.atSeconds?_seconds`: the local time at the seconds of a local time is that time.
-/

namespace ContentLine

/-! ## Years -/

/-- The number of days of a year. -/
def yearLength (year : Nat) : Nat :=
  if isLeapYear year then 366 else 365

/-- The days before a year, by whole cycles of 400, 100 and 4 years and single years. -/
theorem daysBeforeYear_cycles (eras centuries quads singles : Nat) (hc : centuries ≤ 3)
    (hq : quads ≤ 24) (hs : singles ≤ 3) :
    daysBeforeYear (400 * eras + 100 * centuries + 4 * quads + singles + 1) =
      146097 * eras + 36524 * centuries + 1461 * quads + 365 * singles := by
  have quarter : (400 * eras + 100 * centuries + 4 * quads + singles) / 4 =
      100 * eras + 25 * centuries + quads := by omega
  have hundredth : (400 * eras + 100 * centuries + 4 * quads + singles) / 100 =
      4 * eras + centuries := by omega
  have fourHundredth : (400 * eras + 100 * centuries + 4 * quads + singles) / 400 = eras := by
    omega
  simp only [daysBeforeYear, Nat.add_sub_cancel, quarter, hundredth, fourHundredth]
  omega

/-- Every year is made up of whole cycles and single years before it. -/
theorem exists_cycles {year : Nat} (h : 1 ≤ year) : ∃ eras centuries quads singles,
    centuries ≤ 3 ∧ quads ≤ 24 ∧ singles ≤ 3 ∧
      year = 400 * eras + 100 * centuries + 4 * quads + singles + 1 :=
  ⟨(year - 1) / 400, (year - 1) % 400 / 100, (year - 1) % 100 / 4, (year - 1) % 4, by omega,
    by omega, by omega, by omega⟩

/-- The days before the year after a given one, by the same cycles. -/
theorem daysBeforeYear_cycles_succ (eras centuries quads singles : Nat) (hc : centuries ≤ 3)
    (hq : quads ≤ 24) (hs : singles ≤ 3) :
    daysBeforeYear (400 * eras + 100 * centuries + 4 * quads + singles + 1 + 1) =
      146097 * eras + 36524 * centuries + 1461 * quads + 365 * singles +
        if singles = 3 ∧ (quads ≠ 24 ∨ centuries = 3) then 366 else 365 := by
  -- The next year carries into the next cycle wherever a cycle is full, as in counting on.
  by_cases single : singles = 3
  · subst single
    by_cases quad : quads = 24
    · subst quad
      by_cases century : centuries = 3
      · subst century
        have := daysBeforeYear_cycles (eras + 1) 0 0 0 (Nat.zero_le 3) (Nat.zero_le 24)
          (Nat.zero_le 3)
        simp only [true_and, ne_eq, not_true_eq_false, or_true, if_true]
        rw [show 400 * eras + 100 * 3 + 4 * 24 + 3 + 1 + 1 =
          400 * (eras + 1) + 100 * 0 + 4 * 0 + 0 + 1 by omega, this]
        omega
      · have := daysBeforeYear_cycles eras (centuries + 1) 0 0 (by omega) (Nat.zero_le 24)
          (Nat.zero_le 3)
        simp only [true_and, ne_eq, not_true_eq_false, century, or_false, if_false]
        rw [show 400 * eras + 100 * centuries + 4 * 24 + 3 + 1 + 1 =
          400 * eras + 100 * (centuries + 1) + 4 * 0 + 0 + 1 by omega, this]
        omega
    · have := daysBeforeYear_cycles eras centuries (quads + 1) 0 hc (by omega) (Nat.zero_le 3)
      simp only [true_and, ne_eq, quad, not_false_eq_true, true_or, if_true]
      rw [show 400 * eras + 100 * centuries + 4 * quads + 3 + 1 + 1 =
        400 * eras + 100 * centuries + 4 * (quads + 1) + 0 + 1 by omega, this]
      omega
  · have := daysBeforeYear_cycles eras centuries quads (singles + 1) hc hq (by omega)
    simp only [single, false_and, if_false]
    rw [show 400 * eras + 100 * centuries + 4 * quads + singles + 1 + 1 =
      400 * eras + 100 * centuries + 4 * quads + (singles + 1) + 1 by omega, this]
    omega

/-- Each year starts where the year before it ends. -/
theorem daysBeforeYear_succ {year : Nat} (h : 1 ≤ year) :
    daysBeforeYear (year + 1) = daysBeforeYear year + yearLength year := by
  obtain ⟨eras, centuries, quads, singles, hc, hq, hs, rfl⟩ := exists_cycles h
  rw [daysBeforeYear_cycles_succ eras centuries quads singles hc hq hs,
    daysBeforeYear_cycles eras centuries quads singles hc hq hs]
  have leap : isLeapYear (400 * eras + 100 * centuries + 4 * quads + singles + 1) = true ↔
      singles = 3 ∧ (quads ≠ 24 ∨ centuries = 3) := by
    simp only [isLeapYear, Bool.and_eq_true, Bool.or_eq_true, beq_iff_eq, bne_iff_ne]
    omega
  simp only [yearLength, leap]

/-- A later year has no fewer days before it. -/
theorem daysBeforeYear_mono {a b : Nat} (ha : 1 ≤ a) (h : a ≤ b) :
    daysBeforeYear a ≤ daysBeforeYear b := by
  induction h with
  | refl => exact Nat.le_refl _
  | step le ih =>
    have := daysBeforeYear_succ (Nat.le_trans ha le)
    exact Nat.le_trans ih (by rw [Nat.succ_eq_add_one]; omega)

/-- The year of a day number, by whole cycles. -/
theorem yearOfDay_cycles (n : Nat) : ∃ eras centuries quads singles rest,
    centuries ≤ 3 ∧ quads ≤ 24 ∧ singles ≤ 3 ∧
      yearOfDay n = 400 * eras + 100 * centuries + 4 * quads + singles + 1 ∧
      n = 146097 * eras + 36524 * centuries + 1461 * quads + 365 * singles + rest ∧
      rest < if singles = 3 ∧ (quads ≠ 24 ∨ centuries = 3) then 366 else 365 := by
  -- The last day of 400 years, and that of a leap year, would begin one more century or year;
  -- `min 3` keeps them in the last.
  refine ⟨n / 146097, min 3 (n % 146097 / 36524),
    (n % 146097 - 36524 * min 3 (n % 146097 / 36524)) / 1461,
    min 3 ((n % 146097 - 36524 * min 3 (n % 146097 / 36524)) % 1461 / 365),
    (n % 146097 - 36524 * min 3 (n % 146097 / 36524)) % 1461 -
      365 * min 3 ((n % 146097 - 36524 * min 3 (n % 146097 / 36524)) % 1461 / 365),
    Nat.min_le_left .., ?_, Nat.min_le_left .., rfl, ?_, ?_⟩
  · omega
  · omega
  · -- The subterms are named so that `omega` meets each division and each minimum once.
    generalize hr : n % 146097 = r
    have hr : r < 146097 := by omega
    generalize hc : min 3 (r / 36524) = c
    generalize hx : (r - 36524 * c) = x
    split <;> omega

/-- A day number lies in its year. -/
theorem yearOfDay_bounds (n : Nat) :
    daysBeforeYear (yearOfDay n) ≤ n ∧ n < daysBeforeYear (yearOfDay n + 1) := by
  obtain ⟨eras, centuries, quads, singles, rest, hc, hq, hs, year, number, hrest⟩ :=
    yearOfDay_cycles n
  rw [year, daysBeforeYear_cycles_succ eras centuries quads singles hc hq hs,
    daysBeforeYear_cycles eras centuries quads singles hc hq hs]
  omega

theorem one_le_yearOfDay (n : Nat) : 1 ≤ yearOfDay n :=
  Nat.le_add_left ..

/-- A day number that lies in a year has that year. -/
theorem yearOfDay_eq {n year : Nat} (le : daysBeforeYear year ≤ n)
    (lt : n < daysBeforeYear (year + 1)) : yearOfDay n = year := by
  obtain ⟨low, high⟩ := yearOfDay_bounds n
  -- In another year the number would lie on both sides of a start of a year.
  rcases Nat.lt_trichotomy (yearOfDay n) year with before | same | after
  · have := daysBeforeYear_mono (Nat.le_add_left 1 _) before
    omega
  · exact same
  · have := daysBeforeYear_mono (Nat.le_add_left 1 _) after
    omega

/-! ## Months -/

/-- The months of a year make up the year. -/
theorem daysBeforeMonth_thirteen (year : Nat) : daysBeforeMonth year 13 = yearLength year := by
  simp only [daysBeforeMonth, monthLength, yearLength]
  split <;> rfl

/-- A later month has no fewer days before it. -/
theorem daysBeforeMonth_mono (year : Nat) {a b : Nat} (h : a ≤ b) :
    daysBeforeMonth year a ≤ daysBeforeMonth year b := by
  induction h with
  | refl => exact Nat.le_refl _
  | step _ ih => exact Nat.le_trans ih (Nat.le_add_right ..)

/-- Stepping through the months finds the month that a day lies in. -/
theorem monthAndDay_eq {year month first days left : Nat} (le : first ≤ month)
    (enough : month ≤ first + left) (lt : days < monthLength year month) :
    monthAndDay year first (daysBeforeMonth year month - daysBeforeMonth year first + days) left =
      (month, days + 1) := by
  -- The induction is on the months left to try, and `first` moves up with it.
  induction left generalizing first with
  | zero =>
    obtain rfl : first = month := by omega
    simp [monthAndDay]
  | succ left ih =>
    unfold monthAndDay
    rcases Nat.eq_or_lt_of_le le with same | before
    · subst same
      simp [lt]
    · have rest := daysBeforeMonth_mono year before
      have := daysBeforeMonth_mono year le
      simp only [daysBeforeMonth] at rest
      rw [if_neg (by omega), ← ih before (by omega)]
      simp only [daysBeforeMonth]
      congr 1
      omega

/-- Stepping through the months loses no day. -/
theorem daysBeforeMonth_monthAndDay (year first days left : Nat) :
    daysBeforeMonth year (monthAndDay year first days left).1 +
      ((monthAndDay year first days left).2 - 1) = daysBeforeMonth year first + days := by
  induction left generalizing first days with
  | zero => simp [monthAndDay]
  | succ left ih =>
    unfold monthAndDay
    split
    · simp
    · rw [ih, daysBeforeMonth]
      omega

/-- Every day of a year lies in a month. -/
theorem exists_month {year days : Nat} (h : days < yearLength year) : ∃ month, 1 ≤ month ∧
    month ≤ 12 ∧ daysBeforeMonth year month ≤ days ∧ days < daysBeforeMonth year (month + 1) := by
  -- The last month whose start is not after the day is found by going through them from the end.
  have upTo (last : Nat) (h : days < daysBeforeMonth year (last + 1)) : ∃ month, 1 ≤ month ∧
      month ≤ last ∧ daysBeforeMonth year month ≤ days ∧
        days < daysBeforeMonth year (month + 1) := by
    induction last with
    | zero => exact absurd h (Nat.not_lt_zero _)
    | succ last ih =>
      by_cases before : days < daysBeforeMonth year (last + 1)
      · obtain ⟨month, low, high, bounds⟩ := ih before
        exact ⟨month, low, Nat.le_succ_of_le high, bounds⟩
      · exact ⟨last + 1, Nat.le_add_left .., Nat.le_refl _, Nat.le_of_not_lt before, h⟩
  exact upTo 12 (daysBeforeMonth_thirteen year ▸ h)

/-! ## Dates -/

namespace Date

/-- A date lies in its year. -/
theorem dayOfYear_lt (date : Date) :
    daysBeforeMonth date.year date.month + (date.day - 1) < yearLength date.year := by
  have month := daysBeforeMonth_mono date.year (Nat.succ_le_succ date.month_range.2)
  rw [daysBeforeMonth_thirteen] at month
  have day := date.day_range
  simp only [daysBeforeMonth] at month
  omega

@[simp] theorem yearOfDay_dayNumber (date : Date) : yearOfDay date.dayNumber = date.year := by
  have := date.dayOfYear_lt
  have := daysBeforeYear_succ date.year_range.1
  apply yearOfDay_eq <;> unfold dayNumber <;> omega

/-- The date of the day number of a date is that date. -/
@[simp] theorem ofDayNumber?_dayNumber (date : Date) :
    ofDayNumber? date.dayNumber = some date := by
  have day := date.day_range
  have step := monthAndDay_eq date.month_range.1 (show date.month ≤ 1 + 11 from date.month_range.2)
    (show date.day - 1 < monthLength date.year date.month by omega)
  have within : date.dayNumber - daysBeforeYear date.year =
      daysBeforeMonth date.year date.month - daysBeforeMonth date.year 1 + (date.day - 1) := by
    simp only [dayNumber, show daysBeforeMonth date.year 1 = 0 from rfl]
    omega
  have whole : date.day - 1 + 1 = date.day := by omega
  rw [ofDayNumber?, if_neg (by omega)]
  simp only [Int.toNat_natCast, yearOfDay_dayNumber, within, step, whole, of?_components]
  rfl

/-- The day number of the date of a day number is that number. -/
theorem dayNumber_of_ofDayNumber? {n : Int} {date : Date} (h : ofDayNumber? n = some date) :
    (date.dayNumber : Int) = n := by
  unfold ofDayNumber? at h
  split at h
  · cases h
  · obtain ⟨low, _⟩ := yearOfDay_bounds n.toNat
    have month := daysBeforeMonth_monthAndDay (yearOfDay n.toNat) 1
      (n.toNat - daysBeforeYear (yearOfDay n.toNat)) 11
    dsimp only at h
    cases given : of? (yearOfDay n.toNat)
      (monthAndDay (yearOfDay n.toNat) 1 (n.toNat - daysBeforeYear (yearOfDay n.toNat)) 11).1
      (monthAndDay (yearOfDay n.toNat) 1 (n.toNat - daysBeforeYear (yearOfDay n.toNat)) 11).2 with
    | error fault =>
      rw [given] at h
      cases h
    | ok other =>
      rw [given] at h
      cases h
      obtain ⟨sameYear, sameMonth, sameDay⟩ := of?_eq_ok_iff.1 given
      rw [← sameMonth, ← sameDay, show daysBeforeMonth (yearOfDay n.toNat) 1 = 0 from rfl] at month
      simp only [dayNumber, sameYear]
      omega

/-- Every day number before the year 10000 is that of a date. -/
theorem exists_dayNumber {n : Nat} (h : n < daysBeforeYear 10000) :
    ∃ date : Date, date.dayNumber = n := by
  obtain ⟨first, last⟩ := yearOfDay_bounds n
  have year_le : yearOfDay n ≤ 9999 := by
    rcases Nat.lt_or_ge 9999 (yearOfDay n) with after | within
    · exact absurd (Nat.le_trans (daysBeforeYear_mono (by omega) after) first) (Nat.not_le.2 h)
    · exact within
  have next := daysBeforeYear_succ (one_le_yearOfDay n)
  obtain ⟨month, one_le, le_twelve, start, finish⟩ :=
    exists_month (show n - daysBeforeYear (yearOfDay n) < yearLength (yearOfDay n) by omega)
  simp only [daysBeforeMonth] at finish
  refine ⟨⟨yearOfDay n, month,
    n - daysBeforeYear (yearOfDay n) - daysBeforeMonth (yearOfDay n) month + 1,
    ⟨one_le_yearOfDay n, year_le⟩, ⟨one_le, le_twelve⟩, ⟨by omega, by omega⟩⟩, ?_⟩
  simp only [dayNumber]
  omega

/-- The day number of a date is before the year 10000. -/
theorem dayNumber_lt (date : Date) : date.dayNumber < daysBeforeYear 10000 := by
  have year := daysBeforeYear_mono (Nat.le_add_left 1 _) (Nat.succ_le_succ date.year_range.2)
  have last := date.dayOfYear_lt
  have next := daysBeforeYear_succ date.year_range.1
  refine Nat.lt_of_lt_of_le ?_ year
  simp only [dayNumber]
  omega

/-- The day numbers of dates are those from the start of the year 1 to the end of the year 9999. -/
theorem isSome_ofDayNumber?_iff (n : Int) :
    (ofDayNumber? n).isSome ↔ 0 ≤ n ∧ n < daysBeforeYear 10000 := by
  constructor
  · intro h
    obtain ⟨date, found⟩ := Option.isSome_iff_exists.1 h
    rw [← dayNumber_of_ofDayNumber? found]
    exact ⟨Int.natCast_nonneg _, Int.ofNat_lt.2 date.dayNumber_lt⟩
  · -- A number that is not negative is the natural number of a date.
    rintro ⟨low, high⟩
    obtain ⟨n, rfl⟩ := Int.eq_ofNat_of_zero_le low
    obtain ⟨date, rfl⟩ := exists_dayNumber (Int.ofNat_lt.1 high)
    rw [ofDayNumber?_dayNumber]
    rfl

end Date

/-! ## Local times -/

namespace LocalTime

/-- The local time at the seconds of a local time is that time. -/
@[simp] theorem atSeconds?_seconds (wall : LocalTime) :
    wall.atSeconds? wall.seconds = some wall := by
  have := wall.time.secondOfDay_lt
  have day : wall.seconds / 86400 + epochDay = wall.date.dayNumber := by
    simp only [seconds, startOfDay]
    omega
  have second : (wall.seconds % 86400).toNat = wall.time.secondOfDay := by
    simp only [seconds, startOfDay]
    omega
  rw [atSeconds?, day, second, Date.ofDayNumber?_dayNumber]
  simp

/-- The local time at a number of seconds has that number of seconds, and keeps the fraction. -/
theorem seconds_of_atSeconds? {wall found : LocalTime} {n : Int}
    (h : wall.atSeconds? n = some found) :
    found.seconds = n ∧ found.time.microsecond = wall.time.microsecond := by
  obtain ⟨date, hdate, rfl⟩ := Option.map_eq_some_iff.1 h
  have number := Date.dayNumber_of_ofDayNumber? hdate
  refine ⟨?_, rfl⟩
  simp only [seconds, startOfDay, number]
  rw [TimeOfDay.secondOfDay_atSecond _ (by omega)]
  omega

end LocalTime

end ContentLine
