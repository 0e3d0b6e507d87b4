import ContentLine.Civil.DayNumber
import ContentLine.Proofs.Zone.Clock
import Mathlib.Tactic.IntervalCases
import Mathlib.Tactic.MkIffOfInductiveProp

/-!
# Seasons as shifts of a year

A season says for each year when it begins and ends. If neither happens close to the turn of the
year or to the other, then within a year a season is a list of two shifts, in an order that is the
same in every year, and from one year to the next the clock stays as it is. So a local time that has
one offset for both folds is read with the offset that the season has at the moment denoted.

## Main definitions

* `Season.Regular`: the begin and the end of a season are far from each other and from the turn of
  the year.
* `Season.edge`, `Season.turns`: the offset at the turn of the year, and the two shifts of a year.

## Main results

* `Season.offsetAtWall_eq_offsetAfter`, `Season.offsetAtUtc_eq_offsetAfter`: the offset of a season
  is that after the shifts of the year.
* `Season.offsetAtUtc_of_offsetAtWall`: the offset that both folds are read with is the one in force
  at the moment denoted.
-/

namespace ContentLine

/-! ## Years in seconds -/

/-- The number of seconds from the start of 1970 to the start of a year. -/
def startOfYear (year : Nat) : Int :=
  startOfDay (daysBeforeYear year)

theorem startOfYear_succ {year : Nat} (hyear : 1 ≤ year) :
    startOfYear (year + 1) = startOfYear year + 86400 * yearLength year := by
  have hsucc := daysBeforeYear_succ hyear
  simp only [startOfYear, startOfDay]
  omega

theorem startOfYear_mono {a b : Nat} (ha : 1 ≤ a) (h : a ≤ b) : startOfYear a ≤ startOfYear b := by
  have hmono := daysBeforeYear_mono ha h
  simp only [startOfYear, startOfDay]
  omega

theorem one_le_yearOfSecond (seconds : Int) : 1 ≤ yearOfSecond seconds :=
  one_le_yearOfDay _

/-- A moment lies in its year, unless it lies before the first year. -/
theorem yearOfSecond_bounds (seconds : Int) :
    (yearOfSecond seconds = 1 ∨ startOfYear (yearOfSecond seconds) ≤ seconds) ∧
      seconds < startOfYear (yearOfSecond seconds + 1) := by
  obtain ⟨hlow, hhigh⟩ := yearOfDay_bounds (seconds / 86400 + epochDay).toNat
  rw [yearOfSecond]
  simp only [startOfYear, startOfDay]
  -- Day numbers stop at the first day of the year 1, and all that is earlier counts for that year.
  by_cases hday : 0 ≤ seconds / 86400 + epochDay
  · omega
  · have hzero : (seconds / 86400 + epochDay).toNat = 0 := by omega
    have hfirst : yearOfDay 0 = 1 := by decide
    rw [hzero] at hhigh ⊢
    rw [hfirst] at hhigh ⊢
    omega

theorem yearOfSecond_eq {seconds : Int} {year : Nat} (hyear : 1 ≤ year)
    (hlow : startOfYear year ≤ seconds) (hhigh : seconds < startOfYear (year + 1)) :
    yearOfSecond seconds = year := by
  have hone : daysBeforeYear 1 = 0 := by decide
  have hfirst := daysBeforeYear_mono (Nat.le_refl 1) hyear
  simp only [startOfYear, startOfDay] at hlow hhigh
  exact yearOfDay_eq (by omega) (by omega)

/-! ## Marks of a year -/

/-- A mark is in a month that is neither the first nor the last, and its time is within a day of
that. -/
def YearlyMark.Regular (mark : YearlyMark) : Prop :=
  2 ≤ mark.month ∧ mark.month ≤ 11 ∧ mark.week ≤ 5 ∧ -86400 ≤ mark.time ∧ mark.time ≤ 86400

instance (mark : YearlyMark) : Decidable mark.Regular :=
  inferInstanceAs (Decidable (_ ∧ _))

theorem le_monthLength {year month : Nat} (hone : 1 ≤ month) (htwelve : month ≤ 12) :
    28 ≤ monthLength year month := by
  interval_cases month <;> simp only [monthLength] <;> try omega
  split <;> omega

/-- The day that a mark names is one of its month. -/
theorem YearlyMark.Regular.dayIndex_lt {mark : YearlyMark} (hregular : mark.Regular) (year : Nat) :
    mark.dayIndex year < monthLength year mark.month := by
  obtain ⟨hlow, hhigh, hweek, -, -⟩ := hregular
  have hlength : 28 ≤ monthLength year mark.month := le_monthLength (by omega) (by omega)
  simp only [dayIndex]
  split <;> omega

/-- A mark lies in its month, give or take a day. -/
theorem YearlyMark.Regular.wall_bounds {mark : YearlyMark} (hregular : mark.Regular) (year : Nat) :
    startOfDay (daysBeforeYear year + daysBeforeMonth year mark.month) - 86400 ≤ mark.wall year ∧
      mark.wall year ≤
        startOfDay (daysBeforeYear year + daysBeforeMonth year (mark.month + 1)) := by
  have hday := hregular.dayIndex_lt year
  obtain ⟨-, -, -, hlow, hhigh⟩ := hregular
  simp only [wall, startOfDay, daysBeforeMonth]
  omega

/-- A mark lies a month away from the turn of the year, give or take a day. -/
theorem YearlyMark.Regular.wall_inside {mark : YearlyMark} (hregular : mark.Regular) {year : Nat}
    (hyear : 1 ≤ year) :
    startOfYear year + 30 * 86400 ≤ mark.wall year ∧
      mark.wall year + 30 * 86400 ≤ startOfYear (year + 1) := by
  have hwall := hregular.wall_bounds year
  have hsucc := startOfYear_succ hyear
  have hfirst := daysBeforeMonth_mono year (show 2 ≤ mark.month from hregular.1)
  have hlast := daysBeforeMonth_mono year (show mark.month + 1 ≤ 12 by have := hregular.2.1; omega)
  have htwelve := daysBeforeMonth_thirteen year
  have hdecember : daysBeforeMonth year 13 = daysBeforeMonth year 12 + 31 := rfl
  have hjanuary : daysBeforeMonth year 2 = 31 := by
    rw [daysBeforeMonth, daysBeforeMonth, daysBeforeMonth]
    rfl
  simp only [startOfYear, startOfDay] at *
  omega

/-- Marks that are two months apart are four weeks apart, give or take two days. -/
theorem YearlyMark.Regular.wall_add_le {earlier later : YearlyMark} (hearlier : earlier.Regular)
    (hlater : later.Regular) (hmonths : earlier.month + 2 ≤ later.month) (year : Nat) :
    earlier.wall year + 26 * 86400 ≤ later.wall year := by
  have hboundE := hearlier.wall_bounds year
  have hboundL := hlater.wall_bounds year
  have hlow := hearlier.1
  have hhigh := hlater.2.1
  have hbetween : 28 ≤ monthLength year (earlier.month + 1) :=
    le_monthLength (by omega) (by omega)
  -- The month after that of the earlier mark lies between the two.
  have hmono := daysBeforeMonth_mono year hmonths
  have hnext : daysBeforeMonth year (earlier.month + 2) =
      daysBeforeMonth year (earlier.month + 1) + monthLength year (earlier.month + 1) := rfl
  simp only [startOfDay] at *
  omega

/-! ## Shifts of a year -/

/-- A shift comes at least a day before another, and so does all that it skips or repeats. -/
def Shift.DayBefore (earlier later : Shift) : Prop :=
  earlier.instant + 86400 ≤ later.instant ∧
    earlier.wallMark false + 86400 ≤ later.wallMark true

theorem Shift.DayBefore.precedes {earlier later : Shift} (h : earlier.DayBefore later) :
    earlier.Precedes later := by
  obtain ⟨hinstants, hmarks⟩ := h
  exact ⟨by omega, by omega⟩

theorem Shift.DayBefore.instant_lt {earlier later : Shift} (h : earlier.DayBefore later) :
    earlier.instant < later.instant := by
  have hinstants := h.1
  omega

theorem Shift.DayBefore.wallMark_lt {earlier later : Shift} (h : earlier.DayBefore later)
    (fold : Bool) : earlier.wallMark fold < later.wallMark fold :=
  calc earlier.wallMark fold ≤ earlier.wallMark false := earlier.wallMark_le_false fold
    _ < later.wallMark true := by have hmarks := h.2; omega
    _ ≤ later.wallMark fold := later.wallMark_true_le fold

/-- A shift at a mark and the shift back at one that is two months later are far apart. -/
theorem dayBefore_of_marks {earlier later : YearlyMark} (hearlier : earlier.Regular)
    (hlater : later.Regular) (hmonths : earlier.month + 2 ≤ later.month) {x y : Int}
    (hx : -86400 ≤ x ∧ x ≤ 86400) (hy : -86400 ≤ y ∧ y ≤ 86400) (year : Nat) :
    Shift.DayBefore ⟨earlier.wall year - x, x, y⟩ ⟨later.wall year - y, y, x⟩ := by
  have hapart := hearlier.wall_add_le hlater hmonths year
  rw [Shift.DayBefore, Shift.wallMark_false, Shift.wallMark_true]
  dsimp only
  omega

theorem withinYear_of_lt {start finish : Int} (h : start < finish) (x during outside : Int) :
    (if withinYear start finish x then during else outside) =
      if finish ≤ x then outside else if start ≤ x then during else outside := by
  grind [withinYear]

theorem withinYear_of_gt {start finish : Int} (h : finish < start) (x during outside : Int) :
    (if withinYear start finish x then during else outside) =
      if start ≤ x then during else if finish ≤ x then outside else during := by
  grind [withinYear]

namespace Season

/-- The begin and the end of a season are two months apart, and its offsets are less than a day. -/
@[mk_iff]
structure Regular (season : Season) : Prop where
  starts_regular : season.starts.Regular
  ends_regular : season.ends.Regular
  apart : season.starts.month + 2 ≤ season.ends.month ∨ season.ends.month + 2 ≤ season.starts.month
  base_range : -86400 ≤ season.base ∧ season.base ≤ 86400
  alternate_range : -86400 ≤ season.alternate ∧ season.alternate ≤ 86400

instance (season : Season) : Decidable season.Regular :=
  decidable_of_iff' _ season.regular_iff

/-- The offset at the turn of the year. -/
def edge (season : Season) : Int :=
  if season.starts.month < season.ends.month then season.base else season.alternate

/-- The moments of the two shifts of a year, in order, and the offset from each on. -/
def turns (season : Season) (year : Nat) : List (Int × Int) :=
  if season.starts.month < season.ends.month then
    [((season.start year).instant, season.alternate), ((season.finish year).instant, season.base)]
  else
    [((season.finish year).instant, season.base), ((season.start year).instant, season.alternate)]

theorem shiftsFrom_turns (season : Season) (year : Nat) :
    shiftsFrom season.edge (season.turns year) =
      if season.starts.month < season.ends.month then [season.start year, season.finish year]
      else [season.finish year, season.start year] := by
  rw [edge, turns]
  split <;> rfl

theorem mem_shiftsFrom_turns {season : Season} {year : Nat} {shift : Shift}
    (h : shift ∈ shiftsFrom season.edge (season.turns year)) :
    shift = season.start year ∨ shift = season.finish year := by
  rw [shiftsFrom_turns] at h
  split at h
  · simpa using h
  · simpa [or_comm] using h

variable {season : Season}

/-- What a shift moves lies four weeks away from the turn of the year. -/
theorem shift_inside (hregular : season.Regular) {year : Nat} (hyear : 1 ≤ year) {shift : Shift}
    (hshift : shift ∈ shiftsFrom season.edge (season.turns year)) :
    (startOfYear year + 28 * 86400 ≤ shift.instant ∧
        shift.instant + 28 * 86400 ≤ startOfYear (year + 1)) ∧
      startOfYear year + 28 * 86400 ≤ shift.wallMark true ∧
        shift.wallMark false + 28 * 86400 ≤ startOfYear (year + 1) := by
  -- On the clock both marks are 30 days inside the year, and no offset is longer than a day.
  have hstarts := hregular.starts_regular.wall_inside hyear
  have hends := hregular.ends_regular.wall_inside hyear
  have hbase := hregular.base_range
  have halternate := hregular.alternate_range
  rw [Shift.wallMark_true, Shift.wallMark_false]
  rcases mem_shiftsFrom_turns hshift with rfl | rfl
  · simp only [start]
    omega
  · simp only [finish]
    omega

/-- A season that starts in the earlier month is over long after it has started. -/
theorem start_dayBefore_finish (hregular : season.Regular)
    (hmonths : season.starts.month < season.ends.month) (year : Nat) :
    (season.start year).DayBefore (season.finish year) :=
  dayBefore_of_marks hregular.starts_regular hregular.ends_regular
    (by have := hregular.apart; omega) hregular.base_range hregular.alternate_range year

/-- A season that starts in the later month starts long after the one before is over. -/
theorem finish_dayBefore_start (hregular : season.Regular)
    (hmonths : ¬season.starts.month < season.ends.month) (year : Nat) :
    (season.finish year).DayBefore (season.start year) :=
  dayBefore_of_marks hregular.ends_regular hregular.starts_regular
    (by have := hregular.apart; omega) hregular.alternate_range hregular.base_range year

/-- The shifts of a year are in order and far enough apart. -/
theorem pairwise_shiftsFrom_turns (hregular : season.Regular) (year : Nat) :
    (shiftsFrom season.edge (season.turns year)).Pairwise Shift.Precedes := by
  rw [shiftsFrom_turns]
  split
  next hmonths =>
    exact List.pairwise_pair.mpr (start_dayBefore_finish hregular hmonths year).precedes
  next hmonths =>
    exact List.pairwise_pair.mpr (finish_dayBefore_start hregular hmonths year).precedes

/-! ## Offsets of a year -/

theorem offsetAfter_pair (first : Int) (happened : Shift → Bool) (a b : Shift) :
    offsetAfter first happened [a, b] =
      if happened b then b.after else if happened a then a.after else first := rfl

/-- The part of a year that a season takes, by whatever marks its shifts are told apart, is the part
between its two shifts. -/
theorem ite_withinYear_eq_offsetAfter (season : Season) (year : Nat) (mark : Shift → Int)
    (hfirst : season.starts.month < season.ends.month →
      mark (season.start year) < mark (season.finish year))
    (hlast : ¬season.starts.month < season.ends.month →
      mark (season.finish year) < mark (season.start year)) (x : Int) :
    (if withinYear (mark (season.start year)) (mark (season.finish year)) x then season.alternate
      else season.base) =
      offsetAfter season.edge (mark · ≤ x) (shiftsFrom season.edge (season.turns year)) := by
  rw [shiftsFrom_turns, edge]
  by_cases hmonths : season.starts.month < season.ends.month
  · rw [if_pos hmonths, if_pos hmonths, withinYear_of_lt (hfirst hmonths), offsetAfter_pair]
    simp only [decide_eq_true_iff]
    rfl
  · rw [if_neg hmonths, if_neg hmonths, withinYear_of_gt (hlast hmonths), offsetAfter_pair]
    simp only [decide_eq_true_iff]
    rfl

/-- The offset at a local time is that after the shifts of its year. -/
theorem offsetAtWall_eq_offsetAfter (hregular : season.Regular) (wall : Int) (fold : Bool) :
    season.offsetAtWall wall fold =
      offsetAfter season.edge (·.wallMark fold ≤ wall)
        (shiftsFrom season.edge (season.turns (yearOfSecond wall))) := by
  refine ite_withinYear_eq_offsetAfter season _ (·.wallMark fold) ?_ ?_ wall
  · intro hmonths
    exact (start_dayBefore_finish hregular hmonths _).wallMark_lt fold
  · intro hmonths
    exact (finish_dayBefore_start hregular hmonths _).wallMark_lt fold

/-- The offset at a moment is that after the shifts of its year. -/
theorem offsetAtUtc_eq_offsetAfter (hregular : season.Regular) (utc : Int) :
    season.offsetAtUtc utc =
      offsetAfter season.edge (·.instant ≤ utc)
        (shiftsFrom season.edge (season.turns (yearOfSecond utc))) := by
  refine ite_withinYear_eq_offsetAfter season _ (·.instant) ?_ ?_ utc
  · intro hmonths
    exact (start_dayBefore_finish hregular hmonths _).instant_lt
  · intro hmonths
    exact (finish_dayBefore_start hregular hmonths _).instant_lt

/-- Before the first shift of a year and after the last the offset is that at the turn of the year.
-/
theorem offsetAfter_turns_eq_edge {year : Nat} {happened : Shift → Bool}
    (h : (∀ shift ∈ shiftsFrom season.edge (season.turns year), happened shift = false) ∨
      ∀ shift ∈ shiftsFrom season.edge (season.turns year), happened shift = true) :
    offsetAfter season.edge happened (shiftsFrom season.edge (season.turns year)) =
      season.edge := by
  rcases h with hnone | hall
  · exact offsetAfter_of_none hnone
  · rw [shiftsFrom_turns] at hall ⊢
    split at hall <;> rename_i hmonths
    · rw [if_pos hmonths, offsetAfter_pair, hall _ (by simp), if_pos rfl, edge, if_pos hmonths]
      rfl
    · rw [if_neg hmonths, offsetAfter_pair, hall _ (by simp), if_pos rfl, edge, if_neg hmonths]
      rfl

/-- Within a week of a year, what marks decide is decided by those of the year: at its turns the
shifts of the one year are over and those of the other to come. -/
theorem offsetAfter_turns_of_near {mark : Shift → Int}
    (hmark : ∀ year, 1 ≤ year → ∀ shift ∈ shiftsFrom season.edge (season.turns year),
      startOfYear year + 28 * 86400 ≤ mark shift ∧
        mark shift + 28 * 86400 ≤ startOfYear (year + 1))
    {x y : Int} (hnear : x - 8 * 86400 ≤ y ∧ y ≤ x + 8 * 86400) :
    offsetAfter season.edge (mark · ≤ y) (shiftsFrom season.edge (season.turns (yearOfSecond y))) =
      offsetAfter season.edge (mark · ≤ y)
        (shiftsFrom season.edge (season.turns (yearOfSecond x))) := by
  have hx := yearOfSecond_bounds x
  have hy := yearOfSecond_bounds y
  have hone := one_le_yearOfSecond x
  have hone' := one_le_yearOfSecond y
  generalize yearOfSecond x = year at hx hone ⊢
  generalize yearOfSecond y = other at hy hone' ⊢
  rcases Nat.lt_trichotomy other year with hbefore | rfl | hafter
  · have hturn := startOfYear_mono (by omega) (show other + 1 ≤ year from hbefore)
    rw [offsetAfter_turns_eq_edge (Or.inr ?_), offsetAfter_turns_eq_edge (Or.inl ?_)]
    · intro shift hshift
      have hinside := hmark year hone shift hshift
      exact decide_eq_false (by omega)
    · intro shift hshift
      have hinside := hmark other hone' shift hshift
      exact decide_eq_true (by omega)
  · rfl
  · have hturn := startOfYear_mono (by omega) (show year + 1 ≤ other from hafter)
    rw [offsetAfter_turns_eq_edge (Or.inl ?_), offsetAfter_turns_eq_edge (Or.inr ?_)]
    · intro shift hshift
      have hinside := hmark year hone shift hshift
      exact decide_eq_true (by omega)
    · intro shift hshift
      have hinside := hmark other hone' shift hshift
      exact decide_eq_false (by omega)

/-- Within a week of a year, the offset at a moment is that after the shifts of the year. -/
theorem offsetAtUtc_eq_of_near (hregular : season.Regular) {x utc : Int}
    (hnear : x - 8 * 86400 ≤ utc ∧ utc ≤ x + 8 * 86400) :
    season.offsetAtUtc utc =
      offsetAfter season.edge (·.instant ≤ utc)
        (shiftsFrom season.edge (season.turns (yearOfSecond x))) := by
  rw [offsetAtUtc_eq_offsetAfter hregular]
  exact offsetAfter_turns_of_near
    (fun year hyear shift hshift => (shift_inside hregular hyear hshift).1) hnear

theorem offsetAtWall_range (hregular : season.Regular) (wall : Int) (fold : Bool) :
    -86400 ≤ season.offsetAtWall wall fold ∧ season.offsetAtWall wall fold ≤ 86400 := by
  have hbase := hregular.base_range
  have halternate := hregular.alternate_range
  rw [offsetAtWall]
  split <;> omega

/-- The offset that both folds are read with is the one that the season has at the moment denoted.
-/
theorem offsetAtUtc_of_offsetAtWall (hregular : season.Regular) {wall offset : Int}
    (hfolds : ∀ fold, season.offsetAtWall wall fold = offset) :
    season.offsetAtUtc (wall - offset) = offset := by
  have hrange := offsetAtWall_range hregular wall false
  rw [hfolds false] at hrange
  -- The moment may lie in another year than the local time, but is as if it lay in the same one.
  rw [offsetAtUtc_eq_of_near hregular (show wall - 8 * 86400 ≤ wall - offset ∧ _ from by omega)]
  refine offsetAfter_instant_of_wallMark (pairwise_shiftsFrom_turns hregular _) fun fold => ?_
  rw [← offsetAtWall_eq_offsetAfter hregular, hfolds fold]

end Season

end ContentLine
