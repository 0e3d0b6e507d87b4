import ContentLine.Proofs.Zone.Season
import ContentLine.Zone.Excerpt
import Mathlib.Data.List.Chain

/-!
# Rules that a season continues

The listed shifts of a zone and the season after them are consistent each on its own. They stay so
together if the season takes over the offset that the last listed shift leaves, and shifts no clock
in the next two days: by then no fold and no offset reaches back to before the shift. All zones of
the excerpt are like this, and so all of them show a moment only once.

## Main definitions

* `Season.Still`: a season shifts no clock for two days.
* `Season.Continues`: a season takes over from the last listed shift.
* `Rules.Regular`: rules whose listed shifts and season fit together.

## Main results

* `Rules.consistent_of_regular`: regular rules are consistent.
* `Zone.regular_of_mem_ruled`: the rules of the excerpt are regular.
* `Zone.showsOnce_named`: every zone of the excerpt shows a moment only once.
-/

namespace ContentLine

/-! ## Seasons that stay as they are -/

theorem offsetAfter_congr {first : Int} {p q : Shift → Bool} {shifts : List Shift}
    (h : ∀ shift ∈ shifts, p shift = q shift) :
    offsetAfter first p shifts = offsetAfter first q shifts := by
  induction shifts generalizing first with
  | nil => rfl
  | cons shift rest ih =>
    rw [offsetAfter_cons, offsetAfter_cons, h shift List.mem_cons_self]
    exact ih fun later hlater => h later (List.mem_cons_of_mem shift hlater)

/-- After the last shift the offset is the one that it leaves. -/
theorem offsetAfter_of_getLast? {first : Int} {happened : Shift → Bool} {shifts : List Shift}
    {last : Shift} (hlast : shifts.getLast? = some last) (h : happened last = true) :
    offsetAfter first happened shifts = last.after := by
  obtain ⟨earlier, rfl⟩ := List.getLast?_eq_some_iff.mp hlast
  rw [offsetAfter, List.foldl_append, List.foldl_cons, h]
  rfl

namespace Season

/-- For two days from `since` on, all in one year, a season passes no mark. -/
def Still (season : Season) (mark : Shift → Int) (since : Int) : Prop :=
  startOfYear (yearOfSecond since) ≤ since ∧
    since + 2 * 86400 < startOfYear (yearOfSecond since + 1) ∧
    ∀ shift ∈ shiftsFrom season.edge (season.turns (yearOfSecond since)),
      mark shift ≤ since ∨ since + 2 * 86400 < mark shift

instance (season : Season) (mark : Shift → Int) (since : Int) :
    Decidable (season.Still mark since) :=
  inferInstanceAs (Decidable (_ ∧ _ ∧ _))

variable {season : Season}

/-- What the marks of a year decide stays the same while a season passes none. -/
theorem offsetAfter_of_still {mark : Shift → Int} {since : Int} (hstill : season.Still mark since)
    {x : Int} (hlow : since ≤ x) (hhigh : x ≤ since + 2 * 86400) :
    offsetAfter season.edge (mark · ≤ x) (shiftsFrom season.edge (season.turns (yearOfSecond x))) =
      offsetAfter season.edge (mark · ≤ since)
        (shiftsFrom season.edge (season.turns (yearOfSecond since))) := by
  obtain ⟨hstart, hend, hmarks⟩ := hstill
  have hyear : yearOfSecond x = yearOfSecond since :=
    yearOfSecond_eq (one_le_yearOfSecond since) (by omega) (by omega)
  rw [hyear]
  refine offsetAfter_congr fun shift hshift => ?_
  have hmark := hmarks shift hshift
  exact decide_eq_decide.mpr (by omega)

/-- A season takes over from the last listed shift and shifts no clock in the two days after it. -/
@[mk_iff]
structure Continues (season : Season) (last : Shift) : Prop where
  still_wall : season.Still (·.wallMark true) (last.wallMark true + 1)
  still_utc : season.Still (·.instant) (last.instant + 1)
  offset_wall : season.offsetAtWall (last.wallMark true + 1) true = last.after
  offset_utc : season.offsetAtUtc (last.instant + 1) = last.after
  before_range : -86400 ≤ last.before ∧ last.before ≤ 86400
  after_range : -86400 ≤ last.after ∧ last.after ≤ 86400

instance (season : Season) (last : Shift) : Decidable (season.Continues last) :=
  decidable_of_iff' _ (season.continues_iff last)

variable {last : Shift}

/-- The offset read with the second fold stays that of the last listed shift for two days. -/
theorem Continues.offsetAtWall_eq (hcontinues : season.Continues last) (hregular : season.Regular)
    {wall : Int} (hlow : last.wallMark true < wall)
    (hhigh : wall ≤ last.wallMark true + 2 * 86400) :
    season.offsetAtWall wall true = last.after := by
  rw [← hcontinues.offset_wall, offsetAtWall_eq_offsetAfter hregular,
    offsetAtWall_eq_offsetAfter hregular]
  exact offsetAfter_of_still hcontinues.still_wall (by omega) (by omega)

/-- The offset in force stays that of the last listed shift for two days. -/
theorem Continues.offsetAtUtc_eq (hcontinues : season.Continues last) (hregular : season.Regular)
    {utc : Int} (hlow : last.instant < utc) (hhigh : utc ≤ last.instant + 2 * 86400) :
    season.offsetAtUtc utc = last.after := by
  rw [← hcontinues.offset_utc, offsetAtUtc_eq_offsetAfter hregular,
    offsetAtUtc_eq_offsetAfter hregular]
  exact offsetAfter_of_still hcontinues.still_utc (by omega) (by omega)

end Season

/-! ## From the last listed shift to the season -/

namespace Rules

variable {rules : Rules} {season : Season} {last : Shift}

theorem seasonAfter?_of_getLast? (hlast : rules.shifts.getLast? = some last)
    (isAfter : Shift → Bool) :
    rules.seasonAfter? isAfter = if isAfter last then rules.season else none := by
  rw [seasonAfter?, hlast]

/-- Once the last listed shift is over, the offset at a local time is that of the season. -/
theorem offsetAtWall_of_lt (hseason : rules.season = some season)
    (hlast : rules.shifts.getLast? = some last) {wall : Int} {fold : Bool}
    (h : last.wallMark fold < wall) :
    rules.offsetAtWall wall fold = season.offsetAtWall wall fold := by
  rw [offsetAtWall, seasonAfter?_of_getLast? hlast, if_pos (by simpa using h), hseason]

theorem offsetAtWall_of_le (hlast : rules.shifts.getLast? = some last) {wall : Int} {fold : Bool}
    (h : wall ≤ last.wallMark fold) :
    rules.offsetAtWall wall fold =
      offsetAfter rules.first (·.wallMark fold ≤ wall) rules.shifts := by
  rw [offsetAtWall, seasonAfter?_of_getLast? hlast, if_neg (by simpa using h)]

theorem offsetAtUtc_of_lt (hseason : rules.season = some season)
    (hlast : rules.shifts.getLast? = some last) {utc : Int} (h : last.instant < utc) :
    rules.offsetAtUtc utc = season.offsetAtUtc utc := by
  rw [offsetAtUtc, seasonAfter?_of_getLast? hlast, if_pos (by simpa using h), hseason]

theorem offsetAtUtc_of_le (hlast : rules.shifts.getLast? = some last) {utc : Int}
    (h : utc ≤ last.instant) :
    rules.offsetAtUtc utc = offsetAfter rules.first (·.instant ≤ utc) rules.shifts := by
  rw [offsetAtUtc, seasonAfter?_of_getLast? hlast, if_neg (by simpa using h)]

/-- Where the last listed shift is over for both folds, the season decides the offset at the local
time and at the moment denoted. -/
theorem offsetAtUtc_of_past (hseason : rules.season = some season) (hregular : season.Regular)
    (hlast : rules.shifts.getLast? = some last) (hcontinues : season.Continues last)
    {wall offset : Int} (hfolds : ∀ fold, rules.offsetAtWall wall fold = offset)
    (hpast : last.wallMark false < wall) : rules.offsetAtUtc (wall - offset) = offset := by
  have hpastFold (fold : Bool) : last.wallMark fold < wall :=
    Int.lt_of_le_of_lt (last.wallMark_le_false fold) hpast
  have hseasonFolds (fold : Bool) : season.offsetAtWall wall fold = offset := by
    rw [← offsetAtWall_of_lt hseason hlast (hpastFold fold), hfolds fold]
  -- The moment denoted is after the shift too: at first because the offset is still the one that
  -- the shift leaves, and later because no offset is as long as two days.
  have hutc : last.instant < wall - offset := by
    have hmark := last.wallMark_false
    have htrue := last.wallMark_true
    have hbefore := hcontinues.before_range
    have hafter := hcontinues.after_range
    have hrange := season.offsetAtWall_range hregular wall true
    rw [hseasonFolds true] at hrange
    rcases Int.lt_or_le (last.wallMark true + 2 * 86400) wall with hfar | hnear
    · omega
    · have hsame := hcontinues.offsetAtWall_eq hregular (hpastFold true) hnear
      rw [hseasonFolds true] at hsame
      omega
  rw [offsetAtUtc_of_lt hseason hlast hutc]
  exact season.offsetAtUtc_of_offsetAtWall hregular hseasonFolds

/-- Where the last listed shift is over for the second fold only, the season decides that, and the
offset is the one that the shift leaves. -/
theorem offsetAtUtc_of_between (hordered : rules.shifts.Pairwise Shift.Precedes)
    (hseason : rules.season = some season) (hregular : season.Regular)
    (hlast : rules.shifts.getLast? = some last) (hcontinues : season.Continues last)
    {wall offset : Int} (hfolds : ∀ fold, rules.offsetAtWall wall fold = offset)
    (hpast : last.wallMark true < wall) (hlisted : wall ≤ last.wallMark false) :
    rules.offsetAtUtc (wall - offset) = offset := by
  have hfalse := last.wallMark_false
  have htrue := last.wallMark_true
  have hbefore := hcontinues.before_range
  have hafter := hcontinues.after_range
  have hoffset : offset = last.after := by
    rw [← hfolds true, offsetAtWall_of_lt hseason hlast hpast]
    exact hcontinues.offsetAtWall_eq hregular hpast (by omega)
  subst hoffset
  rcases Int.lt_or_le last.instant (wall - last.after) with hutc | hutc
  · rw [offsetAtUtc_of_lt hseason hlast hutc]
    exact hcontinues.offsetAtUtc_eq hregular hutc (by omega)
  · -- The moment is listed, and so is the first fold; the second is past the last shift.
    rw [offsetAtUtc_of_le hlast hutc]
    refine offsetAfter_instant_of_wallMark hordered fun fold => ?_
    cases fold with
    | false =>
      rw [← hfolds false, offsetAtWall_of_le hlast hlisted]
      rfl
    | true => exact offsetAfter_of_getLast? hlast (decide_eq_true (by omega))

/-- Where the local time is listed for both folds, the moment denoted is listed as well. -/
theorem offsetAtUtc_of_listed (hordered : rules.shifts.Pairwise Shift.Precedes)
    (hlast : rules.shifts.getLast? = some last) {wall offset : Int}
    (hfolds : ∀ fold, rules.offsetAtWall wall fold = offset)
    (hlisted : wall ≤ last.wallMark true) : rules.offsetAtUtc (wall - offset) = offset := by
  have hlist : offsetAfter rules.first (·.instant ≤ wall - offset) rules.shifts = offset := by
    refine offsetAfter_instant_of_wallMark hordered fun fold => ?_
    have hmark := last.wallMark_true_le fold
    rw [← hfolds fold, offsetAtWall_of_le hlast (by omega)]
    rfl
  have hutc : wall - offset ≤ last.instant := by
    refine Int.not_lt.mp fun hpast => ?_
    have htrue := last.wallMark_true
    rw [offsetAfter_of_getLast? hlast (decide_eq_true (by omega))] at hlist
    omega
  rw [offsetAtUtc_of_le hlast hutc, hlist]

/-- Rules with listed shifts that a season continues are consistent. -/
theorem consistent_of_continues (hordered : rules.shifts.Pairwise Shift.Precedes)
    (hseason : rules.season = some season) (hregular : season.Regular)
    (hlast : rules.shifts.getLast? = some last) (hcontinues : season.Continues last) :
    rules.Consistent := by
  intro wall offset hfolds
  rcases Int.lt_or_le (last.wallMark true) wall with hpast | hlisted
  · rcases Int.lt_or_le (last.wallMark false) wall with hpast' | hlisted
    · exact offsetAtUtc_of_past hseason hregular hlast hcontinues hfolds hpast'
    · exact offsetAtUtc_of_between hordered hseason hregular hlast hcontinues hfolds hpast hlisted
  · exact offsetAtUtc_of_listed hordered hlast hfolds hlisted

/-- What lies far enough apart at every step lies so throughout. -/
theorem pairwise_precedes_of_isChain {shifts : List Shift} (h : shifts.IsChain Shift.Precedes) :
    shifts.Pairwise Shift.Precedes :=
  have : Trans Shift.Precedes Shift.Precedes Shift.Precedes := ⟨Shift.Precedes.trans⟩
  List.isChain_iff_pairwise.mp h

/-- The listed shifts are far enough apart, and a season is regular and continues them. -/
@[mk_iff]
structure Regular (rules : Rules) : Prop where
  chain : rules.shifts.IsChain Shift.Precedes
  season_regular : ∀ season ∈ rules.season, season.Regular
  continues : ∀ season ∈ rules.season, ∀ last ∈ rules.shifts.getLast?, season.Continues last

instance (rules : Rules) : Decidable rules.Regular :=
  decidable_of_iff' _ rules.regular_iff

/-- Regular rules are consistent. -/
theorem consistent_of_regular (h : rules.Regular) : rules.Consistent := by
  have hordered := pairwise_precedes_of_isChain h.chain
  cases hseason : rules.season with
  | none => exact consistent_of_season_none hseason hordered
  | some season =>
    have hregular := h.season_regular season hseason
    cases hlast : rules.shifts.getLast? with
    | some last =>
      exact consistent_of_continues hordered hseason hregular hlast
        (h.continues season hseason last hlast)
    | none =>
      -- Without listed shifts the season decides everything.
      have hempty (isAfter : Shift → Bool) : rules.seasonAfter? isAfter = some season := by
        rw [seasonAfter?, hlast, hseason]
      intro wall offset hfolds
      simp only [offsetAtWall, hempty] at hfolds
      rw [offsetAtUtc, hempty]
      exact season.offsetAtUtc_of_offsetAtWall hregular hfolds

theorem regular_constant (offset : Int) : (constant offset).Regular :=
  ⟨.nil, by rintro _ ⟨⟩, by rintro _ ⟨⟩⟩

end Rules

/-! ## Zones of the excerpt -/

namespace Zone

/-- The rules of the excerpt are regular. -/
theorem regular_of_mem_ruled : ∀ entry ∈ ruled, entry.2.Regular := by
  decide +kernel

theorem showsOnce_utc : utc.ShowsOnce :=
  showsOnce_of_consistent (Rules.consistent_of_regular (Rules.regular_constant 0))

/-- Every zone of the excerpt shows a moment only once. -/
theorem showsOnce_named (key : String) : (named key).ShowsOnce :=
  showsOnce_of_consistent (Rules.consistent_of_regular
    (rules_named_of_ruled (P := fun _ rules => rules.Regular) key regular_of_mem_ruled
      (Rules.regular_constant 0)))

end Zone

end ContentLine
