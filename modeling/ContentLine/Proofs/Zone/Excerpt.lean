import ContentLine.Proofs.Zone.Conversion
import ContentLine.Proofs.Zone.Regular

/-!
# Conversions in the zones of the excerpt

The listed shifts of a zone and the season after them convert and read faithfully each on its own.
They do so together if the season resumes what the last listed shift leaves: in the year of that
shift the season has no other shifts close to it. Then around every moment the zone is like a list
of shifts, either those listed or those of a year. All zones of the excerpt are like this, except
for the two names of Nuuk. There the season ends at the moment of the last listed shift, which
itself moves no clock, so that an hour is read as if it were shown twice.

## Main definitions

* `Season.yearly`: the shifts of one year as rules.
* `Season.Resumes`: a season resumes what the last listed shift leaves.
* `Rules.Settled`: rules whose listed shifts and season fit together in this way.

## Main results

* `Rules.faithful_of_settled`: settled rules are faithful.
* `Zone.faithful_named`: the zones of the excerpt are faithful, except for Nuuk.
* `Zone.not_faithful_nuuk`: the rules of Nuuk are not.
-/

namespace ContentLine

namespace Season

/-! ## The shifts of a year -/

/-- The rules of the shifts that a season has in the year of some seconds. -/
def yearly (season : Season) (seconds : Int) : Rules :=
  ⟨season.edge, season.turns (yearOfSecond seconds), none⟩

variable {season : Season}

theorem faithful_yearly (hregular : season.Regular) (seconds : Int) :
    (season.yearly seconds).Faithful :=
  Rules.faithful_of_season_none rfl (pairwise_shiftsFrom_turns hregular _)

theorem wallMark_inside (hregular : season.Regular) (fold : Bool) {year : Nat} (hyear : 1 ≤ year)
    {shift : Shift} (hshift : shift ∈ shiftsFrom season.edge (season.turns year)) :
    startOfYear year + 28 * 86400 ≤ shift.wallMark fold ∧
      shift.wallMark fold + 28 * 86400 ≤ startOfYear (year + 1) := by
  have hinside := (shift_inside hregular hyear hshift).2
  have hlow := shift.wallMark_true_le fold
  have hhigh := shift.wallMark_le_false fold
  omega

/-- The offsets of the shifts of a season are at most a day. -/
theorem range_of_mem_turns (hregular : season.Regular) {year : Nat} {shift : Shift}
    (hshift : shift ∈ shiftsFrom season.edge (season.turns year)) :
    (-86400 ≤ shift.before ∧ shift.before ≤ 86400) ∧
      -86400 ≤ shift.after ∧ shift.after ≤ 86400 := by
  rcases mem_shiftsFrom_turns hshift with rfl | rfl
  · exact ⟨hregular.base_range, hregular.alternate_range⟩
  · exact ⟨hregular.alternate_range, hregular.base_range⟩

theorem repeatsAt_eq_any (season : Season) (utc : Int) :
    season.repeatsAt utc =
      (shiftsFrom season.edge (season.turns (yearOfSecond utc))).any (·.repeatsAt utc) := by
  rw [shiftsFrom_turns, repeatsAt]
  split
  · simp
  · simp [Bool.or_comm]

/-- A shift that repeats what is shown has happened less than two days ago. -/
theorem lt_of_repeatsAt (hregular : season.Regular) {year : Nat} {shift : Shift}
    (hshift : shift ∈ shiftsFrom season.edge (season.turns year)) {utc : Int}
    (hrepeats : shift.repeatsAt utc = true) :
    shift.instant ≤ utc ∧ utc < shift.instant + 2 * 86400 := by
  have hbound := Shift.repeatsAt_iff.mp hrepeats
  have hrange := range_of_mem_turns hregular hshift
  omega

/-- Up to eight days away from a moment, what is repeated is repeated by a shift of the year of that
moment. -/
theorem repeatsAt_eq_of_near (hregular : season.Regular) {x utc : Int}
    (hnear : x - 8 * 86400 ≤ utc ∧ utc ≤ x + 8 * 86400) :
    season.repeatsAt utc =
      (shiftsFrom season.edge (season.turns (yearOfSecond x))).any (·.repeatsAt utc) := by
  rw [repeatsAt_eq_any]
  by_cases hyear : yearOfSecond utc = yearOfSecond x
  · rw [hyear]
  · -- In different years nothing is repeated, since that takes a shift inside of both.
    have hnone {seconds : Int} (hseconds : seconds = x ∨ seconds = utc) :
        (shiftsFrom season.edge (season.turns (yearOfSecond seconds))).any (·.repeatsAt utc) =
          false := by
      refine List.any_eq_false.mpr fun shift hshift hrepeats => hyear ?_
      have hone := one_le_yearOfSecond seconds
      have hinside := (shift_inside hregular hone hshift).1
      have hrecent := lt_of_repeatsAt hregular hshift hrepeats
      rw [yearOfSecond_eq hone (show _ ≤ utc by omega) (by omega),
        yearOfSecond_eq hone (show _ ≤ x by omega) (by omega)]
    rw [hnone (Or.inr rfl), hnone (Or.inl rfl)]

/-- Up to eight days away from a moment, a season converts and reads like the shifts of the year of
that moment. -/
theorem eq_yearly_of_near (hregular : season.Regular) {x y : Int}
    (hnear : x - 8 * 86400 ≤ y ∧ y ≤ x + 8 * 86400) :
    season.offsetAtUtc y = (season.yearly x).offsetAtUtc y ∧
      season.repeatsAt y = (season.yearly x).foldAtUtc y ∧
      ∀ fold, season.offsetAtWall y fold = (season.yearly x).offsetAtWall y fold := by
  have hordered : (season.yearly x).shifts.Pairwise Shift.Precedes :=
    pairwise_shiftsFrom_turns hregular _
  refine ⟨?_, ?_, fun fold => ?_⟩
  · rw [Rules.offsetAtUtc_of_season_none rfl, offsetAtUtc_eq_of_near hregular hnear]
    rfl
  · rw [Rules.foldAtUtc_of_season_none rfl hordered, repeatsAt_eq_of_near hregular hnear]
    rfl
  · rw [Rules.offsetAtWall_of_season_none rfl, offsetAtWall_eq_offsetAfter hregular]
    exact offsetAfter_turns_of_near
      (fun year hyear shift hshift => wallMark_inside hregular fold hyear hshift) hnear

/-! ## Seasons that resume a list -/

/-- A season resumes what the last listed shift leaves. Of the two shifts that it has in that year
each is this very shift or ten days away from it, and the offset that the season has at the shift is
the one after it. -/
@[mk_iff]
structure Resumes (season : Season) (last : Shift) : Prop where
  apart : ∀ shift ∈ shiftsFrom season.edge (season.turns (yearOfSecond last.instant)),
    shift = last ∨ shift.instant + 10 * 86400 ≤ last.instant ∨
      last.instant + 10 * 86400 ≤ shift.instant
  offset_eq : season.offsetAtUtc last.instant = last.after
  before_range : -86400 ≤ last.before ∧ last.before ≤ 86400
  after_range : -86400 ≤ last.after ∧ last.after ≤ 86400

instance (season : Season) (last : Shift) : Decidable (season.Resumes last) :=
  decidable_of_iff' _ (season.resumes_iff last)

variable {last : Shift}

/-- Once the last listed shift is over by some mark, what the marks of its year decide stays the
same for a week. -/
theorem Resumes.offsetAfter_eq (hresumes : season.Resumes last) {mark : Shift → Int}
    (hregular : season.Regular)
    (hmark : ∀ shift ∈ shiftsFrom season.edge (season.turns (yearOfSecond last.instant)),
      shift.instant - 86400 ≤ mark shift ∧ mark shift ≤ shift.instant + 86400)
    {y : Int} (hpast : mark last ≤ y) (hlow : last.instant - 86400 ≤ y)
    (hhigh : y ≤ last.instant + 7 * 86400) :
    offsetAfter season.edge (mark · ≤ y)
      (shiftsFrom season.edge (season.turns (yearOfSecond last.instant))) = last.after := by
  -- The marks have passed the same shifts as the moment of the last listed shift itself.
  rw [← hresumes.offset_eq, offsetAtUtc_eq_offsetAfter hregular]
  refine offsetAfter_congr fun shift hshift => decide_eq_decide.mpr ?_
  have hnear := hmark shift hshift
  rcases hresumes.apart shift hshift with rfl | hbefore | hafter
  · exact iff_of_true hpast (Int.le_refl _)
  · exact iff_of_true (by omega) (by omega)
  · exact iff_of_false (by omega) (by omega)

/-- For a week after the last listed shift a season has the offset that it leaves, and repeats what
it repeats. -/
theorem Resumes.eq_of_lt (hresumes : season.Resumes last) (hregular : season.Regular) {utc : Int}
    (hlow : last.instant < utc) (hhigh : utc ≤ last.instant + 7 * 86400) :
    season.offsetAtUtc utc = last.after ∧
      (season.repeatsAt utc = true → last.repeatsAt utc = true) := by
  have hnear : last.instant - 8 * 86400 ≤ utc ∧ utc ≤ last.instant + 8 * 86400 := by omega
  constructor
  · rw [offsetAtUtc_eq_of_near hregular hnear]
    exact hresumes.offsetAfter_eq hregular (fun shift _ => by omega) (by omega) (by omega) hhigh
  · rw [repeatsAt_eq_of_near hregular hnear, List.any_eq_true]
    rintro ⟨shift, hshift, hrepeats⟩
    have hrecent := lt_of_repeatsAt hregular hshift hrepeats
    obtain rfl : shift = last := by
      rcases hresumes.apart shift hshift with hsame | hbefore | hafter
      · exact hsame
      · omega
      · omega
    exact hrepeats

/-- A mark of the clock is at most a day away from the moment of the shift. -/
theorem wallMark_near {shift : Shift} (hbefore : -86400 ≤ shift.before ∧ shift.before ≤ 86400)
    (hafter : -86400 ≤ shift.after ∧ shift.after ≤ 86400) (fold : Bool) :
    shift.instant - 86400 ≤ shift.wallMark fold ∧
      shift.wallMark fold ≤ shift.instant + 86400 := by
  have htrue := shift.wallMark_true
  have hfalse := shift.wallMark_false
  have hlow := shift.wallMark_true_le fold
  have hhigh := shift.wallMark_le_false fold
  omega

/-- For a week after the last listed shift a season reads with the offset that it leaves. -/
theorem Resumes.offsetAtWall_eq (hresumes : season.Resumes last) (hregular : season.Regular)
    {wall : Int} {fold : Bool} (hlow : last.wallMark fold < wall)
    (hhigh : wall ≤ last.instant + 7 * 86400) : season.offsetAtWall wall fold = last.after := by
  have hlast := wallMark_near hresumes.before_range hresumes.after_range fold
  have hyear := offsetAfter_turns_of_near
    (fun year hyear shift hshift => wallMark_inside hregular fold hyear hshift)
    (show last.instant - 8 * 86400 ≤ wall ∧ wall ≤ last.instant + 8 * 86400 by omega)
  rw [offsetAtWall_eq_offsetAfter hregular, hyear]
  refine hresumes.offsetAfter_eq hregular (fun shift hshift => ?_) (by omega) (by omega) hhigh
  obtain ⟨hbefore, hafter⟩ := range_of_mem_turns hregular hshift
  exact wallMark_near hbefore hafter fold

theorem offsetAtUtc_range (hregular : season.Regular) (utc : Int) :
    -86400 ≤ season.offsetAtUtc utc ∧ season.offsetAtUtc utc ≤ 86400 := by
  have hbase := hregular.base_range
  have halternate := hregular.alternate_range
  rw [offsetAtUtc]
  split <;> omega

end Season

/-! ## From the list to the season -/

/-- The offset after some shifts is in a range that all offsets are in. -/
theorem offsetAfter_range {first : Int} {happened : Shift → Bool} {shifts : List Shift}
    (hfirst : -86400 ≤ first ∧ first ≤ 86400)
    (hshifts : ∀ shift ∈ shifts, -86400 ≤ shift.after ∧ shift.after ≤ 86400) :
    -86400 ≤ offsetAfter first happened shifts ∧ offsetAfter first happened shifts ≤ 86400 := by
  rcases offsetAfter_cases first happened shifts with hnone | ⟨shift, hshift, -, hoffset⟩
  · rw [offsetAfter_of_none hnone]
    exact hfirst
  · rw [hoffset]
    exact hshifts shift hshift

namespace Rules

variable {rules : Rules} {season : Season} {last : Shift}

theorem lastShift?_of_le (hlast : rules.shifts.getLast? = some last) {utc : Int}
    (h : last.instant ≤ utc) : rules.lastShift? utc = some last := by
  obtain ⟨earlier, hshifts⟩ := List.getLast?_eq_some_iff.mp hlast
  rw [lastShift?, hshifts, List.filter_append, List.filter_cons_of_pos (by simpa using h)]
  exact List.getLast?_concat

/-- The rules of the listed shifts alone. -/
def listedOnly (rules : Rules) : Rules :=
  { rules with season := none }

theorem season_listedOnly (rules : Rules) : rules.listedOnly.season = none := rfl

theorem shifts_listedOnly (rules : Rules) : rules.listedOnly.shifts = rules.shifts := rfl

/-- For a week after the last listed shift the offset is the one that it leaves, as if there were no
season. -/
theorem offsetAtUtc_eq_listedOnly (hseason : rules.season = some season)
    (hregular : season.Regular) (hlast : rules.shifts.getLast? = some last)
    (hresumes : season.Resumes last) {utc : Int} (hutc : utc ≤ last.instant + 7 * 86400) :
    rules.offsetAtUtc utc = rules.listedOnly.offsetAtUtc utc := by
  rw [offsetAtUtc_of_season_none rules.season_listedOnly, shifts_listedOnly]
  rcases Int.lt_or_le last.instant utc with hpast | hlisted
  · rw [offsetAtUtc_of_lt hseason hlast hpast, (hresumes.eq_of_lt hregular hpast hutc).1,
      offsetAfter_of_getLast? hlast (decide_eq_true (Int.le_of_lt hpast))]
  · rw [offsetAtUtc_of_le hlast hlisted]
    rfl

/-- For a week after the last listed shift only the list repeats what is shown. -/
theorem foldAtUtc_eq_listedOnly (hseason : rules.season = some season)
    (hregular : season.Regular) (hlast : rules.shifts.getLast? = some last)
    (hresumes : season.Resumes last) {utc : Int} (hutc : utc ≤ last.instant + 7 * 86400) :
    rules.foldAtUtc utc = rules.listedOnly.foldAtUtc utc := by
  have hsame : rules.listedOnly.lastShift? utc = rules.lastShift? utc := rfl
  rw [foldAtUtc, foldAtUtc, hsame, seasonAfter?_of_season_none rules.season_listedOnly,
    ← offsetAtUtc_eq_listedOnly hseason hregular hlast hresumes hutc,
    seasonAfter?_of_getLast? hlast]
  rcases Int.lt_or_le last.instant utc with hpast | hlisted
  · obtain ⟨hoffset, hrepeats⟩ := hresumes.eq_of_lt hregular hpast hutc
    rw [if_pos (by simpa using hpast), hseason, offsetAtUtc_of_lt hseason hlast hpast, hoffset,
      lastShift?_of_le hlast (Int.le_of_lt hpast), Option.any_some, Option.any_some,
      Option.any_none, Bool.or_false]
    -- What the season repeats now, the last listed shift repeats too.
    cases hseasonRepeats : season.repeatsAt utc with
    | false => exact Bool.or_false _
    | true => exact (Bool.or_true _).trans (hrepeats hseasonRepeats).symm
  · rw [if_neg (by simpa using hlisted)]

/-- For a week after the last listed shift local times are read as if there were no season. -/
theorem offsetAtWall_eq_listedOnly (hseason : rules.season = some season)
    (hregular : season.Regular) (hlast : rules.shifts.getLast? = some last)
    (hresumes : season.Resumes last) {wall : Int} (hwall : wall ≤ last.instant + 7 * 86400)
    (fold : Bool) : rules.offsetAtWall wall fold = rules.listedOnly.offsetAtWall wall fold := by
  rw [offsetAtWall_of_season_none rules.season_listedOnly, shifts_listedOnly]
  rcases Int.lt_or_le (last.wallMark fold) wall with hpast | hlisted
  · rw [offsetAtWall_of_lt hseason hlast hpast, hresumes.offsetAtWall_eq hregular hpast hwall,
      offsetAfter_of_getLast? hlast (decide_eq_true (Int.le_of_lt hpast))]
  · rw [offsetAtWall_of_le hlast hlisted]
    rfl

/-- From six days after the last listed shift on, or if there is none, rules convert and read like
the shifts of their season in the year. -/
theorem likeNear_yearly (hseason : rules.season = some season) (hregular : season.Regular)
    {seconds : Int} (hpast : ∀ last ∈ rules.shifts.getLast?,
      season.Resumes last ∧ last.instant + 6 * 86400 ≤ seconds) :
    rules.LikeNear (season.yearly seconds) seconds := by
  have hafter (isAfter : Shift → Bool)
      (h : ∀ last ∈ rules.shifts.getLast?, isAfter last = true) :
      rules.seasonAfter? isAfter = some season := by
    rw [seasonAfter?, hseason]
    cases hlast : rules.shifts.getLast? with
    | none => rfl
    | some last => exact if_pos (h last hlast)
  have hutc {utc : Int} (hlow : seconds - 86400 ≤ utc) :
      rules.seasonAfter? (·.instant < utc) = some season :=
    hafter _ fun last hlast => decide_eq_true (by have hfar := (hpast last hlast).2; omega)
  have hoffset {utc : Int} (hlow : seconds - 86400 ≤ utc) :
      rules.offsetAtUtc utc = season.offsetAtUtc utc := by
    rw [offsetAtUtc, hutc hlow]
  -- The last listed shift is too long ago to repeat anything.
  have hover {utc : Int} (hlow : seconds - 86400 ≤ utc) :
      (rules.lastShift? utc).any (·.repeatsUnder (rules.offsetAtUtc utc) utc) = false := by
    cases hlast : rules.shifts.getLast? with
    | none =>
      rw [lastShift?, List.getLast?_eq_none_iff.mp hlast]
      rfl
    | some last =>
      obtain ⟨hresumes, hfar⟩ := hpast last hlast
      have hrange := season.offsetAtUtc_range hregular utc
      have hbefore := hresumes.before_range
      rw [lastShift?_of_le hlast (by omega), Option.any_some, hoffset hlow, Shift.repeatsUnder,
        Bool.and_eq_false_iff]
      exact Or.inr (decide_eq_false (by omega))
  refine ⟨fun utc hlow hhigh => ?_, fun utc hlow hhigh => ?_, fun wall fold hlow hhigh => ?_⟩
  · rw [hoffset hlow]
    exact (Season.eq_yearly_of_near hregular (by omega)).1
  · rw [foldAtUtc, hover hlow, hutc hlow]
    exact (Season.eq_yearly_of_near hregular (by omega)).2.1
  · have hwall : rules.seasonAfter? (·.wallMark fold < wall) = some season := by
      refine hafter _ fun last hlast => decide_eq_true ?_
      obtain ⟨hresumes, hfar⟩ := hpast last hlast
      have hnear := Season.wallMark_near hresumes.before_range hresumes.after_range fold
      omega
    rw [offsetAtWall, hwall]
    exact (Season.eq_yearly_of_near hregular (by omega)).2.2 fold

/-- The listed shifts are far enough apart, a season is regular and resumes them, and no offset is
longer than a day. -/
@[mk_iff]
structure Settled (rules : Rules) : Prop where
  chain : rules.shifts.IsChain Shift.Precedes
  season_regular : ∀ season ∈ rules.season, season.Regular
  resumes : ∀ season ∈ rules.season, ∀ last ∈ rules.shifts.getLast?, season.Resumes last
  first_range : -86400 ≤ rules.first ∧ rules.first ≤ 86400
  shifts_range : ∀ shift ∈ rules.shifts, -86400 ≤ shift.after ∧ shift.after ≤ 86400

instance (rules : Rules) : Decidable rules.Settled :=
  decidable_of_iff' _ rules.settled_iff

/-- The season that decides after the list is that of the rules. -/
theorem season_of_seasonAfter? {isAfter : Shift → Bool}
    (h : rules.seasonAfter? isAfter = some season) : rules.season = some season := by
  rw [seasonAfter?] at h
  split at h
  · split at h
    · exact h
    · cases h
  · exact h

theorem Settled.offsetAtUtc_range (h : rules.Settled) (utc : Int) :
    -86400 ≤ rules.offsetAtUtc utc ∧ rules.offsetAtUtc utc ≤ 86400 := by
  rw [offsetAtUtc]
  split
  next season hseason =>
    exact season.offsetAtUtc_range (h.season_regular season (season_of_seasonAfter? hseason)) utc
  next => exact offsetAfter_range h.first_range h.shifts_range

theorem Settled.offsetAtWall_range (h : rules.Settled) (wall : Int) (fold : Bool) :
    -86400 ≤ rules.offsetAtWall wall fold ∧ rules.offsetAtWall wall fold ≤ 86400 := by
  rw [offsetAtWall]
  split
  next season hseason =>
    exact season.offsetAtWall_range (h.season_regular season (season_of_seasonAfter? hseason)) wall
      fold
  next => exact offsetAfter_range h.first_range h.shifts_range

/-- Settled rules are faithful. -/
theorem faithful_of_settled (h : rules.Settled) : rules.Faithful := by
  have hordered := pairwise_precedes_of_isChain h.chain
  cases hseason : rules.season with
  | none => exact faithful_of_season_none hseason hordered
  | some season =>
    have hregular := h.season_regular season hseason
    refine faithful_of_near h.offsetAtUtc_range h.offsetAtWall_range fun seconds => ?_
    -- Up to six days after the last listed shift the list alone decides, and later the season.
    by_cases hnear : ∃ last, rules.shifts.getLast? = some last ∧
        seconds ≤ last.instant + 6 * 86400
    · obtain ⟨last, hlast, hseconds⟩ := hnear
      have hresumes := h.resumes season hseason last hlast
      exact ⟨rules.listedOnly, faithful_of_season_none rules.season_listedOnly hordered,
        fun utc _ hutc =>
          offsetAtUtc_eq_listedOnly hseason hregular hlast hresumes (by omega),
        fun utc _ hutc =>
          foldAtUtc_eq_listedOnly hseason hregular hlast hresumes (by omega),
        fun wall fold _ hwall =>
          offsetAtWall_eq_listedOnly hseason hregular hlast hresumes (by omega) fold⟩
    · refine ⟨season.yearly seconds, Season.faithful_yearly hregular seconds,
        likeNear_yearly hseason hregular fun last hlast =>
          ⟨h.resumes season hseason last hlast, ?_⟩⟩
      have hfar := mt (Exists.intro last) hnear
      have hfar := mt (And.intro hlast) hfar
      omega

theorem settled_constant {offset : Int} (h : -86400 ≤ offset ∧ offset ≤ 86400) :
    (constant offset).Settled :=
  ⟨.nil, by rintro _ ⟨⟩, by rintro _ ⟨⟩, h, by rintro _ ⟨⟩⟩

end Rules

/-! ## Zones of the excerpt -/

namespace Zone

/-- The two names of Nuuk. -/
def nuukNames : List String :=
  ["America/Nuuk", "America/Godthab"]

/-- The rules of the excerpt are settled, except for those of Nuuk. -/
theorem settled_of_mem_ruled :
    ∀ entry ∈ ruled, entry.1 ∉ nuukNames → entry.2.Settled := by
  decide +kernel

/-- Every zone of the excerpt is faithful, except for Nuuk. -/
theorem faithful_named {key : String} (h : key ∉ nuukNames) : (named key).rules.Faithful :=
  Rules.faithful_of_settled
    (rules_named_of_ruled (P := fun key rules => key ∉ nuukNames → rules.Settled) key
      settled_of_mem_ruled (fun _ => Rules.settled_constant (by decide)) h)

theorem faithful_utc : utc.rules.Faithful :=
  Rules.faithful_of_settled (Rules.settled_constant (by decide))

/-- The rules of Nuuk are not faithful. At a quarter past eleven in the evening of the 28th of
October 2023 the first fold is read as if summer time had not ended, but no clock showed that. -/
theorem not_faithful_nuuk : ¬(named "America/Nuuk").rules.Faithful := by
  intro h
  have hwall : InYears 1698534900 := by decide +kernel
  have hoffset : (named "America/Nuuk").rules.offsetAtWall 1698534900 false = -3600 := by
    decide +kernel
  obtain ⟨utc, hutc, hshown, hfold⟩ := h.shown_of_not_skips 1698534900 false hwall
    (by decide +kernel) (by decide +kernel) (by rintro ⟨⟩)
  have hread := h.read_shown utc hutc (hshown ▸ hwall)
  rw [← hshown, ← hfold, hoffset] at hread
  -- The reading denotes a quarter past midnight UTC, when clocks showed an hour less.
  obtain rfl : utc = 1698538500 := by omega
  have hactual : (named "America/Nuuk").rules.offsetAtUtc 1698538500 = -7200 := by decide +kernel
  omega

end Zone

end ContentLine
