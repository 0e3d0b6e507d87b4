import ContentLine.Proofs.Temporal.Agreement

/-!
# Clocks that show a moment once

A local time that depends on no fold is what the clock of its zone shows at the moment it denotes,
as long as the clock is past everything that one shift skips or repeats before the next one comes.
Such a clock shows a moment only once.

## Main definitions

* `Shift.Precedes`: two shifts are far enough apart.
* `Rules.Consistent`: a local time that depends on no fold is read with the offset in force at the
  moment it denotes.

## Main results

* `offsetAfter_instant_of_wallMark`: the offset that both folds are read with is the one in force at
  the moment denoted.
* `Zone.showsOnce_of_consistent`: a zone whose rules are consistent shows a moment only once.
* `Rules.consistent_of_season_none`: rules without a season are consistent, if their shifts are far
  enough apart.
-/

namespace ContentLine

/-! ## Shifts one after the other -/

/-- A shift comes before another, and the clock is past all that the one skips or repeats before it
comes to what the other does. -/
def Shift.Precedes (earlier later : Shift) : Prop :=
  earlier.instant ≤ later.instant ∧ earlier.wallMark false ≤ later.wallMark true

instance (earlier later : Shift) : Decidable (earlier.Precedes later) :=
  inferInstanceAs (Decidable (_ ∧ _))

theorem Shift.wallMark_false (shift : Shift) :
    shift.wallMark false = shift.instant + max shift.before shift.after := rfl

theorem Shift.wallMark_true (shift : Shift) :
    shift.wallMark true = shift.instant + min shift.before shift.after := rfl

theorem Shift.wallMark_true_le (shift : Shift) (fold : Bool) :
    shift.wallMark true ≤ shift.wallMark fold := by
  cases fold with
  | false =>
    rw [wallMark_true, wallMark_false]
    omega
  | true => exact Int.le_refl _

theorem Shift.wallMark_le_false (shift : Shift) (fold : Bool) :
    shift.wallMark fold ≤ shift.wallMark false := by
  cases fold with
  | false => exact Int.le_refl _
  | true => exact shift.wallMark_true_le false

theorem Shift.Precedes.trans {a b c : Shift} (hab : a.Precedes b) (hbc : b.Precedes c) :
    a.Precedes c := by
  refine ⟨Int.le_trans hab.1 hbc.1, ?_⟩
  calc a.wallMark false ≤ b.wallMark true := hab.2
    _ ≤ b.wallMark false := b.wallMark_true_le false
    _ ≤ c.wallMark true := hbc.2

theorem offsetAfter_cons (first : Int) (happened : Shift → Bool) (shift : Shift)
    (rest : List Shift) :
    offsetAfter first happened (shift :: rest) =
      offsetAfter (if happened shift then shift.after else first) happened rest := rfl

/-- Before all shifts the offset is the first one. -/
theorem offsetAfter_of_none {first : Int} {happened : Shift → Bool} {shifts : List Shift}
    (h : ∀ shift ∈ shifts, happened shift = false) : offsetAfter first happened shifts = first := by
  induction shifts with
  | nil => rfl
  | cons shift rest ih =>
    rw [offsetAfter_cons, h shift List.mem_cons_self]
    exact ih fun later hlater => h later (List.mem_cons_of_mem shift hlater)

/-- If a local time has one offset for both folds, then that offset is in force at the moment which
the local time denotes. -/
theorem offsetAfter_instant_of_wallMark {first wall offset : Int} {listed : List (Int × Int)}
    (hordered : (shiftsFrom first listed).Pairwise Shift.Precedes)
    (hfolds : ∀ fold,
      offsetAfter first (·.wallMark fold ≤ wall) (shiftsFrom first listed) = offset) :
    offsetAfter first (·.instant ≤ wall - offset) (shiftsFrom first listed) = offset := by
  induction listed generalizing first with
  | nil => exact hfolds false
  | cons entry rest ih =>
    rcases entry with ⟨instant, after⟩
    obtain ⟨hnext, hrest⟩ := List.pairwise_cons.mp hordered
    simp only [shiftsFrom, offsetAfter_cons] at hfolds ⊢
    have hfalse := Shift.wallMark_false ⟨instant, first, after⟩
    have htrue := Shift.wallMark_true ⟨instant, first, after⟩
    -- Where the shift has not happened for the first fold, no later shift has happened at all.
    have hlater (hwall : wall < Shift.wallMark ⟨instant, first, after⟩ false) (offset : Int)
        (fold : Bool) :
        offsetAfter offset (·.wallMark fold ≤ wall) (shiftsFrom after rest) = offset := by
      refine offsetAfter_of_none fun later hmem => decide_eq_false ?_
      have hmark := (hnext later hmem).2
      have hbound := later.wallMark_true_le fold
      omega
    have hlaterUtc {utc : Int} (hutc : utc < instant) (offset : Int) :
        offsetAfter offset (·.instant ≤ utc) (shiftsFrom after rest) = offset := by
      refine offsetAfter_of_none fun later hmem => decide_eq_false ?_
      have hinstant : instant ≤ later.instant := (hnext later hmem).1
      omega
    dsimp only at hfalse htrue
    rcases Int.lt_or_le wall (Shift.wallMark ⟨instant, first, after⟩ false) with hbefore | hpast
    · have hfirst := hfolds false
      have hsecond := hfolds true
      rw [hlater hbefore, if_neg (by simpa using hbefore)] at hfirst
      rw [hlater hbefore] at hsecond
      subst hfirst
      -- Between its two marks the shift has happened for one fold only, but both agree.
      have hunmoved : wall < Shift.wallMark ⟨instant, first, after⟩ true := by
        refine Int.not_le.mp fun hmoved => ?_
        rw [if_pos (by simpa using hmoved)] at hsecond
        omega
      have hutc : wall - first < instant := by omega
      rw [hlaterUtc hutc, if_neg (by simpa using hutc)]
    · have hfolds' (fold : Bool) :
          offsetAfter after (·.wallMark fold ≤ wall) (shiftsFrom after rest) = offset := by
        have hmark : Shift.wallMark ⟨instant, first, after⟩ fold ≤ wall := by
          cases fold <;> omega
        simpa only [hmark, decide_true, if_true] using hfolds fold
      have hrestOffset := ih hrest hfolds'
      by_cases hutc : instant ≤ wall - offset
      · rw [if_pos (by simpa using hutc)]
        exact hrestOffset
      · rw [hlaterUtc (by omega)] at hrestOffset
        omega

/-! ## Clocks and moments -/

/-- A local time that has one offset for both folds is read with the offset that is in force at the
moment it denotes. -/
def Rules.Consistent (rules : Rules) : Prop :=
  ∀ wall offset : Int, (∀ fold, rules.offsetAtWall wall fold = offset) →
    rules.offsetAtUtc (wall - offset) = offset

/-- A zone whose rules are consistent shows a moment only once. -/
theorem Zone.showsOnce_of_consistent {zone : Zone} (h : zone.rules.Consistent) :
    zone.ShowsOnce := by
  have hoffset (time : ZonedTime) (hzone : time.zone = zone) (hfold : time.dependsOnFold = false) :
      zone.rules.offsetAtUtc time.utcSeconds = time.offset := by
    subst hzone
    exact h time.wall.seconds time.offset (ZonedTime.offset_withFold hfold)
  rintro a b ha hb hfoldA hfoldB ⟨hmoment, hfraction⟩
  have hsame : a.offset = b.offset := by
    rw [← hoffset a ha hfoldA, ← hoffset b hb hfoldB, hmoment]
  refine LocalTime.eq_of_seconds_eq ?_ hfraction
  simp only [ZonedTime.utcSeconds] at hmoment
  omega

/-- Rules without a season are consistent, if their shifts are far enough apart. -/
theorem Rules.consistent_of_season_none {rules : Rules} (hseason : rules.season = none)
    (hordered : rules.shifts.Pairwise Shift.Precedes) : rules.Consistent := by
  have hnone (isAfter : Shift → Bool) : rules.seasonAfter? isAfter = none := by
    rw [seasonAfter?, hseason]
    split
    · split <;> rfl
    · rfl
  intro wall offset hfolds
  simp only [offsetAtWall, hnone] at hfolds
  rw [offsetAtUtc, hnone]
  exact offsetAfter_instant_of_wallMark hordered hfolds

end ContentLine
