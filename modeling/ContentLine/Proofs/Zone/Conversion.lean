import ContentLine.Proofs.Zone.Season

/-!
# Conversions between UTC and local times

A moment of UTC is converted to the local time that a clock shows, with a fold, and a local time
with a fold is read as a moment. The two fit together as long as the clock is past everything that
one shift skips or repeats before the next one comes: what a clock shows is read as the moment it
was shown at, the second fold stands for the second reading of a time that is shown twice, and every
reading of a time that is not skipped is shown.

## Main definitions

* `InYears`: the seconds that local times can show.
* `Rules.Skips`, `Rules.Repeats`: a local time lies in a gap, or is shown twice.
* `Rules.Faithful`: conversions and readings fit together.

## Main results

* `offsetAfter_wallMark_of_instant`, `offsetAfter_instant_of_reading`: they do for a list of shifts
  that are far enough apart.
* `Rules.faithful_of_season_none`: so do rules without a season.
* `Rules.faithful_of_near`: so do rules that are like such a list around every moment.
-/

namespace ContentLine

/-! ## What clocks can show -/

/-- The seconds of the years 1 to 9999, which are those that a local time can show. -/
def InYears (seconds : Int) : Prop :=
  startOfYear 1 ≤ seconds ∧ seconds < startOfYear 10000

instance (seconds : Int) : Decidable (InYears seconds) :=
  inferInstanceAs (Decidable (_ ∧ _))

theorem LocalTime.isSome_atSeconds?_iff (wall : LocalTime) (seconds : Int) :
    (wall.atSeconds? seconds).isSome ↔ InYears seconds := by
  have hfirst : daysBeforeYear 1 = 0 := by decide
  rw [atSeconds?, Option.isSome_map, Date.isSome_ofDayNumber?_iff, InYears, startOfYear,
    startOfYear, startOfDay, startOfDay, hfirst]
  omega

theorem LocalTime.inYears_seconds (wall : LocalTime) : InYears wall.seconds := by
  rw [← wall.isSome_atSeconds?_iff, wall.atSeconds?_seconds]
  rfl

namespace Rules

/-- Clocks skip a local time: before the shift it would be read with the smaller offset. -/
def Skips (rules : Rules) (wall : Int) : Prop :=
  rules.offsetAtWall wall false < rules.offsetAtWall wall true

/-- Clocks show a local time twice: at first it is read with the greater offset. -/
def Repeats (rules : Rules) (wall : Int) : Prop :=
  rules.offsetAtWall wall true < rules.offsetAtWall wall false

instance (rules : Rules) (wall : Int) : Decidable (rules.Skips wall) :=
  inferInstanceAs (Decidable (_ < _))

instance (rules : Rules) (wall : Int) : Decidable (rules.Repeats wall) :=
  inferInstanceAs (Decidable (_ < _))

/-- Within the years that clocks can show, conversions from UTC and readings of local times fit
together. -/
structure Faithful (rules : Rules) : Prop where
  /-- What is shown at a moment is read as that moment. -/
  read_shown : ∀ utc, InYears utc → InYears (utc + rules.offsetAtUtc utc) →
    rules.offsetAtWall (utc + rules.offsetAtUtc utc) (rules.foldAtUtc utc) = rules.offsetAtUtc utc
  /-- What is shown with the second fold is shown twice. -/
  repeats_of_fold : ∀ utc, InYears utc → InYears (utc + rules.offsetAtUtc utc) →
    rules.foldAtUtc utc = true → rules.Repeats (utc + rules.offsetAtUtc utc)
  /-- What is not skipped is shown, with the second fold if it is shown twice. -/
  shown_of_not_skips : ∀ wall fold, InYears wall → InYears (wall - rules.offsetAtWall wall fold) →
    ¬rules.Skips wall → (fold = true → rules.Repeats wall) →
    ∃ utc, InYears utc ∧ wall = utc + rules.offsetAtUtc utc ∧ fold = rules.foldAtUtc utc

end Rules

/-! ## Lists of shifts -/

namespace Shift

theorem repeatsAt_iff {shift : Shift} {utc : Int} :
    shift.repeatsAt utc = true ↔
      shift.instant ≤ utc ∧ utc + shift.after < shift.instant + shift.before := by
  rw [repeatsAt, repeatsUnder, Bool.and_eq_true, decide_eq_true_iff, decide_eq_true_iff]
  omega

end Shift

/-- Either no shift has happened, or the offset is that of one which has. -/
theorem offsetAfter_cases (first : Int) (happened : Shift → Bool) (shifts : List Shift) :
    (∀ shift ∈ shifts, happened shift = false) ∨
      ∃ shift ∈ shifts, happened shift = true ∧
        offsetAfter first happened shifts = shift.after := by
  induction shifts generalizing first with
  | nil => exact Or.inl fun shift hshift => nomatch hshift
  | cons shift rest ih =>
    rw [offsetAfter_cons]
    rcases ih (if happened shift then shift.after else first) with hnone | ⟨found, hfound, hoffset⟩
    · cases hshift : happened shift with
      | false => exact Or.inl (List.forall_mem_cons.mpr ⟨hshift, hnone⟩)
      | true =>
        refine Or.inr ⟨shift, List.mem_cons_self, hshift, ?_⟩
        rw [if_pos rfl, offsetAfter_of_none hnone]
    · exact Or.inr ⟨found, List.mem_cons_of_mem shift hfound, hoffset⟩

section Listed

variable {first : Int} {listed : List (Int × Int)}

/-- Where no shift has moved a local time for the second fold, none has happened at the moment that
the offset before all shifts gives. -/
theorem lt_instant_of_lt_wallMark (hordered : (shiftsFrom first listed).Pairwise Shift.Precedes)
    {wall : Int} (h : ∀ shift ∈ shiftsFrom first listed, wall < shift.wallMark true) :
    ∀ shift ∈ shiftsFrom first listed, wall - first < shift.instant := by
  cases listed with
  | nil => exact fun shift hshift => nomatch hshift
  | cons entry rest =>
    rcases entry with ⟨instant, after⟩
    have hmark := h _ List.mem_cons_self
    rw [Shift.wallMark_true] at hmark
    have hbefore : wall - first < instant := by
      dsimp only at hmark
      omega
    refine List.forall_mem_cons.mpr ⟨hbefore, fun later hlater => ?_⟩
    exact Int.lt_of_lt_of_le hbefore ((List.pairwise_cons.mp hordered).1 later hlater).1

/-- Where no shift has happened, none has moved what is shown then for the first fold. -/
theorem lt_wallMark_of_lt_instant (hordered : (shiftsFrom first listed).Pairwise Shift.Precedes)
    {utc : Int} (h : ∀ shift ∈ shiftsFrom first listed, utc < shift.instant) :
    ∀ shift ∈ shiftsFrom first listed, utc + first < shift.wallMark false := by
  cases listed with
  | nil => exact fun shift hshift => nomatch hshift
  | cons entry rest =>
    rcases entry with ⟨instant, after⟩
    have hinstant : utc < instant := h _ List.mem_cons_self
    have hmark : utc + first < Shift.wallMark ⟨instant, first, after⟩ false := by
      rw [Shift.wallMark_false]
      dsimp only
      omega
    refine List.forall_mem_cons.mpr ⟨hmark, fun later hlater => ?_⟩
    calc utc + first < Shift.wallMark ⟨instant, first, after⟩ false := hmark
      _ ≤ later.wallMark true := ((List.pairwise_cons.mp hordered).1 later hlater).2
      _ ≤ later.wallMark false := later.wallMark_true_le false

/-- A shift no longer repeats what is shown once the next one has happened. -/
theorem repeatsAt_eq_false_of_later {shift : Shift}
    (hnext : ∀ later ∈ shiftsFrom shift.after listed, shift.Precedes later)
    (hordered : (shiftsFrom shift.after listed).Pairwise Shift.Precedes) {utc : Int}
    (h : ∃ later ∈ shiftsFrom shift.after listed, later.instant ≤ utc) :
    shift.repeatsAt utc = false := by
  refine Bool.eq_false_iff.mpr fun hrepeats => ?_
  obtain ⟨later, hlater, hinstant⟩ := h
  have hmark := shift.wallMark_false
  have hbound := (Shift.repeatsAt_iff.mp hrepeats).2
  have hmarks : ∀ found ∈ shiftsFrom shift.after listed,
      utc + shift.after < found.wallMark true := by
    intro found hfound
    have hapart := (hnext found hfound).2
    omega
  have hbefore := lt_instant_of_lt_wallMark hordered hmarks later hlater
  omega

/-- Where no shift has happened the offset is the first one. -/
theorem offsetAfter_instant_of_none {shifts : List Shift} {utc : Int}
    (h : ∀ shift ∈ shifts, utc < shift.instant) :
    offsetAfter first (·.instant ≤ utc) shifts = first :=
  offsetAfter_of_none fun shift hshift => decide_eq_false (Int.not_le.mpr (h shift hshift))

/-- What has not happened repeats nothing. -/
theorem any_repeatsAt_of_none {shifts : List Shift} {utc : Int}
    (h : ∀ shift ∈ shifts, utc < shift.instant) :
    shifts.any (·.repeatsAt utc) = false := by
  refine List.any_eq_false.mpr fun shift hshift hrepeats => ?_
  have hhappened := (Shift.repeatsAt_iff.mp hrepeats).1
  have hbefore := h shift hshift
  omega

theorem filter_instant_of_none {shifts : List Shift} {utc : Int}
    (h : ∀ shift ∈ shifts, utc < shift.instant) : shifts.filter (·.instant ≤ utc) = [] :=
  List.filter_eq_nil_iff.mpr fun shift hshift => by simpa using h shift hshift

end Listed

/-! ### Going through the list

A list that is not empty begins with one shift, and the others follow with the offset after it as
their first one. -/

section Cons

variable {first instant after : Int} {rest : List (Int × Int)}

/-- Before the first shift nothing has happened. -/
theorem lt_instant_of_lt (hnext : ∀ later ∈ shiftsFrom after rest,
      Shift.Precedes ⟨instant, first, after⟩ later) {utc : Int} (hutc : utc < instant) :
    ∀ shift ∈ shiftsFrom first ((instant, after) :: rest), utc < shift.instant :=
  List.forall_mem_cons.mpr
    ⟨hutc, fun later hlater => Int.lt_of_lt_of_le hutc (hnext later hlater).1⟩

/-- Until the first fold has reached a shift, neither fold has reached a later one. -/
theorem offsetAfter_wallMark_of_lt (hnext : ∀ later ∈ shiftsFrom after rest,
      Shift.Precedes ⟨instant, first, after⟩ later) {wall : Int}
    (hwall : wall < Shift.wallMark ⟨instant, first, after⟩ false) (offset : Int) (fold : Bool) :
    offsetAfter offset (·.wallMark fold ≤ wall) (shiftsFrom after rest) = offset := by
  refine offsetAfter_of_none fun later hmem => decide_eq_false ?_
  have hapart := (hnext later hmem).2
  have hmark := later.wallMark_true_le fold
  omega

/-- Only the last shift that has happened can repeat what is shown. -/
theorem any_repeatsAt_eq {listed : List (Int × Int)}
    (hordered : (shiftsFrom first listed).Pairwise Shift.Precedes) (utc : Int) :
    (shiftsFrom first listed).any (·.repeatsAt utc) =
      ((shiftsFrom first listed).filter (·.instant ≤ utc)).getLast?.any
        (·.repeatsUnder (offsetAfter first (·.instant ≤ utc) (shiftsFrom first listed)) utc) := by
  induction listed generalizing first with
  | nil => rfl
  | cons entry rest ih =>
    rcases entry with ⟨instant, after⟩
    obtain ⟨hnext, hrest⟩ := List.pairwise_cons.mp hordered
    rcases Int.lt_or_le utc instant with hutc | hutc
    · have hnone := lt_instant_of_lt hnext hutc
      rw [any_repeatsAt_of_none hnone, filter_instant_of_none hnone]
      rfl
    · rw [shiftsFrom, List.any_cons, List.filter_cons_of_pos (by simpa using hutc),
        offsetAfter_cons, if_pos (decide_eq_true hutc)]
      by_cases hlater : ∃ later ∈ shiftsFrom after rest, later.instant ≤ utc
      · have hover : Shift.repeatsAt ⟨instant, first, after⟩ utc = false :=
          repeatsAt_eq_false_of_later hnext hrest hlater
        have hfilter : (shiftsFrom after rest).filter (·.instant ≤ utc) ≠ [] := by
          obtain ⟨later, hmem, hinstant⟩ := hlater
          exact List.ne_nil_of_mem (List.mem_filter.mpr ⟨hmem, decide_eq_true hinstant⟩)
        obtain ⟨found, more, hfound⟩ := List.exists_cons_of_ne_nil hfilter
        rw [hover, ih hrest, hfound, List.getLast?_cons_cons]
        rfl
      · have hnone : ∀ later ∈ shiftsFrom after rest, utc < later.instant := by
          simpa using hlater
        rw [any_repeatsAt_of_none hnone, filter_instant_of_none hnone,
          offsetAfter_instant_of_none hnone]
        exact Bool.or_false _

/-- What is shown after a shift and before the next one is read as that moment. -/
theorem offsetAfter_wallMark_of_latest
    (hordered : (shiftsFrom first ((instant, after) :: rest)).Pairwise Shift.Precedes) {utc : Int}
    {fold : Bool} (hutc : instant ≤ utc)
    (hnone : ∀ later ∈ shiftsFrom after rest, utc < later.instant)
    (hfold : Shift.repeatsAt ⟨instant, first, after⟩ utc = fold) :
    offsetAfter first (·.wallMark fold ≤ utc + after)
        (shiftsFrom first ((instant, after) :: rest)) = after ∧
      (fold = true →
        after < offsetAfter first (·.wallMark false ≤ utc + after)
          (shiftsFrom first ((instant, after) :: rest))) := by
  obtain ⟨hnext, hrest⟩ := List.pairwise_cons.mp hordered
  have hfalse : Shift.wallMark ⟨instant, first, after⟩ false = instant + max first after := rfl
  have htrue : Shift.wallMark ⟨instant, first, after⟩ true = instant + min first after := rfl
  rw [shiftsFrom, offsetAfter_cons, offsetAfter_cons]
  cases fold with
  | false =>
    have hpast : Shift.wallMark ⟨instant, first, after⟩ false ≤ utc + after := by
      have hrepeats := mt Shift.repeatsAt_iff.mpr (Bool.eq_false_iff.mp hfold)
      dsimp only at hrepeats
      omega
    rw [if_pos (decide_eq_true hpast)]
    refine ⟨offsetAfter_of_none fun later hlater => decide_eq_false ?_, by rintro ⟨⟩⟩
    have hmark := lt_wallMark_of_lt_instant hrest hnone later hlater
    omega
  | true =>
    have hbound : utc + after < instant + first := (Shift.repeatsAt_iff.mp hfold).2
    have hpast : Shift.wallMark ⟨instant, first, after⟩ true ≤ utc + after := by omega
    have hahead : utc + after < Shift.wallMark ⟨instant, first, after⟩ false := by omega
    rw [offsetAfter_wallMark_of_lt hnext hahead, offsetAfter_wallMark_of_lt hnext hahead,
      if_pos (decide_eq_true hpast), if_neg (by simpa using hahead)]
    exact ⟨rfl, fun _ => by omega⟩

/-- What the shifts show at a moment is read as that moment, and a second fold only stands for the
second reading. -/
theorem offsetAfter_wallMark_of_instant {listed : List (Int × Int)}
    (hordered : (shiftsFrom first listed).Pairwise Shift.Precedes) {utc offset : Int} {fold : Bool}
    (hoffset : offsetAfter first (·.instant ≤ utc) (shiftsFrom first listed) = offset)
    (hfold : (shiftsFrom first listed).any (·.repeatsAt utc) = fold) :
    offsetAfter first (·.wallMark fold ≤ utc + offset) (shiftsFrom first listed) = offset ∧
      (fold = true →
        offset < offsetAfter first (·.wallMark false ≤ utc + offset)
          (shiftsFrom first listed)) := by
  induction listed generalizing first with
  | nil => exact ⟨hoffset, by rintro rfl; cases hfold⟩
  | cons entry rest ih =>
    rcases entry with ⟨instant, after⟩
    obtain ⟨hnext, hrest⟩ := List.pairwise_cons.mp hordered
    rcases Int.lt_or_le utc instant with hutc | hutc
    · -- Nothing has happened, so the first fold is read with the first offset.
      have hnone := lt_instant_of_lt hnext hutc
      rw [any_repeatsAt_of_none hnone] at hfold
      rw [offsetAfter_instant_of_none hnone] at hoffset
      subst hfold hoffset
      refine ⟨offsetAfter_of_none fun shift hshift => decide_eq_false ?_, by rintro ⟨⟩⟩
      have hmark := lt_wallMark_of_lt_instant hordered hnone shift hshift
      omega
    · rw [shiftsFrom, offsetAfter_cons, if_pos (decide_eq_true hutc)] at hoffset
      rw [shiftsFrom, List.any_cons] at hfold
      by_cases hlater : ∃ later ∈ shiftsFrom after rest, later.instant ≤ utc
      · -- Another shift has happened since, and this one is over for both folds.
        have hover : Shift.repeatsAt ⟨instant, first, after⟩ utc = false :=
          repeatsAt_eq_false_of_later hnext hrest hlater
        rw [hover, Bool.false_or] at hfold
        have hpast (fold : Bool) :
            Shift.wallMark ⟨instant, first, after⟩ fold ≤ utc + offset := by
          obtain ⟨later, hmem, hinstant, hafter⟩ := (offsetAfter_cases after (·.instant ≤ utc)
            (shiftsFrom after rest)).resolve_left (by simpa using hlater)
          have hmark := later.wallMark_true
          have hapart := (hnext later hmem).2
          have hbound := Shift.wallMark_le_false ⟨instant, first, after⟩ fold
          have hreached : later.after = offset := hafter.symm.trans hoffset
          rw [decide_eq_true_iff] at hinstant
          omega
        rw [shiftsFrom, offsetAfter_cons, offsetAfter_cons, if_pos (decide_eq_true (hpast fold)),
          if_pos (decide_eq_true (hpast false))]
        exact ih hrest hoffset hfold
      · have hnone : ∀ later ∈ shiftsFrom after rest, utc < later.instant := by
          simpa using hlater
        rw [any_repeatsAt_of_none hnone, Bool.or_false] at hfold
        rw [offsetAfter_instant_of_none hnone] at hoffset
        subst hoffset
        exact offsetAfter_wallMark_of_latest hordered hutc hnone hfold

/-- A reading of a local time that the first fold has not yet been moved from is what is shown at
the moment it gives. -/
theorem offsetAfter_instant_of_ahead
    (hordered : (shiftsFrom first ((instant, after) :: rest)).Pairwise Shift.Precedes) {wall : Int}
    {fold : Bool} (hahead : wall < Shift.wallMark ⟨instant, first, after⟩ false)
    {reading : Bool → Int} (hreading : ∀ fold, offsetAfter first (·.wallMark fold ≤ wall)
      (shiftsFrom first ((instant, after) :: rest)) = reading fold)
    (hshown : ¬reading false < reading true) (hfold : fold = true → reading true < reading false) :
    offsetAfter first (·.instant ≤ wall - reading fold)
        (shiftsFrom first ((instant, after) :: rest)) = reading fold ∧
      (shiftsFrom first ((instant, after) :: rest)).any (·.repeatsAt (wall - reading fold)) =
        fold := by
  obtain ⟨hnext, hrest⟩ := List.pairwise_cons.mp hordered
  have hfalse : Shift.wallMark ⟨instant, first, after⟩ false = instant + max first after := rfl
  have htrue : Shift.wallMark ⟨instant, first, after⟩ true = instant + min first after := rfl
  have hfirst := hreading false
  have hsecond := hreading true
  rw [shiftsFrom, offsetAfter_cons, offsetAfter_wallMark_of_lt hnext hahead] at hfirst hsecond
  rw [if_neg (by simpa using hahead)] at hfirst
  cases fold with
  | false =>
    -- Not even the second fold has been moved, or else the local time would be skipped.
    have hutc : wall - reading false < instant := by
      by_cases hmoved : Shift.wallMark ⟨instant, first, after⟩ true ≤ wall
      · rw [if_pos (decide_eq_true hmoved)] at hsecond
        have hafter : after = reading true := hsecond
        omega
      · omega
    have hnone := lt_instant_of_lt hnext hutc
    exact ⟨(offsetAfter_instant_of_none hnone).trans hfirst, any_repeatsAt_of_none hnone⟩
  | true =>
    have htwice := hfold rfl
    have hmoved : Shift.wallMark ⟨instant, first, after⟩ true ≤ wall := by
      refine Int.not_lt.mp fun hunmoved => ?_
      rw [if_neg (by simpa using hunmoved)] at hsecond
      omega
    rw [if_pos (decide_eq_true hmoved)] at hsecond
    have hafter : reading true = after := hsecond.symm
    have hutc : instant ≤ wall - after := by omega
    have hnone : ∀ later ∈ shiftsFrom after rest, wall - after < later.instant :=
      lt_instant_of_lt_wallMark hrest fun later hlater =>
        Int.lt_of_lt_of_le hahead (hnext later hlater).2
    have hrepeats : Shift.repeatsAt ⟨instant, first, after⟩ (wall - after) = true :=
      Shift.repeatsAt_iff.mpr ⟨hutc, by dsimp only; omega⟩
    rw [hafter, shiftsFrom, offsetAfter_cons, List.any_cons, hrepeats,
      if_pos (decide_eq_true hutc), offsetAfter_instant_of_none hnone]
    exact ⟨rfl, rfl⟩

/-- A reading of a local time that is not skipped is what is shown at the moment it gives, if the
second fold is only used for what is shown twice. -/
theorem offsetAfter_instant_of_reading {listed : List (Int × Int)}
    (hordered : (shiftsFrom first listed).Pairwise Shift.Precedes) {wall : Int} {fold : Bool}
    {reading : Bool → Int} (hreading : ∀ fold,
      offsetAfter first (·.wallMark fold ≤ wall) (shiftsFrom first listed) = reading fold)
    (hshown : ¬reading false < reading true) (hfold : fold = true → reading true < reading false) :
    offsetAfter first (·.instant ≤ wall - reading fold) (shiftsFrom first listed) = reading fold ∧
      (shiftsFrom first listed).any (·.repeatsAt (wall - reading fold)) = fold := by
  induction listed generalizing first with
  | nil =>
    -- Without shifts no reading depends on the fold, and so only the first one is asked for.
    have hsame : reading true = reading false := (hreading true).symm.trans (hreading false)
    cases fold with
    | false => exact ⟨hreading false, rfl⟩
    | true => exact absurd (hfold rfl) (by omega)
  | cons entry rest ih =>
    rcases entry with ⟨instant, after⟩
    rcases Int.lt_or_le wall (Shift.wallMark ⟨instant, first, after⟩ false) with hahead | hpast
    · exact offsetAfter_instant_of_ahead hordered hahead hreading hshown hfold
    · obtain ⟨hnext, hrest⟩ := List.pairwise_cons.mp hordered
      have hfalse : Shift.wallMark ⟨instant, first, after⟩ false = instant + max first after := rfl
      have hreadingRest (fold : Bool) :
          offsetAfter after (·.wallMark fold ≤ wall) (shiftsFrom after rest) = reading fold := by
        have hmoved := Int.le_trans (Shift.wallMark_le_false ⟨instant, first, after⟩ fold) hpast
        rw [← hreading fold, shiftsFrom, offsetAfter_cons, if_pos (decide_eq_true hmoved)]
      obtain ⟨hoffset, hany⟩ := ih hrest hreadingRest
      have hutc : instant ≤ wall - reading fold ∧
          Shift.repeatsAt ⟨instant, first, after⟩ (wall - reading fold) = false := by
        by_cases hlater : ∃ later ∈ shiftsFrom after rest, later.instant ≤ wall - reading fold
        · refine ⟨?_, repeatsAt_eq_false_of_later hnext hrest hlater⟩
          obtain ⟨later, hmem, hinstant⟩ := hlater
          exact Int.le_trans (hnext later hmem).1 hinstant
        · -- No other shift has happened, so that the reading has the offset after this one.
          have hnone : ∀ later ∈ shiftsFrom after rest, wall - reading fold < later.instant := by
            simpa using hlater
          have hafter : after = reading fold :=
            (offsetAfter_instant_of_none hnone).symm.trans hoffset
          refine ⟨by omega, Bool.eq_false_iff.mpr fun hrepeats => ?_⟩
          have hbound : wall - reading fold + after < instant + first :=
            (Shift.repeatsAt_iff.mp hrepeats).2
          omega
      rw [shiftsFrom, offsetAfter_cons, List.any_cons, hutc.2, Bool.false_or,
        if_pos (decide_eq_true hutc.1)]
      exact ⟨hoffset, hany⟩

end Cons

/-! ## Rules -/

namespace Rules

variable {rules : Rules}

theorem seasonAfter?_of_season_none (h : rules.season = none) (isAfter : Shift → Bool) :
    rules.seasonAfter? isAfter = none := by
  rw [seasonAfter?, h]
  split
  · exact ite_self none
  · rfl

theorem offsetAtWall_of_season_none (h : rules.season = none) (wall : Int) (fold : Bool) :
    rules.offsetAtWall wall fold =
      offsetAfter rules.first (·.wallMark fold ≤ wall) rules.shifts := by
  rw [offsetAtWall, seasonAfter?_of_season_none h]

theorem offsetAtUtc_of_season_none (h : rules.season = none) (utc : Int) :
    rules.offsetAtUtc utc = offsetAfter rules.first (·.instant ≤ utc) rules.shifts := by
  rw [offsetAtUtc, seasonAfter?_of_season_none h]

theorem foldAtUtc_of_season_none (h : rules.season = none)
    (hordered : rules.shifts.Pairwise Shift.Precedes) (utc : Int) :
    rules.foldAtUtc utc = rules.shifts.any (·.repeatsAt utc) := by
  rw [foldAtUtc, seasonAfter?_of_season_none h, offsetAtUtc_of_season_none h, Option.any_none,
    Bool.or_false, lastShift?]
  exact (any_repeatsAt_eq hordered utc).symm

/-- Rules without a season are faithful, if their shifts are far enough apart. -/
theorem faithful_of_season_none (h : rules.season = none)
    (hordered : rules.shifts.Pairwise Shift.Precedes) : rules.Faithful where
  read_shown utc _ _ := by
    rw [offsetAtWall_of_season_none h, foldAtUtc_of_season_none h hordered,
      offsetAtUtc_of_season_none h]
    exact (offsetAfter_wallMark_of_instant hordered rfl rfl).1
  repeats_of_fold utc _ _ hfold := by
    rw [foldAtUtc_of_season_none h hordered] at hfold
    obtain ⟨hsecond, hfirst⟩ := offsetAfter_wallMark_of_instant hordered rfl hfold
    rw [Repeats, offsetAtWall_of_season_none h, offsetAtWall_of_season_none h,
      offsetAtUtc_of_season_none h]
    exact hsecond.trans_lt (hfirst rfl)
  shown_of_not_skips wall fold _ hutc hshown hfold := by
    obtain ⟨hoffset, hany⟩ := offsetAfter_instant_of_reading hordered
      (fun fold => (offsetAtWall_of_season_none h wall fold).symm) hshown hfold
    refine ⟨wall - rules.offsetAtWall wall fold, hutc, ?_, ?_⟩
    · rw [offsetAtUtc_of_season_none h]
      have hsame : offsetAfter rules.first
          (·.instant ≤ wall - rules.offsetAtWall wall fold) rules.shifts =
            rules.offsetAtWall wall fold := hoffset
      omega
    · rw [foldAtUtc_of_season_none h hordered]
      exact hany.symm

/-- Within a day of some seconds, rules convert and read like others. -/
structure LikeNear (rules other : Rules) (seconds : Int) : Prop where
  offsetAtUtc_eq : ∀ utc, seconds - 86400 ≤ utc → utc ≤ seconds + 86400 →
    rules.offsetAtUtc utc = other.offsetAtUtc utc
  foldAtUtc_eq : ∀ utc, seconds - 86400 ≤ utc → utc ≤ seconds + 86400 →
    rules.foldAtUtc utc = other.foldAtUtc utc
  offsetAtWall_eq : ∀ wall fold, seconds - 86400 ≤ wall → wall ≤ seconds + 86400 →
    rules.offsetAtWall wall fold = other.offsetAtWall wall fold

/-- Rules whose offsets are at most a day are faithful, if around all seconds they are like rules
which are. -/
theorem faithful_of_near
    (hutcRange : ∀ utc, -86400 ≤ rules.offsetAtUtc utc ∧ rules.offsetAtUtc utc ≤ 86400)
    (hwallRange : ∀ wall fold,
      -86400 ≤ rules.offsetAtWall wall fold ∧ rules.offsetAtWall wall fold ≤ 86400)
    (hlike : ∀ seconds, ∃ other : Rules, other.Faithful ∧ rules.LikeNear other seconds) :
    rules.Faithful where
  read_shown utc hutc hwall := by
    obtain ⟨other, hfaithful, hnear⟩ := hlike utc
    have hrange := hutcRange utc
    have hoffset := hnear.offsetAtUtc_eq utc (by omega) (by omega)
    have hfold := hnear.foldAtUtc_eq utc (by omega) (by omega)
    rw [hnear.offsetAtWall_eq _ _ (by omega) (by omega), hfold, hoffset]
    exact hfaithful.read_shown utc hutc (hoffset ▸ hwall)
  repeats_of_fold utc hutc hwall hfold := by
    obtain ⟨other, hfaithful, hnear⟩ := hlike utc
    have hrange := hutcRange utc
    have hoffset := hnear.offsetAtUtc_eq utc (by omega) (by omega)
    rw [hnear.foldAtUtc_eq utc (by omega) (by omega)] at hfold
    rw [Repeats, hnear.offsetAtWall_eq _ _ (by omega) (by omega),
      hnear.offsetAtWall_eq _ _ (by omega) (by omega), hoffset]
    exact hfaithful.repeats_of_fold utc hutc (hoffset ▸ hwall) hfold
  shown_of_not_skips wall fold hwall hutc hshown hfold := by
    obtain ⟨other, hfaithful, hnear⟩ := hlike wall
    have hreading (fold : Bool) := hnear.offsetAtWall_eq wall fold (by omega) (by omega)
    have hrange := hwallRange wall fold
    rw [Skips, hreading, hreading] at hshown
    rw [Repeats, hreading, hreading] at hfold
    rw [hreading] at hutc hrange
    obtain ⟨utc, hutcYears, rfl, rfl⟩ :=
      hfaithful.shown_of_not_skips wall fold hwall hutc hshown hfold
    -- What the other rules show is read as that moment, which is therefore less than a day away.
    rw [hfaithful.read_shown utc hutcYears hwall] at hrange
    exact ⟨utc, hutcYears, by rw [hnear.offsetAtUtc_eq utc (by omega) (by omega)],
      (hnear.foldAtUtc_eq utc (by omega) (by omega)).symm⟩

end Rules

end ContentLine
