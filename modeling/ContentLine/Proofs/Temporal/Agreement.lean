import ContentLine.Civil.DayNumber
import ContentLine.Temporal.Basic

/-!
# What readings are compared by

Two readings in one zone agree if the clock shows the same, whatever their folds, and two readings
in different zones if they denote the same moment, unless one of them depends on its fold. Behind
the two rules stands one comparison: a reading that depends on its fold is compared by its zone and
local time, and any other by the moment it denotes. In one zone that takes a clock which shows a
moment only once, apart from the times that it skips or repeats.

## Main definitions

* `ZonedTime.SameMoment`: two readings denote the same moment of UTC.
* `Zone.ShowsOnce`: the clocks of a zone show a moment only once.
* `ZonedTime.identity`, `Reading.identity`: what a reading is compared by.

## Main results

* `ZonedTime.agrees_iff_of_dependsOnFold`, `ZonedTime.agrees_iff_of_not_dependsOnFold`: when times
  agree, by whether a fold matters.
* `ZonedTime.agrees_iff_identity_eq`, `Reading.agrees_iff_identity_eq`: readings agree exactly if
  they are compared by the same.
* `ZonedTime.instantKey_eq_of_identity_eq`, `Reading.key_eq_of_identity_eq`: what agrees has the
  same key.
-/

namespace ContentLine

/-- The seconds and the fraction of a local time determine it. -/
theorem LocalTime.eq_of_seconds_eq {a b : LocalTime} (hseconds : a.seconds = b.seconds)
    (hfraction : a.time.microsecond = b.time.microsecond) : a = b := by
  have hb := b.atSeconds?_seconds
  rw [← hseconds] at hb
  -- The local time at given seconds takes only the fraction from where it starts.
  have hsame : a.atSeconds? a.seconds = b.atSeconds? a.seconds := by
    simp only [atSeconds?, TimeOfDay.atSecond, hfraction]
  rw [atSeconds?_seconds, hb] at hsame
  exact Option.some.inj hsame

namespace ZonedTime

/-! ## Folds -/

@[simp] theorem dependsOnFold_withFold (time : ZonedTime) (fold : Bool) :
    (time.withFold fold).dependsOnFold = time.dependsOnFold := by
  rcases time with ⟨wall, given, zone⟩
  cases given <;> cases fold <;> simp [dependsOnFold, withFold, offset, bne_comm]

/-- A reading that does not depend on its fold has one offset. -/
theorem offset_withFold {time : ZonedTime} (h : time.dependsOnFold = false) (fold : Bool) :
    (time.withFold fold).offset = time.offset := by
  rw [dependsOnFold, bne_eq_false_iff_eq] at h
  by_cases hfold : fold = time.fold
  · rw [hfold]
    rfl
  · rw [Bool.eq_not.mpr hfold]
    exact h.symm

/-- Readings of one local time in one zone differ by their folds alone. -/
theorem eq_withFold {a b : ZonedTime} (hzone : a.zone = b.zone) (hwall : a.wall = b.wall) :
    b = a.withFold b.fold := by
  rw [withFold, hzone, hwall]

/-! ## Moments -/

/-- Two readings denote the same moment of UTC, to the microsecond. -/
def SameMoment (a b : ZonedTime) : Prop :=
  a.utcSeconds = b.utcSeconds ∧ a.wall.time.microsecond = b.wall.time.microsecond

instance (a b : ZonedTime) : Decidable (a.SameMoment b) :=
  inferInstanceAs (Decidable (_ ∧ _))

/-- Readings of one local time in one zone denote the same moment, if they depend on no fold. -/
theorem sameMoment_of_wall_eq {a b : ZonedTime} (hzone : a.zone = b.zone) (hwall : a.wall = b.wall)
    (hfold : a.dependsOnFold = false) : a.SameMoment b := by
  rw [eq_withFold hzone hwall]
  exact ⟨congrArg (a.wall.seconds - ·) (offset_withFold hfold b.fold).symm, rfl⟩

end ZonedTime

/-- The clocks of a zone show a moment only once: two readings that depend on no fold and denote the
same moment show the same local time. -/
def Zone.ShowsOnce (zone : Zone) : Prop :=
  ∀ a b : ZonedTime, a.zone = zone → b.zone = zone →
    a.dependsOnFold = false → b.dependsOnFold = false → a.SameMoment b → a.wall = b.wall

/-! ## What readings are compared by -/

/-- What a reading is compared by. -/
inductive Reading.Identity where
  | date (date : Date)
  /-- A moment of UTC, in seconds since 1970 and microseconds. -/
  | moment (seconds : Int) (microsecond : Nat)
  /-- A local time that the clocks of a zone skip or repeat. -/
  | shown (zone : Zone) (wall : LocalTime)
deriving DecidableEq, Repr

namespace ZonedTime

variable {a b : ZonedTime}

/-- What a time is compared by: the moment, or the zone and the local time if the moment depends on
the fold. -/
def identity (time : ZonedTime) : Reading.Identity :=
  if time.dependsOnFold then .shown time.zone time.wall
  else .moment time.utcSeconds time.wall.time.microsecond

theorem agrees_iff_of_zone_eq (hzone : a.zone = b.zone) :
    a.agrees b = true ↔ a.wall = b.wall := by
  rw [agrees, if_pos hzone, decide_eq_true_iff]

theorem agrees_iff_of_zone_ne (hzone : a.zone ≠ b.zone) :
    a.agrees b = true ↔ a.SameMoment b ∧ a.dependsOnFold = false ∧ b.dependsOnFold = false := by
  rw [agrees, if_neg hzone]
  simp [SameMoment, and_assoc]

theorem identity_eq_iff_of_dependsOnFold (ha : a.dependsOnFold = true) :
    a.identity = b.identity ↔ b.dependsOnFold = true ∧ a.zone = b.zone ∧ a.wall = b.wall := by
  rw [identity, identity, if_pos ha]
  cases b.dependsOnFold <;> simp

theorem identity_eq_iff_of_not_dependsOnFold (ha : a.dependsOnFold = false) :
    a.identity = b.identity ↔ b.dependsOnFold = false ∧ a.SameMoment b := by
  rw [identity, identity, ha, SameMoment]
  cases b.dependsOnFold <;> simp

theorem agrees_comm (a b : ZonedTime) : a.agrees b = b.agrees a := by
  rw [Bool.eq_iff_iff]
  by_cases hzone : a.zone = b.zone
  · rw [agrees_iff_of_zone_eq hzone, agrees_iff_of_zone_eq hzone.symm, eq_comm]
  · rw [agrees_iff_of_zone_ne hzone, agrees_iff_of_zone_ne (Ne.symm hzone), SameMoment, SameMoment]
    rw [eq_comm, eq_comm (a := a.wall.time.microsecond), and_comm (a := a.dependsOnFold = false)]

/-- Times that agree are compared by the same. -/
theorem identity_eq_of_agrees (h : a.agrees b = true) : a.identity = b.identity := by
  by_cases hzone : a.zone = b.zone
  · have hwall := (agrees_iff_of_zone_eq hzone).mp h
    -- In one zone the two differ by their folds alone, so that either both depend on it or none.
    have hb : b.dependsOnFold = a.dependsOnFold := by
      rw [eq_withFold hzone hwall, dependsOnFold_withFold]
    cases ha : a.dependsOnFold with
    | true => exact (identity_eq_iff_of_dependsOnFold ha).mpr ⟨hb.trans ha, hzone, hwall⟩
    | false =>
      exact (identity_eq_iff_of_not_dependsOnFold ha).mpr
        ⟨hb.trans ha, sameMoment_of_wall_eq hzone hwall ha⟩
  · obtain ⟨hmoment, ha, hb⟩ := (agrees_iff_of_zone_ne hzone).mp h
    exact (identity_eq_iff_of_not_dependsOnFold ha).mpr ⟨hb, hmoment⟩

/-- A time that depends on its fold agrees with the readings of the same local time in its zone, and
with nothing else. -/
theorem agrees_iff_of_dependsOnFold (h : a.dependsOnFold = true ∨ b.dependsOnFold = true) :
    a.agrees b = true ↔ a.zone = b.zone ∧ a.wall = b.wall := by
  by_cases hzone : a.zone = b.zone
  · simp only [agrees_iff_of_zone_eq hzone, hzone, true_and]
  · rw [agrees_iff_of_zone_ne hzone]
    constructor
    · rintro ⟨-, ha, hb⟩
      simp [ha, hb] at h
    · rintro ⟨hsame, -⟩
      exact absurd hsame hzone

/-- Times that depend on no fold agree exactly if they denote the same moment, where a clock that
both are read from shows it only once. -/
theorem agrees_iff_of_not_dependsOnFold (ha : a.dependsOnFold = false)
    (hb : b.dependsOnFold = false) (hclock : a.zone = b.zone → a.zone.ShowsOnce) :
    a.agrees b = true ↔ a.SameMoment b := by
  by_cases hzone : a.zone = b.zone
  · rw [agrees_iff_of_zone_eq hzone]
    exact ⟨fun hwall => sameMoment_of_wall_eq hzone hwall ha,
      hclock hzone a b rfl hzone.symm ha hb⟩
  · rw [agrees_iff_of_zone_ne hzone]
    exact ⟨fun ⟨hmoment, _⟩ => hmoment, fun hmoment => ⟨hmoment, ha, hb⟩⟩

/-- Times agree exactly if they are compared by the same, where clocks show a moment only once. -/
theorem agrees_iff_identity_eq (hclock : a.zone.ShowsOnce) :
    a.agrees b = true ↔ a.identity = b.identity := by
  refine ⟨identity_eq_of_agrees, fun h => ?_⟩
  cases ha : a.dependsOnFold with
  | true =>
    obtain ⟨-, hzone, hwall⟩ := (identity_eq_iff_of_dependsOnFold ha).mp h
    exact (agrees_iff_of_dependsOnFold (Or.inl ha)).mpr ⟨hzone, hwall⟩
  | false =>
    obtain ⟨hb, hmoment⟩ := (identity_eq_iff_of_not_dependsOnFold ha).mp h
    exact (agrees_iff_of_not_dependsOnFold ha hb fun _ => hclock).mpr hmoment

/-- Times that are compared by the same have the same first occurrence. -/
theorem instantKey_eq_of_identity_eq (h : a.identity = b.identity) :
    a.instantKey = b.instantKey := by
  cases ha : a.dependsOnFold with
  | true =>
    obtain ⟨-, hzone, hwall⟩ := (identity_eq_iff_of_dependsOnFold ha).mp h
    rw [eq_withFold hzone hwall]
    rfl
  | false =>
    obtain ⟨hb, hmoment, hfraction⟩ := (identity_eq_iff_of_not_dependsOnFold ha).mp h
    -- The key takes the moment of the first occurrence, which here is the only one.
    have hfirst {time : ZonedTime} (htime : time.dependsOnFold = false) :
        (time.withFold false).utcSeconds = time.utcSeconds :=
      congrArg (time.wall.seconds - ·) (offset_withFold htime false)
    rw [instantKey, instantKey, hfirst ha, hfirst hb, hmoment, hfraction]

end ZonedTime

namespace Reading

variable {a b : Reading}

/-- What a reading is compared by. -/
def identity : Reading → Identity
  | date d => .date d
  | time t => t.identity

/-- The clocks that a reading is taken from show a moment only once; a date is not taken from any.
-/
def ShownOnce : Reading → Prop
  | date _ => True
  | time t => t.zone.ShowsOnce

theorem date_ne_identity (d : Date) (t : ZonedTime) : Identity.date d ≠ t.identity := by
  rw [ZonedTime.identity]
  split <;> simp

theorem agrees_comm (a b : Reading) : a.agrees b = b.agrees a := by
  match a, b with
  | date _, date _ => exact BEq.comm
  | time _, time _ => exact ZonedTime.agrees_comm _ _
  | date _, time _ | time _, date _ => rfl

/-- Readings that agree are compared by the same. -/
theorem identity_eq_of_agrees (h : a.agrees b = true) : a.identity = b.identity := by
  match a, b with
  | date _, date _ => exact congrArg Identity.date (eq_of_beq h)
  | time _, time _ => exact ZonedTime.identity_eq_of_agrees h
  | date _, time _ | time _, date _ => cases h

/-- Readings agree exactly if they are compared by the same, where clocks show a moment only once.
-/
theorem agrees_iff_identity_eq (hclock : a.ShownOnce) :
    a.agrees b = true ↔ a.identity = b.identity := by
  match a, b with
  | date _, date _ => simp [agrees, identity]
  | time _, time _ => exact ZonedTime.agrees_iff_identity_eq hclock
  | date d, time t => simp [agrees, identity, date_ne_identity d t]
  | time t, date d => simp [agrees, identity, (date_ne_identity d t).symm]

/-- Readings that are compared by the same have the same key. -/
theorem key_eq_of_identity_eq (h : a.identity = b.identity) : a.key = b.key := by
  match a, b with
  | date _, date _ =>
    obtain rfl := Identity.date.inj h
    rfl
  | time _, time _ => rw [key, key, ZonedTime.instantKey_eq_of_identity_eq h]
  | date d, time t => exact absurd h (date_ne_identity d t)
  | time t, date d => exact absurd h.symm (date_ne_identity d t)

end Reading

end ContentLine
