import ContentLine.Proofs.Temporal.Agreement
import ContentLine.Proofs.Zone.Excerpt

/-!
# Views of a moment

A moment can be viewed at any zone. At its own zone the view is the value as it is, even where
clocks skip it. At another zone the view is the local time that clocks show there at the same
moment, unless the moment or that local time lies outside the years 1 to 9999. Viewed at its own
zone again, it is the value that it was, unless no clock has shown that value as it stands.

## Main results

* `ZonedTime.inZone?_eq_some_iff`, `ZonedTime.inZone?_eq_none_iff`: the view at another zone, and
  when there is none.
* `ZonedTime.inZone?_back_iff`: when a view gives the time back.
* `Temporal.viewedAt_and_back`: the same for the values of date properties.
-/

namespace ContentLine

namespace ZonedTime

variable {time shown : ZonedTime} {zone : Zone}

/-- The view at another zone is what clocks show there at the same moment. -/
theorem inZone?_eq_some_iff (hzone : zone ≠ time.zone) :
    time.inZone? zone = some shown ↔
      InYears time.utcSeconds ∧ shown.zone = zone ∧
        shown.wall.seconds = time.utcSeconds + zone.rules.offsetAtUtc time.utcSeconds ∧
        shown.fold = zone.rules.foldAtUtc time.utcSeconds ∧
        shown.wall.time.microsecond = time.wall.time.microsecond := by
  rw [inZone?, if_neg (Ne.symm hzone), ← time.wall.isSome_atSeconds?_iff]
  cases time.wall.atSeconds? time.utcSeconds with
  | none => simp
  | some moment =>
    simp only [ofUtc?, Option.map_eq_some_iff, Option.isSome_some, true_and]
    constructor
    · rintro ⟨wall, hwall, rfl⟩
      obtain ⟨hseconds, hfraction⟩ := LocalTime.seconds_of_atSeconds? hwall
      exact ⟨rfl, hseconds, rfl, hfraction⟩
    · rintro ⟨rfl, hseconds, hfold, hfraction⟩
      obtain ⟨wall, hwall⟩ := Option.isSome_iff_exists.mp
        ((time.wall.isSome_atSeconds?_iff _).mpr (hseconds ▸ shown.wall.inYears_seconds))
      obtain ⟨hsame, hkept⟩ := LocalTime.seconds_of_atSeconds? hwall
      obtain rfl : wall = shown.wall :=
        LocalTime.eq_of_seconds_eq (hsame.trans hseconds.symm) (hkept.trans hfraction.symm)
      exact ⟨shown.wall, hwall, by rw [← hfold]⟩

/-- There is a view at another zone unless the moment, or the local time that is shown there, lies
outside the years 1 to 9999. -/
theorem inZone?_eq_none_iff (hzone : zone ≠ time.zone) :
    time.inZone? zone = none ↔
      ¬InYears time.utcSeconds ∨
        ¬InYears (time.utcSeconds + zone.rules.offsetAtUtc time.utcSeconds) := by
  rw [inZone?, if_neg (Ne.symm hzone), ← time.wall.isSome_atSeconds?_iff,
    ← time.wall.isSome_atSeconds?_iff]
  cases time.wall.atSeconds? time.utcSeconds with
  | none => simp
  | some moment => simp [ofUtc?]

/-- The view at another zone denotes the same moment. -/
theorem sameMoment_of_inZone? (hfaithful : zone.rules.Faithful) (hzone : zone ≠ time.zone)
    (h : time.inZone? zone = some shown) : shown.SameMoment time := by
  obtain ⟨hutc, rfl, hwall, hfold, hfraction⟩ := (inZone?_eq_some_iff hzone).mp h
  have hread := hfaithful.read_shown time.utcSeconds hutc (hwall ▸ shown.wall.inYears_seconds)
  rw [← hwall, ← hfold] at hread
  refine ⟨?_, hfraction⟩
  rw [utcSeconds, offset, hread]
  omega

/-- The view at its own zone, taken from another one, gives a time that is not skipped back exactly
if it has the second fold only where clocks show it twice. -/
theorem inZone?_back_iff (hfaithful : time.zone.rules.Faithful) (hzone : time.zone ≠ shown.zone)
    (hsame : shown.SameMoment time) (hutc : InYears time.utcSeconds)
    (hskips : ¬time.zone.rules.Skips time.wall.seconds) :
    shown.inZone? time.zone = some time ↔
      (time.fold = true → time.zone.rules.Repeats time.wall.seconds) := by
  obtain ⟨hmoment, hfraction⟩ := hsame
  rw [inZone?_eq_some_iff hzone, hmoment]
  constructor
  · rintro ⟨-, -, hwall, hfold, -⟩ hsecond
    rw [hwall]
    exact hfaithful.repeats_of_fold time.utcSeconds hutc (hwall ▸ time.wall.inYears_seconds)
      (hfold ▸ hsecond)
  · intro hrepeats
    obtain ⟨utc, hutcYears, hwall, hfold⟩ := hfaithful.shown_of_not_skips time.wall.seconds
      time.fold time.wall.inYears_seconds hutc hskips hrepeats
    -- A reading denotes the moment at which it was shown.
    obtain rfl : utc = time.utcSeconds := by
      have hread := hfaithful.read_shown utc hutcYears (hwall ▸ time.wall.inYears_seconds)
      rw [← hwall, ← hfold] at hread
      rw [utcSeconds, offset, hread]
      omega
    exact ⟨hutc, rfl, hwall, hfold, hfraction.symm⟩

end ZonedTime

namespace Temporal

/-- A moment viewed at its own zone is the value as it is. At another zone the view fails exactly if
the moment or the local time there lies outside the years 1 to 9999. Otherwise it is a time of that
zone and denotes the same moment, and, unless the value lies in a gap, viewing it at the own zone of
the value gives the value back, wall time and fold, exactly if the second fold is that of a time
shown twice. -/
theorem viewedAt_and_back {value : Temporal} {time : ZonedTime} {zone : Zone}
    (hvalue : value.reading = .time time) (hown : time.zone.rules.Faithful)
    (hzone : zone.rules.Faithful) :
    let utc := time.utcSeconds
    let wall := utc + zone.rules.offsetAtUtc utc
    (zone = time.zone → value.viewedAt zone = .ok (.time time)) ∧
      (zone ≠ time.zone →
        (value.viewedAt zone = .error .overflow ↔ ¬InYears utc ∨ ¬InYears wall) ∧
        (InYears utc → InYears wall →
          ∃ shown : ZonedTime, value.viewedAt zone = .ok (.time shown) ∧
            shown.zone = zone ∧ shown.SameMoment time ∧
            (¬time.zone.rules.Skips time.wall.seconds →
              (shown.inZone? time.zone = some time ↔
                (time.fold = true → time.zone.rules.Repeats time.wall.seconds))))) := by
  intro utc wall
  have hview : value.viewedAt zone =
      (time.inZone? zone).elim (.error .overflow) (fun viewed => .ok (.time viewed)) := by
    cases hshown : time.inZone? zone <;> simp only [viewedAt, hvalue, hshown, Option.elim]
  refine ⟨?_, fun hother => ⟨?_, fun hutc hwall => ?_⟩⟩
  · rintro rfl
    simp [hview, ZonedTime.inZone?_self]
  · rw [hview, ← ZonedTime.inZone?_eq_none_iff hother]
    cases time.inZone? zone <;> simp
  · cases hshown : time.inZone? zone with
    | none =>
      have houtside := (ZonedTime.inZone?_eq_none_iff hother).mp hshown
      exact absurd hwall (houtside.resolve_left (not_not_intro hutc))
    | some shown =>
      have hsame := ZonedTime.sameMoment_of_inZone? hzone hother hshown
      obtain ⟨-, hshownZone, -⟩ := (ZonedTime.inZone?_eq_some_iff hother).mp hshown
      refine ⟨shown, ?_, hshownZone, hsame, fun hskips => ?_⟩
      · simp [hview, hshown]
      · exact ZonedTime.inZone?_back_iff hown (hshownZone ▸ Ne.symm hother) hsame hutc hskips

/-- Half past two in Berlin, for the second time on the 30th of October 2022. -/
def secondHalfPastTwo : ZonedTime :=
  ⟨⟨⟨2022, 10, 30, by decide, by decide, by decide⟩,
    TimeOfDay.midnight.atSecond (3600 * 2 + 60 * 30)⟩, true, .named "Europe/Berlin"⟩

/-- The first moment of the year 1 in UTC. -/
def firstMoment : LocalTime :=
  ⟨⟨1, 1, 1, by decide, by decide, by decide⟩, .midnight⟩

/-- Half past two in Berlin is viewed in New York at the same moment, and from there again as the
second half past two. The first moment of all has no view in New York. -/
theorem viewedAt_and_back_newYork :
    (∃ shown : ZonedTime,
        (zoned secondHalfPastTwo "Europe/Berlin").viewedAt (.named "America/New_York") =
          .ok (.time shown) ∧
        shown.SameMoment secondHalfPastTwo ∧
        shown.inZone? (.named "Europe/Berlin") = some secondHalfPastTwo) ∧
      (utc firstMoment false).viewedAt (.named "America/New_York") = .error .overflow := by
  have hberlin := Zone.faithful_named (show "Europe/Berlin" ∉ Zone.nuukNames by decide)
  have hnewYork := Zone.faithful_named (show "America/New_York" ∉ Zone.nuukNames by decide)
  have hsecond : (zoned secondHalfPastTwo "Europe/Berlin").reading = .time secondHalfPastTwo := rfl
  have hfirst : (utc firstMoment false).reading = .time ⟨firstMoment, false, .utc⟩ := rfl
  constructor
  · obtain ⟨shown, hview, -, hsame, hback⟩ :=
      ((viewedAt_and_back hsecond hberlin hnewYork).2 (by decide)).2
        (by decide +kernel) (by decide +kernel)
    exact ⟨shown, hview, hsame, (hback (by decide +kernel)).mpr fun _ => by decide +kernel⟩
  · exact ((viewedAt_and_back hfirst Zone.faithful_utc hnewYork).2 (by decide)).1.mpr
      (Or.inr (by decide +kernel))

end Temporal

end ContentLine
