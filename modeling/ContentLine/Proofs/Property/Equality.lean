import ContentLine.Proofs.Zone.Regular
import ContentLine.Property.Basic

/-!
# Equality of properties

Literal properties are equal if all their parts are, and date properties if they read the same. What
a date property is compared by is that of its reading, so that equality is an equivalence among all
properties that can be read, where the clocks they are read from show a moment only once. Equality
of date properties then goes with their keys.

Times are equal as moments only as far as no fold is involved. A time that a clock skips or repeats
equals every reading of the same local time in its zone, also the one an hour later, and nothing
else, not even its own moment in another zone.

## Main definitions

* `Property.Comparable`: a property is literal, or can be read from a clock that shows a moment only
  once.
* `Property.identity?`: what a property is compared by.

## Main results

* `Property.result_agrees`: properties that can be compared are equal exactly if they are compared
  by the same.
* `Property.agrees_equivalence`: equality is an equivalence of these properties, and date properties
  that are equal have the same key.
* `Property.agrees_iff_sameMoment`: times that depend on no fold are equal exactly if they denote
  the same moment.
-/

namespace ContentLine

/-- Whether what two properties read as agrees: both as nothing, or as readings that agree. -/
def Reading.bothAgree : Option Reading → Option Reading → Bool
  | none, none => true
  | some a, some b => a.agrees b
  | _, _ => false

namespace Reading

variable {a b : Option Reading}

/-- What agrees is compared by the same. -/
theorem map_identity_eq_of_bothAgree (h : bothAgree a b = true) :
    a.map identity = b.map identity := by
  match a, b with
  | none, none => rfl
  | some _, some _ => exact congrArg some (identity_eq_of_agrees h)
  | none, some _ | some _, none => cases h

theorem bothAgree_comm (a b : Option Reading) : bothAgree a b = bothAgree b a := by
  match a, b with
  | none, none => rfl
  | some _, some _ => exact agrees_comm _ _
  | none, some _ | some _, none => rfl

theorem bothAgree_iff_map_identity_eq (hclock : ∀ reading ∈ a, reading.ShownOnce) :
    bothAgree a b = true ↔ a.map identity = b.map identity := by
  match a, b with
  | none, none => simp [bothAgree]
  | some x, some y =>
    simpa [bothAgree] using agrees_iff_identity_eq (hclock x rfl)
  | none, some _ | some _, none => simp [bothAgree]

/-- What is compared by the same has the same key. -/
theorem map_key_eq_of_map_identity_eq (h : a.map identity = b.map identity) :
    a.map key = b.map key := by
  match a, b with
  | none, none => rfl
  | some _, some _ => exact congrArg some (key_eq_of_identity_eq (Option.some.inj h))
  | none, some _ | some _, none => cases h

end Reading

namespace DateProperty

variable {leniency : Leniency} {a b : DateProperty}

/-- Two properties are equal exactly if both can be read and their readings agree. -/
theorem agrees_eq_ok_iff {answer : Bool} :
    (a.agrees leniency b).result = .ok answer ↔
      ∃ x y, (a.read leniency).result = .ok x ∧ (b.read leniency).result = .ok y ∧
        Reading.bothAgree x y = answer := by
  rw [agrees, Action.result_bind_eq_ok_iff]
  constructor
  · rintro ⟨x, hx, h⟩
    obtain ⟨y, hy, h⟩ := Action.result_bind_eq_ok_iff.mp h
    exact ⟨x, y, hx, hy, Except.ok.inj h⟩
  · rintro ⟨x, y, hx, hy, rfl⟩
    exact ⟨x, hx, Action.result_bind_eq_ok_iff.mpr ⟨y, hy, rfl⟩⟩

/-- The zone identifier of a property with a TZID parameter alone. -/
theorem tzid_of {tzid : String}
    (h : a.parameters = [Parameter.of Parameter.tzidName tzid]) : a.tzid = some tzid := by
  rw [DateProperty.tzid, h]
  simp [Parameter.first?, Parameter.isNamed, Parameter.of]

/-- A time is read as the clock of the zone shows it that the TZID parameter resolves to. -/
theorem read_of_shown {temporal : Temporal} {time shown : ZonedTime} {tzid : String} {zone : Zone}
    (hstored : a.stored = some temporal) (hreading : temporal.reading = .time time)
    (htzid : a.tzid = some tzid) (hzone : (a.registry.resolve leniency tzid).result = .ok zone)
    (hshown : time.inZone? zone = some shown) :
    (a.read leniency).result = .ok (some (.time shown)) := by
  rw [result_read, hstored, htzid]
  simp only [hzone, Temporal.viewedAt, hreading, hshown]
  rfl

/-- The key of a property is that of its reading. -/
theorem key_eq_ok_of_read {reading : Option Reading}
    (h : (a.read leniency).result = .ok reading) :
    (a.key leniency).result = .ok (reading.map Reading.key) :=
  Action.result_bind_eq_ok_iff.mpr ⟨reading, h, rfl⟩

end DateProperty

namespace Property

/-- A property that can be compared: a literal one, or a date property that can be read, from a
clock that shows a moment only once if it reads as a time. -/
inductive Comparable (leniency : Leniency) : Property → Prop
  | literal (property : LiteralProperty) : Comparable leniency (.literal property)
  | dated (property : DateProperty) (reading : Option Reading)
      (hread : (property.read leniency).result = .ok reading)
      (hclock : ∀ found ∈ reading, found.ShownOnce) : Comparable leniency (.dated property)

/-- What a property is compared by, if it can be read: a literal one by itself, and a date property
by its reading. -/
def identity? (leniency : Leniency) : Property → Option (LiteralProperty ⊕ Option Reading.Identity)
  | literal property => some (.inl property)
  | dated property =>
    match (property.read leniency).result with
    | .ok reading => some (.inr (reading.map Reading.identity))
    | .error _ => none

variable {leniency : Leniency}

theorem identity?_literal (property : LiteralProperty) :
    (literal property).identity? leniency = some (.inl property) := rfl

theorem identity?_of_read {property : DateProperty} {reading : Option Reading}
    (h : (property.read leniency).result = .ok reading) :
    (dated property).identity? leniency = some (.inr (reading.map Reading.identity)) := by
  rw [identity?, h]

/-- Date properties that can be read are equal if their readings agree, whichever is read first. -/
theorem agrees_dated_of_read {a b : DateProperty} {x y : Option Reading}
    (ha : (a.read leniency).result = .ok x) (hb : (b.read leniency).result = .ok y) :
    ((dated a).agrees leniency (dated b)).result = .ok (Reading.bothAgree x y) := by
  rw [agrees]
  -- A property restricted to UTC is read first wherever it stands.
  split
  · exact DateProperty.agrees_eq_ok_iff.mpr ⟨y, x, hb, ha, Reading.bothAgree_comm y x⟩
  · exact DateProperty.agrees_eq_ok_iff.mpr ⟨x, y, ha, hb, rfl⟩

/-- Date properties that are equal can be read and are compared by the same. -/
theorem map_identity_eq_of_agrees {a b : DateProperty}
    (h : ((dated a).agrees leniency (dated b)).result = .ok true) :
    ∃ x y, (a.read leniency).result = .ok x ∧ (b.read leniency).result = .ok y ∧
      x.map Reading.identity = y.map Reading.identity := by
  rw [agrees] at h
  split at h
  · obtain ⟨y, x, hb, ha, hagree⟩ := DateProperty.agrees_eq_ok_iff.mp h
    exact ⟨x, y, ha, hb, (Reading.map_identity_eq_of_bothAgree hagree).symm⟩
  · obtain ⟨x, y, ha, hb, hagree⟩ := DateProperty.agrees_eq_ok_iff.mp h
    exact ⟨x, y, ha, hb, Reading.map_identity_eq_of_bothAgree hagree⟩

/-- Properties that can be compared are equal exactly if they are compared by the same. -/
theorem result_agrees {a b : Property} (ha : a.Comparable leniency) (hb : b.Comparable leniency) :
    (a.agrees leniency b).result = .ok (decide (a.identity? leniency = b.identity? leniency)) := by
  cases ha with
  | literal p =>
    cases hb with
    | literal q =>
      have hsame : ((literal p).agrees leniency (literal q)).result = .ok (decide (p = q)) := rfl
      rw [hsame, identity?_literal, identity?_literal]
      simp only [Option.some.injEq, Sum.inl.injEq]
    | dated q y hy hclock =>
      have hfalse : ((literal p).agrees leniency (dated q)).result = .ok false := rfl
      rw [hfalse, identity?_literal, identity?_of_read hy]
      simp
  | dated p x hx hclockX =>
    cases hb with
    | literal q =>
      have hfalse : ((dated p).agrees leniency (literal q)).result = .ok false := rfl
      rw [hfalse, identity?_literal, identity?_of_read hx]
      simp
    | dated q y hy hclockY =>
      rw [agrees_dated_of_read hx hy, identity?_of_read hx, identity?_of_read hy]
      refine congrArg Except.ok (Bool.eq_iff_iff.mpr ?_)
      rw [Reading.bothAgree_iff_map_identity_eq hclockX, decide_eq_true_iff, Option.some.injEq,
        Sum.inr.injEq]

/-- Among the properties that can be compared, equality can always be decided and is an equivalence,
whatever their kinds; and date properties that are equal have the same key. -/
theorem agrees_equivalence (leniency : Leniency) :
    (∀ a b : { property // Comparable leniency property },
        ∃ answer, (a.val.agrees leniency b.val).result = .ok answer) ∧
      Equivalence (fun a b : { property // Comparable leniency property } =>
        (a.val.agrees leniency b.val).result = .ok true) ∧
      ∀ a b : DateProperty, ((dated a).agrees leniency (dated b)).result = .ok true →
        ∃ key, ((dated a).key leniency).result = .ok key ∧
          ((dated b).key leniency).result = .ok key := by
  -- Equality is that of what the properties are compared by.
  have hequal (a b : { property // Comparable leniency property }) :
      (a.val.agrees leniency b.val).result = .ok true ↔
        a.val.identity? leniency = b.val.identity? leniency := by
    rw [result_agrees a.property b.property]
    simp
  refine ⟨fun a b => ⟨_, result_agrees a.property b.property⟩, ⟨?_, ?_, ?_⟩, ?_⟩
  · intro a
    exact (hequal a a).mpr rfl
  · intro a b hab
    exact (hequal b a).mpr ((hequal a b).mp hab).symm
  · intro a b c hab hbc
    exact (hequal a c).mpr (((hequal a b).mp hab).trans ((hequal b c).mp hbc))
  · intro a b hab
    obtain ⟨x, y, ha, hb, hidentity⟩ := map_identity_eq_of_agrees hab
    refine ⟨_, DateProperty.key_eq_ok_of_read ha, ?_⟩
    rw [Reading.map_key_eq_of_map_identity_eq hidentity]
    exact DateProperty.key_eq_ok_of_read hb

/-! ## Times in zones of the database -/

/-- The property of a time in UTC, with the given parameters. -/
def inUtc (name : String) (parameters : List Parameter) (wall : LocalTime) : DateProperty :=
  ⟨.any, name, parameters, some (.utc wall false), .standard⟩

/-- The property of a local time in a zone of the database. -/
def inZone (name tzid : String) (wall : LocalTime) : DateProperty :=
  ⟨.any, name, [Parameter.of Parameter.tzidName tzid],
    some (.zoned ⟨wall, false, .named tzid⟩ tzid), .standard⟩

section Database

variable {name tzid : String} {wall : LocalTime}

theorem read_inUtc : ((inUtc name [] wall).read .strict).result =
    .ok (some (.time ⟨wall, false, .utc⟩)) := rfl

/-- A time in UTC with a TZID parameter is read as the clock of that zone shows it. -/
theorem read_inUtc_of_tzid {shown : ZonedTime} (hname : ZoneDatabase.isName tzid = true)
    (hshown : (ZonedTime.mk wall false .utc).inZone? (.named tzid) = some shown) :
    ((inUtc name [Parameter.of Parameter.tzidName tzid] wall).read .strict).result =
      .ok (some (.time shown)) :=
  DateProperty.read_of_shown rfl rfl (DateProperty.tzid_of rfl)
    (ZoneRegistry.resolveInDatabase_of_isName rfl hname) hshown

theorem read_inZone (hname : ZoneDatabase.isName tzid = true) :
    ((inZone name tzid wall).read .strict).result =
      .ok (some (.time ⟨wall, false, .named tzid⟩)) :=
  DateProperty.read_of_shown rfl rfl (DateProperty.tzid_of rfl)
    (ZoneRegistry.resolveInDatabase_of_isName rfl hname) (ZonedTime.inZone?_self _)

theorem comparable_inUtc : Comparable .strict (dated (inUtc name [] wall)) := by
  refine .dated _ _ read_inUtc ?_
  rintro _ ⟨⟩
  exact Zone.showsOnce_utc

theorem comparable_inZone (hname : ZoneDatabase.isName tzid = true) :
    Comparable .strict (dated (inZone name tzid wall)) := by
  refine .dated _ _ (read_inZone hname) ?_
  rintro _ ⟨⟩
  exact Zone.showsOnce_named tzid

end Database

/-- An hour and a minute of a day. -/
def onDay (date : Date) (hour minute : Nat) : LocalTime :=
  ⟨date, TimeOfDay.midnight.atSecond (3600 * hour + 60 * minute)⟩

/-- A day in summer. -/
def summerDay : Date :=
  ⟨2023, 6, 15, by decide, by decide, by decide⟩

/-- Nine in the morning in New York, on that day. -/
def newYorkMorning : DateProperty :=
  inZone "DTSTART" "America/New_York" (onDay summerDay 9 0)

/-- Two in the afternoon in London, on that day. -/
def londonAfternoon : DateProperty :=
  inZone "DTEND" "Europe/London" (onDay summerDay 14 0)

/-- One in the afternoon in UTC, on that day. -/
def utcAfternoon : DateProperty :=
  inUtc "DTSTAMP" [] (onDay summerDay 13 0)

/-- Two properties that equal a third, each in its zone, are equal and have one key. -/
theorem agrees_equivalence_threeZones :
    ((dated newYorkMorning).agrees .strict (dated londonAfternoon)).result = .ok true ∧
      ((dated londonAfternoon).agrees .strict (dated utcAfternoon)).result = .ok true ∧
      ((dated newYorkMorning).agrees .strict (dated utcAfternoon)).result = .ok true ∧
      ∃ key, ((dated newYorkMorning).key .strict).result = .ok key ∧
        ((dated utcAfternoon).key .strict).result = .ok key := by
  have hnewYork : ZoneDatabase.isName "America/New_York" = true := by decide +kernel
  have hlondon : ZoneDatabase.isName "Europe/London" = true := by decide +kernel
  have hwest : ((dated newYorkMorning).agrees .strict (dated londonAfternoon)).result =
      .ok true := by
    rw [newYorkMorning, londonAfternoon,
      agrees_dated_of_read (read_inZone hnewYork) (read_inZone hlondon)]
    exact congrArg Except.ok (by decide +kernel)
  have heast : ((dated londonAfternoon).agrees .strict (dated utcAfternoon)).result =
      .ok true := by
    rw [londonAfternoon, utcAfternoon, agrees_dated_of_read (read_inZone hlondon) read_inUtc]
    exact congrArg Except.ok (by decide +kernel)
  obtain ⟨-, hequivalence, hkey⟩ := agrees_equivalence .strict
  have hacross : ((dated newYorkMorning).agrees .strict (dated utcAfternoon)).result =
      .ok true :=
    hequivalence.trans (x := ⟨_, comparable_inZone hnewYork⟩)
      (y := ⟨_, comparable_inZone hlondon⟩) (z := ⟨_, comparable_inUtc⟩) hwest heast
  exact ⟨hwest, heast, hacross, hkey _ _ hacross⟩

/-! ## Times and moments -/

/-- Two properties that read as times are equal exactly if the times denote the same moment, as far
as neither depends on its fold, where a clock that both are read from shows a moment only once. If
one does, they are equal exactly if one clock shows the same local time for both. -/
theorem agrees_iff_sameMoment {a b : DateProperty} {s t : ZonedTime}
    (ha : (a.read leniency).result = .ok (some (.time s)))
    (hb : (b.read leniency).result = .ok (some (.time t)))
    (hclock : s.zone = t.zone → s.zone.ShowsOnce) :
    ((dated a).agrees leniency (dated b)).result = .ok true ↔
      if s.dependsOnFold || t.dependsOnFold then s.zone = t.zone ∧ s.wall = t.wall
      else s.SameMoment t := by
  rw [agrees_dated_of_read ha hb, Except.ok.injEq]
  change s.agrees t = true ↔ _
  split
  next hfold => exact ZonedTime.agrees_iff_of_dependsOnFold (by simpa using hfold)
  next hfold =>
    simp only [Bool.or_eq_true, not_or, Bool.not_eq_true] at hfold
    exact ZonedTime.agrees_iff_of_not_dependsOnFold hfold.1 hfold.2 hclock

/-- In summer a property of New York and one of UTC are equal because their moments are. -/
theorem agrees_iff_sameMoment_summer :
    ∃ s t : ZonedTime, (newYorkMorning.read .strict).result = .ok (some (.time s)) ∧
      (utcAfternoon.read .strict).result = .ok (some (.time t)) ∧ s.SameMoment t ∧
      ((dated newYorkMorning).agrees .strict (dated utcAfternoon)).result = .ok true := by
  have hnewYork : ZoneDatabase.isName "America/New_York" = true := by decide +kernel
  refine ⟨_, _, read_inZone hnewYork, read_inUtc, by decide +kernel, ?_⟩
  refine (agrees_iff_sameMoment (read_inZone hnewYork) read_inUtc ?_).mpr (by decide +kernel)
  exact fun _ => Zone.showsOnce_named _

/-- The day on which the clocks in New York are set back from two to one. -/
def setBackDay : Date :=
  ⟨2023, 11, 5, by decide, by decide, by decide⟩

/-- Half past one in New York on that day. -/
def newYorkSetBack : DateProperty :=
  inZone "DTSTART" "America/New_York" (onDay setBackDay 1 30)

/-- Half past five in UTC on that day. -/
def utcSetBack : DateProperty :=
  inUtc "DTSTART" [] (onDay setBackDay 5 30)

/-- Half past five in UTC on that day, to be read in New York. -/
def beforeSetBack : DateProperty :=
  inUtc "DTSTART" [Parameter.of Parameter.tzidName "America/New_York"] (onDay setBackDay 5 30)

/-- Half past six in UTC on that day, to be read in New York. -/
def afterSetBack : DateProperty :=
  inUtc "DTSTART" [Parameter.of Parameter.tzidName "America/New_York"] (onDay setBackDay 6 30)

/-- Half past one in New York denotes the same moment as half past five in UTC, but the two are not
equal; half past five and half past six in UTC do not denote the same moment, but are equal if both
are read in New York. -/
theorem not_agrees_iff_sameMoment_setBack :
    (∃ s t : ZonedTime, (newYorkSetBack.read .strict).result = .ok (some (.time s)) ∧
        (utcSetBack.read .strict).result = .ok (some (.time t)) ∧ s.SameMoment t ∧
        ((dated newYorkSetBack).agrees .strict (dated utcSetBack)).result = .ok false) ∧
      ∃ s t : ZonedTime, (beforeSetBack.read .strict).result = .ok (some (.time s)) ∧
        (afterSetBack.read .strict).result = .ok (some (.time t)) ∧ ¬s.SameMoment t ∧
        ((dated beforeSetBack).agrees .strict (dated afterSetBack)).result = .ok true := by
  have hname : ZoneDatabase.isName "America/New_York" = true := by decide +kernel
  constructor
  · refine ⟨_, _, read_inZone hname, read_inUtc, by decide +kernel, ?_⟩
    rw [newYorkSetBack, utcSetBack, agrees_dated_of_read (read_inZone hname) read_inUtc]
    exact congrArg Except.ok (by decide +kernel)
  · -- The clock in New York shows half past one for both.
    have hbefore : (beforeSetBack.read .strict).result =
        .ok (some (.time ⟨onDay setBackDay 1 30, false, .named "America/New_York"⟩)) :=
      read_inUtc_of_tzid hname (by decide +kernel)
    have hafter : (afterSetBack.read .strict).result =
        .ok (some (.time ⟨onDay setBackDay 1 30, true, .named "America/New_York"⟩)) :=
      read_inUtc_of_tzid hname (by decide +kernel)
    refine ⟨_, _, hbefore, hafter, by decide +kernel, ?_⟩
    rw [agrees_dated_of_read hbefore hafter]
    exact congrArg Except.ok (by decide +kernel)

end Property

end ContentLine
