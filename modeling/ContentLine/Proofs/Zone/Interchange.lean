import ContentLine.Proofs.Temporal.Agreement
import ContentLine.Zone.Excerpt
import ContentLine.Zone.Registry

/-!
# Zones that stand for each other

Where Windows names are resolved, an identifier is looked for among them before the database is
asked. Of these names a database has at most one, that of UTC, for which it is asked for `Etc/UTC`
instead. So the switch adds identifiers and takes none away, and the one that changes its zone gets
another that keeps the same time. All this holds of every database that has the two names of UTC
for what they are, and no other Windows name.

## Main definitions

* `Rules.KeepsUtc`: rules by which the offset is 0 at all times.
* `ZoneDatabase.KnowsUtc`: what is relied on of a database.
* `Zone.Interchangeable`: one zone, or two that keep the time of UTC.
* `ZoneRegistry.IsDatabase`: a registry answers as the database does, with any default.

## Main results

* `ZoneDatabase.knowsUtc_excerpt`: the excerpt can be relied on.
* `ZonedTime.agrees_of_interchangeable`, `ZonedTime.sameMoment_of_interchangeable`: a local time is
  the same in zones that stand for each other.
* `ZoneRegistry.resolve_interchangeable`, `ZoneRegistry.resolve_of_not_isName`: what the switch does
  to the names of the database, and to other identifiers.
-/

namespace ContentLine

/-! ## Windows names and names of the database -/

/-- Rules by which the offset is 0 at all times, so that no local time is repeated. -/
structure Rules.KeepsUtc (rules : Rules) : Prop where
  offsetAtWall_eq (wall : Int) (fold : Bool) : rules.offsetAtWall wall fold = 0
  offsetAtUtc_eq (utc : Int) : rules.offsetAtUtc utc = 0
  foldAtUtc_eq (utc : Int) : rules.foldAtUtc utc = false

theorem Rules.keepsUtc_constant : (Rules.constant 0).KeepsUtc where
  offsetAtWall_eq wall fold := offsetAtWall_constant 0 wall fold
  offsetAtUtc_eq utc := offsetAtUtc_constant 0 utc
  foldAtUtc_eq utc := foldAtUtc_constant 0 utc

namespace ZoneDatabase

/-- What is relied on of a database where Windows names are resolved. -/
structure KnowsUtc [ZoneDatabase] : Prop where
  /-- Of the Windows names only `UTC` is a name of the database too. -/
  eq_utc_of_isName (name : String) (hwindows : (Zone.ofWindowsName? name).isSome = true)
    (hname : isName name = true) : name = "UTC"
  /-- UTC is listed under both its names, with offset 0 at all times. -/
  isName_utc : isName "UTC" = true
  isName_etcUtc : isName "Etc/UTC" = true
  keepsUtc_utc : (rules "UTC").KeepsUtc
  keepsUtc_etcUtc : (rules "Etc/UTC").KeepsUtc

end ZoneDatabase

theorem Zone.ofWindowsName?_utc : ofWindowsName? "UTC" = some "Etc/UTC" := by
  decide +kernel

/-! ## The excerpt -/

namespace ZoneDatabase

/-- Whether a text has a blank, or starts with `UTC` and goes on. It is judged by its bytes, as 32
is the blank and 85, 84, 67 are the three letters. -/
def looksWindows (name : String) : Bool :=
  let bytes := name.toByteArray.data.toList
  bytes.contains 32 || ([85, 84, 67].isPrefixOf bytes && bytes.length != 3)

theorem looksWindows_names : ∀ name ∈ Zone.names, looksWindows name = false := by
  decide +kernel

theorem looksWindows_windowsNames :
    ∀ entry ∈ Zone.windowsNames, looksWindows entry.1 = true ∨ entry.1 = "UTC" := by
  decide +kernel

/-- The only Windows name that is a name of the excerpt too is that of UTC. -/
theorem eq_utc_of_mem_names {name : String} (hwindows : (Zone.ofWindowsName? name).isSome = true)
    (hname : name ∈ Zone.names) : name = "UTC" := by
  obtain ⟨key, hkey⟩ := Option.isSome_iff_exists.mp hwindows
  obtain ⟨earlier, later, hsplit, -⟩ := List.lookup_eq_some_iff.mp hkey
  have hentry : (name, key) ∈ Zone.windowsNames := hsplit ▸ List.mem_append_cons_self
  -- No name of the excerpt has the looks of a Windows name.
  have hlooks := looksWindows_names name hname
  rcases looksWindows_windowsNames _ hentry with h | h
  · rw [hlooks] at h
    cases h
  · exact h

/-- The excerpt can be relied on. -/
theorem knowsUtc_excerpt : KnowsUtc where
  eq_utc_of_isName _ hwindows hname := eq_utc_of_mem_names hwindows (List.contains_iff_mem.mp hname)
  isName_utc := by decide +kernel
  isName_etcUtc := by decide +kernel
  keepsUtc_utc := Rules.keepsUtc_constant
  keepsUtc_etcUtc := Rules.keepsUtc_constant

end ZoneDatabase

/-! ## Zones -/

namespace Zone

/-- Zones that can stand for each other: one zone, or two that keep the time of UTC. -/
def Interchangeable (a b : Zone) : Prop :=
  a = b ∨ a.rules.KeepsUtc ∧ b.rules.KeepsUtc

namespace Interchangeable

variable {a b c : Zone}

protected theorem refl (a : Zone) : a.Interchangeable a :=
  Or.inl rfl

protected theorem symm (h : a.Interchangeable b) : b.Interchangeable a := by
  rcases h with rfl | ⟨ha, hb⟩
  · exact .refl a
  · exact Or.inr ⟨hb, ha⟩

protected theorem trans (hab : a.Interchangeable b) (hbc : b.Interchangeable c) :
    a.Interchangeable c := by
  rcases hab with rfl | ⟨ha, hb⟩
  · exact hbc
  · rcases hbc with rfl | ⟨-, hc⟩
    · exact Or.inr ⟨ha, hb⟩
    · exact Or.inr ⟨ha, hc⟩

end Interchangeable

end Zone

/-! ## Times -/

namespace ZonedTime

variable {a b : Zone} {wall : LocalTime}

theorem dependsOnFold_of_keepsUtc {time : ZonedTime} (h : time.zone.rules.KeepsUtc) :
    time.dependsOnFold = false := by
  simp [dependsOnFold, offset, withFold, h.offsetAtWall_eq]

theorem sameMoment_of_interchangeable (h : a.Interchangeable b) (fold : Bool) :
    (ZonedTime.mk wall fold a).SameMoment ⟨wall, fold, b⟩ := by
  rcases h with rfl | ⟨ha, hb⟩
  · exact ⟨rfl, rfl⟩
  · exact ⟨by simp [utcSeconds, offset, ha.offsetAtWall_eq, hb.offsetAtWall_eq], rfl⟩

theorem agrees_of_interchangeable (h : a.Interchangeable b) (fold : Bool) :
    (ZonedTime.mk wall fold a).agrees ⟨wall, fold, b⟩ = true := by
  by_cases hzone : a = b
  · subst hzone
    exact agrees_self _
  · obtain ⟨ha, hb⟩ := h.resolve_left hzone
    exact (agrees_iff_of_zone_ne hzone).mpr ⟨sameMoment_of_interchangeable (Or.inr ⟨ha, hb⟩) fold,
      dependsOnFold_of_keepsUtc ha, dependsOnFold_of_keepsUtc hb⟩

/-- The first occurrence of a local time is shown as the same local time by a clock that stands for
the one it is read from. -/
theorem inZone?_of_interchangeable (h : a.Interchangeable b) :
    (ZonedTime.mk wall false a).inZone? b = some ⟨wall, false, b⟩ := by
  by_cases hzone : a = b
  · subst hzone
    exact inZone?_self _
  · obtain ⟨ha, hb⟩ := h.resolve_left hzone
    have hutc : (ZonedTime.mk wall false a).utcSeconds = wall.seconds := by
      simp [utcSeconds, offset, ha.offsetAtWall_eq]
    rw [inZone?, if_neg hzone, hutc, wall.atSeconds?_seconds]
    simp [ofUtc?, hb.offsetAtUtc_eq, hb.foldAtUtc_eq, wall.atSeconds?_seconds]

end ZonedTime

/-! ## Registries -/

namespace ZoneRegistry

/-- The name that the database is asked for. -/
def keyOf (leniency : Leniency) (tzid : String) : String :=
  if leniency.windowsZones then (Zone.ofWindowsName? tzid).getD tzid else tzid

variable [ZoneDatabase]

/-- The database has the answer for the name that it is asked for. -/
theorem result_resolveInDatabase (leniency : Leniency) (tzid : String) :
    (resolveInDatabase leniency tzid).result = find tzid (keyOf leniency tzid) := by
  rw [resolveInDatabase, keyOf]
  cases leniency.windowsZones with
  | false => rfl
  | true =>
    cases Zone.ofWindowsName? tzid with
    | none => rfl
    | some key => simp [Action.result_bind, Except.bind]

theorem find_of_isName {tzid key : String} (h : ZoneDatabase.isName key = true) :
    find tzid key = .ok (.named key) :=
  if_pos h

theorem find_of_not_isName {tzid key : String} (h : ZoneDatabase.isName key = false) :
    find tzid key = .error (.zone (.notInDatabase tzid)) := by
  rw [find, h]
  rfl

/-- A registry answers as the database does. Nothing is said of its default. -/
def IsDatabase (registry : ZoneRegistry) : Prop :=
  ∀ leniency tzid,
    (registry.resolve leniency tzid).result = (resolveInDatabase leniency tzid).result

theorem isDatabase_database (defaultTzid : String) : (database defaultTzid).IsDatabase :=
  fun _ _ => rfl

/-- A registry of the database stays one if its questions are recorded. -/
theorem IsDatabase.recorded {registry : ZoneRegistry} (h : registry.IsDatabase) (serial : Nat) :
    (registry.recorded serial).IsDatabase := by
  intro leniency tzid
  rw [← h leniency tzid]
  exact Action.result_bind _ _

variable {registry : ZoneRegistry} {leniency : Leniency} {tzid : String}

/-- A name of the database is resolved under every setting of the switches, to its zone or to one
that stands for it. -/
theorem resolve_of_isName (hutc : ZoneDatabase.KnowsUtc) (hregistry : registry.IsDatabase)
    (hname : ZoneDatabase.isName tzid = true) (leniency : Leniency) :
    ∃ zone, (registry.resolve leniency tzid).result = .ok zone ∧
      zone.Interchangeable (.named tzid) := by
  rw [hregistry, result_resolveInDatabase, keyOf]
  cases leniency.windowsZones with
  | false => exact ⟨.named tzid, find_of_isName hname, .refl _⟩
  | true =>
    cases hkey : Zone.ofWindowsName? tzid with
    | none => exact ⟨.named tzid, find_of_isName hname, .refl _⟩
    | some key =>
      -- Of the Windows names only that of UTC is a name of the database.
      obtain rfl : tzid = "UTC" :=
        hutc.eq_utc_of_isName tzid (Option.isSome_of_eq_some hkey) hname
      obtain rfl : "Etc/UTC" = key :=
        Option.some.inj (Zone.ofWindowsName?_utc.symm.trans hkey)
      exact ⟨.named "Etc/UTC", find_of_isName hutc.isName_etcUtc,
        Or.inr ⟨hutc.keepsUtc_etcUtc, hutc.keepsUtc_utc⟩⟩

/-- A name of the database that has a zone under one setting of the switches has under every other
one that stands for it. -/
theorem resolve_interchangeable (hutc : ZoneDatabase.KnowsUtc)
    (hregistry : registry.IsDatabase) (hname : ZoneDatabase.isName tzid = true) {zone : Zone}
    (hzone : (registry.resolve leniency tzid).result = .ok zone) (later : Leniency) :
    ∃ other, (registry.resolve later tzid).result = .ok other ∧ zone.Interchangeable other := by
  obtain ⟨found, hfound, hnamed⟩ := resolve_of_isName hutc hregistry hname leniency
  obtain ⟨other, hother, hothers⟩ := resolve_of_isName hutc hregistry hname later
  obtain rfl : found = zone := Except.ok.inj (hfound.symm.trans hzone)
  exact ⟨other, hother, hnamed.trans hothers.symm⟩

/-- An identifier that the database does not have is not resolved where Windows names are not. -/
theorem resolve_of_not_isName (hregistry : registry.IsDatabase)
    (hwindows : leniency.windowsZones = false) (hname : ZoneDatabase.isName tzid = false) :
    (registry.resolve leniency tzid).result = .error (.zone (.notInDatabase tzid)) := by
  rw [hregistry, result_resolveInDatabase, keyOf, hwindows]
  exact find_of_not_isName hname

/-- Where Windows names are not resolved, only the names of the database are. -/
theorem isName_of_resolve {zone : Zone} (hregistry : registry.IsDatabase)
    (hwindows : leniency.windowsZones = false)
    (h : (registry.resolve leniency tzid).result = .ok zone) : ZoneDatabase.isName tzid = true := by
  cases hname : ZoneDatabase.isName tzid with
  | true => rfl
  | false =>
    rw [resolve_of_not_isName hregistry hwindows hname] at h
    cases h

end ZoneRegistry

end ContentLine
