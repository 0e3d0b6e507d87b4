import ContentLine.Zone.Season

/-!
# Rules of a zone

The offsets of a zone over time: one before all shifts, a list of shifts, and optionally a season
that decides everything after the last listed shift.

## Main definitions

- `Rules`: the offsets of a zone.
- `Rules.constant`: a zone whose clocks never change.
- `Rules.offsetAtWall`: the offset that a wall time and a fold are read with.
- `Rules.offsetAtUtc`, `Rules.foldAtUtc`: the offset and the fold at a moment of UTC.

## Main statements

- `Rules.offsetAtWall_constant`, `Rules.offsetAtUtc_constant`, `Rules.foldAtUtc_constant`: a
  constant zone has one offset and repeats no wall time.
-/

namespace ContentLine

/-- The offsets of a zone over time. -/
structure Rules where
  /-- The offset before the first shift. -/
  first : Int
  /-- The moments of the listed shifts and the offset from each on, in ascending order. -/
  listed : List (Int × Int)
  /-- The rule in force after the last listed shift, if the offset goes on changing. -/
  season : Option Season
deriving DecidableEq, Repr

/-- The shifts to the given offsets, each with the offset it replaces. -/
def shiftsFrom (before : Int) : List (Int × Int) → List Shift
  | [] => []
  | (instant, after) :: rest => ⟨instant, before, after⟩ :: shiftsFrom after rest

/-- The offset after the last shift that has happened. -/
def offsetAfter (first : Int) (happened : Shift → Bool) (shifts : List Shift) : Int :=
  shifts.foldl (fun offset shift => if happened shift then shift.after else offset) first

namespace Rules

/-- The rules of clocks that never change. -/
def constant (offset : Int) : Rules :=
  ⟨offset, [], none⟩

/-- The listed shifts. -/
def shifts (rules : Rules) : List Shift :=
  shiftsFrom rules.first rules.listed

/-- The season, for a moment that lies after the last listed shift by the given test. -/
def seasonAfter? (rules : Rules) (isAfter : Shift → Bool) : Option Season :=
  match rules.shifts.getLast? with
  | some last => if isAfter last then rules.season else none
  | none => rules.season

/-- The offset that a wall time is read with. -/
def offsetAtWall (rules : Rules) (wall : Int) (fold : Bool) : Int :=
  -- The mark of the last shift itself still belongs to the list.
  match rules.seasonAfter? (·.wallMark fold < wall) with
  | some season => season.offsetAtWall wall fold
  | none => offsetAfter rules.first (·.wallMark fold ≤ wall) rules.shifts

/-- The offset at a moment of UTC. -/
def offsetAtUtc (rules : Rules) (utc : Int) : Int :=
  match rules.seasonAfter? (·.instant < utc) with
  | some season => season.offsetAtUtc utc
  | none => offsetAfter rules.first (·.instant ≤ utc) rules.shifts

/-- The last listed shift that has happened at a moment of UTC. -/
def lastShift? (rules : Rules) (utc : Int) : Option Shift :=
  (rules.shifts.filter (·.instant ≤ utc)).getLast?

/-- Whether a moment of UTC shows a wall time for the second time: the last listed shift or the
season repeats it. -/
def foldAtUtc (rules : Rules) (utc : Int) : Bool :=
  (rules.lastShift? utc).any (·.repeatsUnder (rules.offsetAtUtc utc) utc) ||
    (rules.seasonAfter? (·.instant < utc)).any (·.repeatsAt utc)

@[simp] theorem offsetAtWall_constant (offset wall : Int) (fold : Bool) :
    (constant offset).offsetAtWall wall fold = offset := rfl

@[simp] theorem offsetAtUtc_constant (offset utc : Int) :
    (constant offset).offsetAtUtc utc = offset := rfl

@[simp] theorem foldAtUtc_constant (offset utc : Int) :
    (constant offset).foldAtUtc utc = false := rfl

end Rules

end ContentLine
