import ContentLine.Event

/-!
# Leniency

Two switches for content from producers that do not keep to the standard: names without a factory
may be built, and Windows names of zones may be resolved. A mode turns switches on for a while;
leaving it gives the switches it turned on their former positions back.

## Main definitions

- `Leniency`: the positions of the two switches.
- `Leniency.Mode`: what can be turned on, directly or by the producer of a calendar.
- `Leniency.enter`, `Leniency.leave`: the positions inside a mode, and after it.

## Main statements

- `Leniency.leave_enter`: a mode that is left at once changes nothing.
-/

namespace ContentLine

/-- The positions of the switches. -/
structure Leniency where
  /-- Names without a factory may be built. -/
  anyName : Bool
  /-- Windows names of zones are resolved. -/
  windowsZones : Bool
deriving DecidableEq, Repr

namespace Leniency

/-- Both switches off. -/
def strict : Leniency :=
  ⟨false, false⟩

/-- What can be turned on. -/
inductive Mode where
  /-- Allow names without a factory. -/
  | anyName
  /-- Resolve Windows names of zones. -/
  | windowsZones
  /-- Do both if the product identifier of the calendar is that of a lenient producer. -/
  | producer (prodid : Option String)
deriving DecidableEq, Repr

/-- The words by which a product identifier shows that leniency is needed. -/
def lenientProducer : String := "Microsoft Exchange Server"

/-- Whether a text occurs in another. -/
def occursIn (part : List Char) : List Char → Bool
  | [] => part.isEmpty
  | c :: rest => part.isPrefixOf (c :: rest) || occursIn part rest

/-- Whether the producer with a product identifier needs leniency. -/
def needsLeniency (prodid : Option String) : Bool :=
  prodid.any fun text => occursIn lenientProducer.toList text.toList

/-- The switches that a mode turns on. -/
def Mode.switches : Mode → Leniency
  | .anyName => ⟨true, false⟩
  | .windowsZones => ⟨false, true⟩
  | .producer prodid => if needsLeniency prodid then ⟨true, true⟩ else ⟨false, false⟩

/-- The note that entering a mode writes. -/
def Mode.note? : Mode → Option Note
  | .anyName | .windowsZones => none
  | .producer prodid => some (if needsLeniency prodid then .lenientProducer else .strictProducer)

/-- The positions inside a mode. -/
def enter (outside : Leniency) (mode : Mode) : Leniency where
  anyName := outside.anyName || mode.switches.anyName
  windowsZones := outside.windowsZones || mode.switches.windowsZones

/-- The positions after a mode that was entered from `outside` and is left from `inside`. -/
def leave (inside : Leniency) (mode : Mode) (outside : Leniency) : Leniency where
  anyName := if mode.switches.anyName then outside.anyName else inside.anyName
  windowsZones := if mode.switches.windowsZones then outside.windowsZones else inside.windowsZones

/-- A mode that is left at once changes nothing. -/
@[simp] theorem leave_enter (outside : Leniency) (mode : Mode) :
    (outside.enter mode).leave mode outside = outside := by
  rcases outside with ⟨anyName, windowsZones⟩
  simp only [leave, enter, mk.injEq]
  constructor <;> split <;> simp_all

end Leniency

end ContentLine
