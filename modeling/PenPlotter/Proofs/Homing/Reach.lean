import PenPlotter.Proofs.Calibration
import PenPlotter.Proofs.Homing.Survey

/-! The limits that a survey finds, against the travels of the machine. They are the ends of the travels, each of them
moved inwards. On a short travel a limit comes to lie beyond the other end, where no motor reaches. -/

namespace PenPlotter

open Motor

/-- The lower end of a travel as an encoder reads it that reads 0 at the start. -/
def Machine.lowest (machine : Machine) (axis : Axis) : Raw :=
  .saturate ((machine.travel axis).lower.ticks - (machine.travel axis).start.ticks)

/-- The upper end of a travel as an encoder reads it that reads 0 at the start. -/
def Machine.highest (machine : Machine) (axis : Axis) : Raw :=
  .saturate ((machine.travel axis).upper.ticks - (machine.travel axis).start.ticks)

theorem Machine.ticks_lowest (machine : Machine) (axis : Axis) :
    (machine.lowest axis).ticks =
      max minTicks (min ((machine.travel axis).lower.ticks - (machine.travel axis).start.ticks) maxTicks) :=
  Position.ticks_saturate _

theorem Machine.ticks_highest (machine : Machine) (axis : Axis) :
    (machine.highest axis).ticks =
      max minTicks (min ((machine.travel axis).upper.ticks - (machine.travel axis).start.ticks) maxTicks) :=
  Position.ticks_saturate _

/-- A calibration whose limits are the ends of the travels, each of them moved inwards. -/
structure Calibration.Measures (machine : Machine) (c : Calibration) : Prop where
  toolUp : c.toolUp.ticks = (machine.lowest .tool).ticks + 20
  toolDown : c.toolDown.ticks = (machine.highest .tool).ticks - 15
  xMin : c.xMin.ticks = (machine.highest .x).ticks - 30
  xMax : c.xMax.ticks = (machine.lowest .x).ticks + 30
  yMin : c.yMin.ticks = (machine.lowest .y).ticks + 350
  yMax : c.yMax.ticks = (machine.highest .y).ticks - 30

theorem Calibration.Fits.measures {machine : Machine} {c : Calibration} (fits : c.Fits machine) :
    c.Measures machine where
  toolUp := fits .toolUp
  toolDown := fits .toolDown
  xMin := fits .xLeft
  xMax := fits .xRight
  yMin := fits .yMin
  yMax := fits .yMax

/-- The ticks that a travel must have so that no limit on its axis lies beyond the other end. -/
def Homing.clearance : Axis → Int
  | .tool => 20
  | .x => 30
  | .y => 350

/-- The travel of an axis is long enough for the limits on it. -/
def Machine.Roomy (machine : Machine) (axis : Axis) : Prop :=
  Homing.clearance axis ≤ (machine.travel axis).upper.ticks - (machine.travel axis).lower.ticks

instance (machine : Machine) (axis : Axis) : Decidable (machine.Roomy axis) := inferInstanceAs (Decidable (_ ≤ _))

/-- All that is between the limits of an axis is in reach of its motor, unless the travel is too short. -/
theorem Calibration.Fits.reaches_iff {machine : Machine} {c : Calibration} {axis : Axis} (fits : c.Fits machine)
    (sound : (machine.travel axis).Sound) :
    (∀ target, (c.interval axis).Holds target → (machine.travel axis).Reaches target) ↔ machine.Roomy axis := by
  have measures := fits.measures
  have above := sound.above
  have below := sound.below
  have lowest := machine.ticks_lowest axis
  have highest := machine.ticks_highest axis
  refine Interval.holds_within_iff.trans ?_
  unfold minTicks maxTicks at *
  cases axis with
  | tool =>
    have up := measures.toolUp
    have down := measures.toolDown
    simp only [interval,Homing.clearance,Machine.Roomy] at *
    omega
  | x =>
    have left := measures.xMin
    have right := measures.xMax
    simp only [interval,Homing.clearance,Machine.Roomy] at *
    omega
  | y =>
    have first := measures.yMin
    have last := measures.yMax
    simp only [interval,Homing.clearance,Machine.Roomy] at *
    omega

end PenPlotter
