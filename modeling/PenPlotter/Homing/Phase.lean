import PenPlotter.Fault
import PenPlotter.Homing.Leg

/-! Homing as a state machine. A phase and what one look at the plotter has found give the next phase
and the effects to be carried out, and nothing else happens. -/

namespace PenPlotter.Homing

inductive Phase where
  | start
  /-- The motor of a leg is running and watched for a stall. -/
  | running (leg : Leg)
  /-- Everything but the lowering of the tool is done. -/
  | beforeToolDown
  /-- Every limit is recorded. -/
  | recorded
  /-- The last screen waits to be dismissed. It shows the results or, if homing could not be run, the
  reason. -/
  | closing (failure : Option Fault)
  | completed
  | failed
  deriving DecidableEq, Repr

/-- What one look at the plotter has found. -/
structure Observation where
  /-- The confirm button was pressed since the last look. -/
  confirm : Bool := false
  /-- Position of the motor that is watched, if it is stalled. -/
  stalledAt : Option Raw := none
  deriving DecidableEq, Repr

inductive Effect where
  | resetMotors
  | startLeg (leg : Leg)
  | stopMotor (axis : Axis)
  | record (limit : Limit) (position : Raw)
  | showResults
  /-- Puts back the screen that was shown before homing. -/
  | restoreScreen
  | complete
  | fail (fault : Fault)
  deriving DecidableEq, Repr

namespace Phase

/-- The leg whose motor is watched. -/
def activeLeg? : Phase → Option Leg
  | .running leg => some leg
  | _ => none

def isTerminal : Phase → Bool
  | .completed | .failed => true
  | _ => false

/-- What follows a leg: the next one is started at once, but the tool is lowered only at the next
look. -/
def afterLeg : Leg → Phase × List Effect
  | .toolUp => (.running .xLeft, [.startLeg .xLeft])
  | .xLeft => (.running .xRight, [.startLeg .xRight])
  | .xRight => (.running .yMin, [.startLeg .yMin])
  | .yMin => (.running .yMax, [.startLeg .yMax])
  | .yMax => (.beforeToolDown, [])
  | .toolDown => (.recorded, [])

/-- A confirm cancels homing until the results are shown and dismisses the last screen then. -/
def next (phase : Phase) (seen : Observation) : Except Overflow (Phase × List Effect) :=
  match phase with
  | .completed => .ok (.completed, [])
  | .failed => .ok (.failed, [])
  | .closing failure =>
    if seen.confirm then
      match failure with
      | none => .ok (.completed, [.restoreScreen, .complete])
      | some fault => .ok (.failed, [.restoreScreen, .fail fault])
    else .ok (.closing failure, [])
  | phase =>
    if seen.confirm then .ok (.failed, [.restoreScreen, .fail .homingCancelled])
    else
      match phase with
      | .start => .ok (.running .toolUp, [.resetMotors, .startLeg .toolUp])
      | .beforeToolDown => .ok (.running .toolDown, [.startLeg .toolDown])
      | .recorded => .ok (.closing none, [.showResults])
      | .running leg =>
        match seen.stalledAt with
        | none => .ok (.running leg, [])
        | some stalledAt => do
          let position ← leg.compensate stalledAt
          let (following, effects) := afterLeg leg
          .ok (following, [.record leg.limit position, .stopMotor leg.axis] ++ effects)
      | phase => .ok (phase, [])

end Phase
end PenPlotter.Homing
