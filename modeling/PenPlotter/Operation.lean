import PenPlotter.Move

/-! Operations that take time: homing passes and moves. -/

namespace PenPlotter

inductive Operation where
  | homing (pass : Homing.Pass)
  | move (targets : Targets)
  deriving DecidableEq, Repr

/-- How an operation ends that is not broken off. -/
inductive Completion where
  | homed (outcome : Except Fault Calibration)
  | arrived

namespace Operation

variable {μ δ : Type} [Motor μ] [Display δ]

def poll : Operation → PlotterM μ δ (Progress Operation Completion)
  | .homing pass => do
    match ← pass.poll with
    | .again delay pass => return .again delay (.homing pass)
    | .done outcome => return .done (.homed outcome)
    | .dropped => return .dropped
  | .move targets => do
    match ← targets.poll with
    | .again delay targets => return .again delay (.move targets)
    | .done () => return .done .arrived
    | .dropped => return .dropped

end Operation
end PenPlotter
