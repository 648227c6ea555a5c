import PenPlotter.Operation

/-! G-code commands: units and positioning modes, homing and moves. A command either replies at once
or starts an operation, whose completion is then turned into the reply. -/

namespace PenPlotter

inductive Gcode where
  /-- Move to the given coordinates, or by them in relative mode; `z` is the tool. -/
  | go (x y z : Option Float)
  | home
  | useMillimeters
  | useInches
  | absolute
  | relative

/-- What a command has come to when it is dispatched. -/
inductive Dispatched where
  | replied (reply : Except Fault Unit)
  | started (operation : Operation)

namespace Gcode

variable {μ δ : Type} [Motor μ] [Display δ]

/-- The raw position that a coordinate means: it is cut to whole steps and, in relative mode, added to
the position of the axis. -/
def coordinate (axis : Axis) (value : Float) : PlotterM μ δ Raw := do
  let c ← Plotter.calibrated
  let p ← get
  let steps := Position.truncate (value / p.steps.perStep axis p.modes.useMillimeters)
  let position ← if p.modes.relativeMoves then Plotter.advanceNormalized axis steps else pure steps
  return c.toRaw axis position

def coordinate? (axis : Axis) : Option Float → PlotterM μ δ (Option Raw)
  | some value => some <$> coordinate axis value
  | none => return none

def targets (x y z : Option Float) : PlotterM μ δ Targets := do
  let x ← coordinate? .x x
  let y ← coordinate? .y y
  let tool ← coordinate? .tool z
  return { x, y, tool }

def setModes (f : Modes → Modes) : PlotterM μ δ Dispatched := do
  modify fun p => { p with modes := f p.modes }
  return .replied (.ok ())

/-- Begins a command; homing puts back the screen `previous` at its end. -/
def dispatch (previous : Screen) : Gcode → PlotterM μ δ Dispatched
  | .go x y z => do
    if (← get).calibration.isNone then return .replied (.error .notHomed)
    else
      let targets ← targets x y z
      targets.start
      return .started (.move targets)
  | .home => return .started (.homing (← Homing.Pass.start previous))
  | .useMillimeters => setModes fun modes => { modes with useMillimeters := true }
  | .useInches => setModes fun modes => { modes with useMillimeters := false }
  | .absolute => setModes fun modes => { modes with relativeMoves := false }
  | .relative => setModes fun modes => { modes with relativeMoves := true }

/-- The reply to the command whose operation has completed. A successful homing pass replaces the
calibration. -/
def reply : Completion → PlotterM μ δ (Except Fault Unit)
  | .homed (.ok c) => do
    modify fun p => { p with calibration := some c }
    return .ok ()
  | .homed (.error fault) => return .error fault
  | .arrived => return .ok ()

end Gcode
end PenPlotter
