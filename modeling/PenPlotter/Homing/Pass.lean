import PenPlotter.Homing.Phase
import PenPlotter.Plotter

/-! A homing pass: the state machine together with the limits recorded so far. `start` begins a pass
and `poll` takes one look at the plotter and carries out what the machine asks for. -/

namespace PenPlotter

/-- What has come of one look at an operation. -/
inductive Progress (σ β : Type) where
  /-- The operation goes on and wants to be looked at after a delay. -/
  | again (delay : Nat) (operation : σ)
  | done (value : β)
  /-- The operation has ended without a value. -/
  | dropped
  deriving DecidableEq, Repr

namespace Homing

structure Pass where
  phase : Phase
  recorded : Calibration := {}
  /-- The screen to put back at the end. -/
  previous : Screen
  deriving DecidableEq, Repr

/-- What the effects of one look add up to. -/
structure Tally where
  recorded : Calibration
  /-- Time until the next look. -/
  delay : Nat
  outcome : Option (Except Fault Calibration) := none

namespace Pass

def progressMessage (leg : Leg) : Message := ⟨"Homing, please wait...", leg.progress, .stop⟩

def failureMessage (missing : List Axis) : Message :=
  ⟨"Homing failed :(", Axis.listed missing ++ " motor\nnot connected!", .stop⟩

def resultsMessage (c : Calibration) : Message := ⟨"Homing results:", c.report, .exit⟩

variable {μ δ : Type} [Motor μ] [Display δ]

/-- Without a motor that is needed, a pass only shows what is missing. -/
def start (previous : Screen) : PlotterM μ δ Pass := do
  match (← get).disconnectedAxes with
  | [] =>
    Plotter.present (.message (progressMessage .toolUp))
    return { phase := .start, previous }
  | missing =>
    Plotter.present (.message (failureMessage missing))
    return { phase := .closing (some (.disconnected missing)), previous }

/-- A look at the button and, unless it is pressed, at the motor that is watched. -/
def observe (phase : Phase) : PlotterM μ δ Observation := do
  let confirm ← Plotter.takeConfirm
  match phase.activeLeg? with
  | some leg =>
    if confirm then return { confirm }
    else
      let state ← Plotter.call leg.axis Motor.state
      if state.isStalled then return { stalledAt := some (← Plotter.readRaw leg.axis) }
      else return {}
  | none => return { confirm }

def carryOut (previous : Screen) (tally : Tally) : Effect → PlotterM μ δ Tally
  | .resetMotors => do
    Axis.all.forM fun axis => Plotter.command axis .reset
    return tally
  | .startLeg leg => do
    Plotter.command leg.axis (.polarity .normal)
    Plotter.command leg.axis (.dutyCycle leg.duty)
    Plotter.command leg.axis .runDirect
    Plotter.retext leg.progress
    return { tally with delay := (← get).motion.spinUp }
  | .stopMotor axis => do
    Plotter.command axis .stop
    return tally
  | .record limit position => return { tally with recorded := tally.recorded.set limit position }
  | .showResults => do
    Plotter.present (.message (resultsMessage tally.recorded))
    return tally
  | .restoreScreen => do
    Plotter.present previous
    return tally
  | .complete => return { tally with outcome := some (.ok tally.recorded) }
  | .fail fault => return { tally with outcome := some (.error fault) }

/-- One look at a pass. After a leg was started the next look waits for the motor to get moving. -/
def poll (pass : Pass) : PlotterM μ δ (Progress Pass (Except Fault Calibration)) := do
  let seen ← observe pass.phase
  let (phase, effects) ← Plotter.checked (pass.phase.next seen)
  let tally ← effects.foldlM (carryOut pass.previous) ⟨pass.recorded, (← get).motion.homingPoll, none⟩
  match tally.outcome with
  | some outcome => return .done outcome
  | none =>
    if phase.isTerminal then return .dropped
    else return .again tally.delay { pass with phase, recorded := tally.recorded }

end Pass
end Homing
end PenPlotter
