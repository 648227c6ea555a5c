import PenPlotter.Clock
import PenPlotter.Fault
import PenPlotter.Motor.State

/-! The interface of a motor with an encoder. A motor is given commands and asked for its position
and state; every call says at which instant it is made and may be refused with a `DeviceError`. -/

namespace PenPlotter

namespace Motor

/-- Direction in which duty cycle and targets count. -/
inductive Polarity where
  | normal
  | inversed
  deriving DecidableEq, Repr

def Polarity.label : Polarity → String
  | .normal => "normal"
  | .inversed => "inversed"

/-- What a motor does once it has stopped or has reached its target. -/
inductive StopAction where
  | coast
  | brake
  | hold
  deriving DecidableEq, Repr

def StopAction.label : StopAction → String
  | .coast => "coast"
  | .brake => "brake"
  | .hold => "hold"

inductive Command where
  | reset
  | polarity (value : Polarity)
  /-- Duty cycle in percent of full power, with a sign for the direction. -/
  | dutyCycle (percent : Int)
  /-- Run at the set duty cycle until told otherwise. -/
  | runDirect
  | stop
  /-- Speed set-point in ticks per second. -/
  | speed (ticksPerSecond : Int)
  | target (position : Raw)
  | stopAction (value : StopAction)
  /-- Run at the set speed until the target is reached. -/
  | runToTarget
  deriving DecidableEq, Repr

/-- A call to a motor; a call that fails may still have changed it. -/
abbrev Call (μ α : Type) := EStateM DeviceError μ α

end Motor

class Motor (μ : Type) where
  perform : Nat → Motor.Command → Motor.Call μ Unit
  /-- Encoder position. -/
  position : Nat → Motor.Call μ Raw
  state : Nat → Motor.Call μ Motor.State
  connected : μ → Bool

end PenPlotter
