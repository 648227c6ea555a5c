import PenPlotter.Motor.Basic

/-! A motor that writes down what it is told and reports what it was set to report. -/

namespace PenPlotter.Motor

structure Recorded where
  /-- Commands that start or stop a motion, in the order received. -/
  commands : List String := []
  position : Raw := .zero
  state : State := .idle
  connected : Bool := true
  /-- When present, every call fails with this text. -/
  failure : Option String := none
  polarity : Option Polarity := none
  duty : Option Int := none
  speed : Option Int := none
  target : Option Raw := none
  stopAction : Option StopAction := none
  deriving DecidableEq, Repr

namespace Recorded

def disconnected : Recorded := { connected := false }

/-- Why a call is refused, if it is; a set failure comes before a missing connection. -/
def refusal? (m : Recorded) : Option DeviceError :=
  match m.failure with
  | some reason => some (.other reason)
  | none => if m.connected then none else some (.other "motor not connected")

/-- The commands received, written one after the other. -/
def commandLine (m : Recorded) : String := String.join m.commands

def record (m : Recorded) (word : String) : Recorded := { m with commands := m.commands ++ [word] }

def obey (m : Recorded) : Command → Recorded
  | .reset => { m.record "reset" with position := .zero, state := .idle }
  | .polarity value => { m with polarity := some value }
  | .dutyCycle percent => { m with duty := some percent }
  | .runDirect => m.record "run-direct"
  | .stop => m.record "stop"
  | .speed ticksPerSecond => { m with speed := some ticksPerSecond }
  | .target position => { m with target := some position }
  | .stopAction value => { m with stopAction := some value }
  | .runToTarget => m.record "run-to-abs-pos"

/-- Answers a call, or refuses it and leaves the motor alone. -/
def answer (f : Recorded → α × Recorded) : Call Recorded α := fun m =>
  match m.refusal? with
  | some error => .error error m
  | none => let (value, m) := f m; .ok value m

instance : Motor Recorded where
  perform _ command := answer fun m => ((), m.obey command)
  position _ := answer fun m => (m.position, m)
  state _ := answer fun m => (m.state, m)
  connected m := m.connected

end Recorded
end PenPlotter.Motor
