import PenPlotter.Decimal.Text
import PenPlotter.Motor.Scalar
import PenPlotter.Text.Quoted

/-! A motor that exists as numbers only. It integrates its commanded velocity over the time between
calls; its carriage cannot leave the travel of its axis, and while it pushes against an end of it
the motor reports a stall. Every call but the choice of a stop action first moves the carriage up
to the instant of the call. -/

namespace PenPlotter.Motor

/-- Mechanical ends of an axis and the place of its carriage at power-on. -/
structure Travel where
  lower : Physical
  upper : Physical
  start : Physical := .zero
  deriving DecidableEq, Repr

/-- A travel whose ends are in the wrong order. -/
structure EmptyTravel where
  lower : Physical
  upper : Physical
  deriving DecidableEq, Repr

def EmptyTravel.message (error : EmptyTravel) : String :=
  "min > max. min = " ++ error.lower.text ++ ", max = " ++ error.upper.text

/-- What a simulated motor is doing. -/
inductive Drive where
  | idle
  | holding
  /-- Running at its duty cycle. -/
  | direct
  /-- Running to its target. -/
  | toTarget
  deriving DecidableEq, Repr

def Drive.label : Drive → String
  | .idle => "Idle"
  | .holding => "Holding"
  | .direct => "Direct"
  | .toTarget => "ToTarget"

structure Simulated (R : Type) where
  name : String
  lower : Physical
  upper : Physical
  /-- Speed without load, in ticks per second for each percent of duty cycle. -/
  ticksPerDuty : R
  connected : Bool
  /-- Where the carriage is. -/
  carriage : R
  /-- Where the carriage is when the encoder reads 0. -/
  encoderZero : R
  drive : Drive := .idle
  stalled : Bool := false
  /-- The instant up to which the motion has been integrated. -/
  updated : Nat
  duty : Int := 0
  speed : Int := 0
  target : Raw := .zero
  polarity : Polarity := .normal
  stopAction : StopAction := .coast

namespace Simulated

variable {R : Type} [Scalar R]

/-- A motor at power-on. -/
def powerOn (name : String) (travel : Travel) (ticksPerDuty : R) (connected : Bool) (now : Nat) :
    Except EmptyTravel (Simulated R) :=
  if h : travel.lower ≤ travel.upper then
    let start := Scalar.ofInt (travel.start.clamp travel.lower travel.upper h).ticks
    .ok {
      name, lower := travel.lower, upper := travel.upper, ticksPerDuty, connected
      carriage := start, encoderZero := start, updated := now }
  else .error ⟨travel.lower, travel.upper⟩

/-- One with the sign in which the encoder counts. -/
def direction (m : Simulated R) : R :=
  match m.polarity with
  | .normal => Scalar.ofInt 1
  | .inversed => Scalar.ofInt (-1)

/-- Puts the carriage at a place or at the end of the travel before it, and tells whether an end was
in the way. -/
def moveTo (m : Simulated R) (place : R) : Simulated R × Bool :=
  let lower := Scalar.ofInt m.lower.ticks
  let upper := Scalar.ofInt m.upper.ticks
  if Scalar.lt place lower then ({ m with carriage := lower }, true)
  else if Scalar.lt upper place then ({ m with carriage := upper }, true)
  else ({ m with carriage := place }, false)

/-- What the motor does when it is left to its stop action. -/
def resting (m : Simulated R) : Drive :=
  if m.stopAction = .hold then .holding else .idle

/-- Runs into a place; an end of the travel in the way is a stall. -/
def push (m : Simulated R) (place : R) : Simulated R :=
  match m.moveTo place with
  | (m, true) => { m with stalled := true }
  | (m, false) => m

/-- The motion of a positive length of time. -/
def travelFor (m : Simulated R) (time : Nat) : Simulated R :=
  let elapsed := Scalar.seconds (R := R) time
  match m.drive with
  | .idle | .holding => m
  | .direct =>
    let velocity := m.direction * Scalar.ofInt m.duty * m.ticksPerDuty
    if Scalar.isZero velocity then m else m.push (m.carriage + velocity * elapsed)
  | .toTarget =>
    let goal := m.encoderZero + m.direction * Scalar.ofInt m.target.ticks
    let step := Scalar.ofInt m.speed.natAbs * elapsed
    let distance := goal - m.carriage
    if Scalar.le (Scalar.abs distance) step then
      match m.moveTo goal with
      | (m, true) => { m with stalled := true }
      | (m, false) => { m with drive := m.resting, stalled := false }
    else m.push (m.carriage + step * Scalar.sign distance)

/-- Moves the carriage up to an instant. -/
def advance (m : Simulated R) (now : Nat) : Simulated R :=
  let time := now - m.updated
  let m := { m with updated := now }
  if time = 0 then m else m.travelFor time

/-- Why a command is refused, if it is. -/
def refusal? (m : Simulated R) (command : Command) : Option DeviceError :=
  if m.connected then
    match command with
    | .dutyCycle percent =>
      if -100 ≤ percent ∧ percent ≤ 100 then none
      else some (.invalidValue ("duty cycle " ++ toString percent ++ " outside -100..=100"))
    | _ => none
  else some (.disconnected m.name)

/-- The effect of a command on a motor that is up to date. -/
def obey (m : Simulated R) : Command → Simulated R
  | .reset =>
    { m with
      drive := .idle, stalled := false, encoderZero := m.carriage, duty := 0, speed := 0
      target := .zero, polarity := .normal, stopAction := .coast }
  | .polarity value => { m with polarity := value }
  | .dutyCycle percent => { m with duty := percent }
  | .runDirect => { m with drive := .direct, stalled := false }
  | .stop => { m with drive := m.resting, stalled := false }
  | .speed ticksPerSecond => { m with speed := ticksPerSecond }
  | .target position => { m with target := position }
  | .stopAction value => { m with stopAction := value }
  | .runToTarget => { m with drive := .toTarget, stalled := false }

/-- Whether a command acts on the motion that is under way. -/
def needsUpdate : Command → Bool
  | .stopAction _ => false
  | _ => true

def perform (now : Nat) (command : Command) : Call (Simulated R) Unit := fun m =>
  match m.refusal? command with
  | some error => .error error m
  | none => .ok () ((if needsUpdate command then m.advance now else m).obey command)

/-- What the encoder reads. -/
def encoder (m : Simulated R) : Raw :=
  .saturate (Scalar.round (m.direction * (m.carriage - m.encoderZero)))

/-- The state line of the drive. -/
def report (m : Simulated R) : State :=
  match m.drive with
  | .direct | .toTarget => if m.stalled then .runningStalled else .running
  | .holding => .holding
  | .idle => .idle

def position (now : Nat) : Call (Simulated R) Raw := fun m =>
  if m.connected then let m := m.advance now; .ok m.encoder m
  else .error (.disconnected m.name) m

def state (now : Nat) : Call (Simulated R) State := fun m =>
  if m.connected then let m := m.advance now; .ok m.report m
  else .error (.disconnected m.name) m

/-- Where the carriage is, to the nearest tick. A disconnected motor has a carriage too. -/
def place (now : Nat) (m : Simulated R) : Physical × Simulated R :=
  let m := m.advance now
  (.saturate (Scalar.round m.carriage), m)

instance : Motor (Simulated R) where
  perform := perform
  position := position
  state := state
  connected m := m.connected

end Simulated

/-- The motor as a record, for inspection. -/
def Simulated.inspect (m : Simulated Float) : String :=
  "SimulatedMotor \x7b name: " ++ Text.quoted m.name ++
    ", physical: " ++ Decimal.Layout.field.write (.ofFloat m.carriage) ++
    ", drive: " ++ m.drive.label ++ ", stalled: " ++ toString m.stalled ++ " \x7d"

end PenPlotter.Motor
