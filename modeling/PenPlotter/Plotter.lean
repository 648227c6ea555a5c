import PenPlotter.Calibration
import PenPlotter.Display.Basic

/-! The plotter itself: three motors, a display, the calibration of the last homing pass and the
modes and constants of motion. Code that works on a plotter is a `PlotterM` program, which knows the
instant at which it runs and keeps what it has done when it fails. -/

namespace PenPlotter

/-- Speed and times of homing and of moves. -/
structure Motion where
  /-- Speed of a move, in ticks per second. -/
  goSpeed : Int := 200
  /-- Time between two looks at a move. -/
  goPoll : Nat := milliseconds 200
  /-- Time between two looks at a homing leg. -/
  homingPoll : Nat := milliseconds 10
  /-- Time that a leg is given to get moving before the first look. -/
  spinUp : Nat := milliseconds 300
  deriving DecidableEq, Repr

/-- Length of one normalized step in either system of units. -/
structure StepLengths where
  millimeters : PerAxis Float
  inches : PerAxis Float

namespace StepLengths

def standard : StepLengths where
  millimeters := ⟨0.1, 0.1, 0.1⟩
  inches := ⟨0.00397, 0.00397, 0.00397⟩

instance : Inhabited StepLengths := ⟨standard⟩

def perStep (lengths : StepLengths) (axis : Axis) (useMillimeters : Bool) : Float :=
  (if useMillimeters then lengths.millimeters else lengths.inches).get axis

end StepLengths

/-- How the coordinates of a move are read. -/
structure Modes where
  relativeMoves : Bool := false
  useMillimeters : Bool := true
  deriving DecidableEq, Repr

structure Plotter (μ δ : Type) where
  tool : μ
  x : μ
  y : μ
  display : δ
  /-- The limits recorded by the last homing pass that completed. -/
  calibration : Option Calibration := none
  modes : Modes := {}
  motion : Motion := {}
  steps : StepLengths := .standard

namespace Plotter

def motor (p : Plotter μ δ) : Axis → μ
  | .tool => p.tool
  | .x => p.x
  | .y => p.y

def setMotor (p : Plotter μ δ) (axis : Axis) (m : μ) : Plotter μ δ :=
  match axis with
  | .tool => { p with tool := m }
  | .x => { p with x := m }
  | .y => { p with y := m }

@[simp] theorem motor_setMotor_self (p : Plotter μ δ) (axis : Axis) (m : μ) :
    (p.setMotor axis m).motor axis = m := by
  cases axis <;> rfl

@[simp] theorem motor_setMotor_of_ne (p : Plotter μ δ) {axis other : Axis} (m : μ)
    (h : other ≠ axis) : (p.setMotor axis m).motor other = p.motor other := by
  cases axis <;> cases other <;> first | rfl | exact absurd rfl h

/-- Axes whose motor is not plugged in. -/
def disconnectedAxes [Motor μ] (p : Plotter μ δ) : List Axis :=
  Axis.all.filter fun axis => !Motor.connected (p.motor axis)

end Plotter

abbrev PlotterM (μ δ α : Type) := ReaderT Nat (EStateM Failure (Plotter μ δ)) α

namespace Plotter

variable {μ δ α : Type}

def fail (fault : Fault) : PlotterM μ δ α := fun _ => throw (.report (.ofFault fault))

/-- Calls the motor of an axis. A device error becomes the fault that it means. -/
def call (axis : Axis) (f : Nat → Motor.Call μ α) : PlotterM μ δ α := fun now p =>
  match f now (p.motor axis) with
  | .ok value m => .ok value (p.setMotor axis m)
  | .error error m => .error (.report (.ofFault (.ofDevice error))) (p.setMotor axis m)

def command [Motor μ] (axis : Axis) (c : Motor.Command) : PlotterM μ δ Unit :=
  call axis fun now => Motor.perform now c

def checked (value : Except Overflow α) : PlotterM μ δ α := fun _ =>
  match value with
  | .ok value => pure value
  | .error overflow => throw (.overflow overflow)

def present [Display δ] (screen : Screen) : PlotterM μ δ Unit := fun _ p =>
  .ok () { p with display := Display.present screen p.display }

def retext [Display δ] (text : String) : PlotterM μ δ Unit := fun _ p =>
  .ok () { p with display := Display.retext text p.display }

def takeConfirm [Display δ] : PlotterM μ δ Bool := fun now p =>
  let (pressed, display) := Display.takeConfirm now p.display
  .ok pressed { p with display }

/-- The calibration, without which there is no normalized position. -/
def calibrated : PlotterM μ δ Calibration := do
  match (← get).calibration with
  | some c => pure c
  | none => fail .notHomed

variable [Motor μ]

def readRaw (axis : Axis) : PlotterM μ δ Raw := call axis Motor.position

def readNormalized (axis : Axis) : PlotterM μ δ Normalized := do
  let c ← calibrated
  let p ← readRaw axis
  return c.toNormalized axis p

/-- The normalized position of an axis moved by a number of steps, on the calibrated scale. -/
def advanceNormalized (axis : Axis) (steps : Normalized) : PlotterM μ δ Normalized := do
  let i := (← calibrated).interval axis
  let here ← readNormalized axis
  return (here.shift steps.ticks).clamp .zero i.travel i.zero_le_travel

/-- The raw position of an axis moved by a number of ticks, within the calibrated interval. -/
def advanceRaw (axis : Axis) (ticks : Raw) : PlotterM μ δ Raw := do
  let i := (← calibrated).interval axis
  let here ← readRaw axis
  return (here.shift ticks.ticks).clampBetween i.zero i.full

/-- Normalized positions of tool, x and y. Before the first homing pass a connected motor is marked
by `?` and a missing one by `x`. -/
def statusLine : PlotterM μ δ String := do
  let line (tool x y : String) := "[" ++ tool ++ "|" ++ x ++ "," ++ y ++ "]"
  let p ← get
  if p.calibration.isSome then
    let tool ← readNormalized .tool
    let x ← readNormalized .x
    let y ← readNormalized .y
    return line tool.text x.text y.text
  else
    let mark (axis : Axis) := if Motor.connected (p.motor axis) then "?" else "x"
    return line (mark .tool) (mark .x) (mark .y)

end Plotter
end PenPlotter
