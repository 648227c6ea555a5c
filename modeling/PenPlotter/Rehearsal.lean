import PenPlotter.Display.Journal
import PenPlotter.Errand
import PenPlotter.Gcode
import PenPlotter.Motor.Recorded

/-! A plotter of recorded motors on a schedule of its own. Whoever starts an operation leaves a
callback, which writes down how it ended; between two tasks the motors and the display can be
changed from outside. -/

namespace PenPlotter

/-- A change made from outside. -/
inductive Poke where
  | position (axis : Axis) (position : Raw)
  | state (axis : Axis) (line : String)
  | connection (axis : Axis) (connected : Bool)
  /-- Lets every later call to a motor fail. -/
  | failure (axis : Axis) (reason : String)
  | confirm
  | calibrate (calibration : Calibration)
  deriving DecidableEq, Repr

namespace Rehearsal

abbrev Bench := Plotter Motor.Recorded Journal

def adjust (p : Bench) (axis : Axis) (f : Motor.Recorded → Motor.Recorded) : Bench :=
  p.setMotor axis (f (p.motor axis))

def poke (p : Bench) : Poke → Bench
  | .position axis position => adjust p axis fun m => { m with position }
  | .state axis line => adjust p axis fun m => { m with state := .ofLine line }
  | .connection axis connected => adjust p axis fun m => { m with connected }
  | .failure axis reason => adjust p axis fun m => { m with failure := some reason }
  | .confirm => { p with display := p.display.press }
  | .calibrate calibration => { p with calibration := some calibration }

/-- What a callback was told. -/
inductive Reply where
  | calibration (outcome : Except Fault Calibration)
  | done (outcome : Except Fault Unit)

structure Callback where
  /-- Whether the operation was started by a command, whose reply is wanted. -/
  command : Bool
  /-- When present, the callback fails with this text after writing down what it was told. -/
  failure : Option String

/-- The plotter after a task. -/
structure Snapshot where
  now : Nat
  /-- Command lines of the motors. -/
  commands : PerAxis String
  screen : Option Screen
  deriving DecidableEq, Repr

structure Notes where
  replies : List Reply := []
  trace : List Snapshot := []
  /-- Number of tasks that have succeeded. -/
  executed : Nat := 0

abbrev Stage := Desk Motor.Recorded Journal Notes
abbrev StageM (β : Type) := DeskM (Errand Callback) Motor.Recorded Journal Notes β

def tell (callback : Callback) (reply : Reply) : StageM Unit := do
  Desk.note fun notes => { notes with replies := notes.replies ++ [reply] }
  match callback.failure with
  | some text => throw (.report (.ofText text))
  | none => return

def finish (callback : Callback) (completion : Completion) : StageM Unit := do
  if callback.command then
    let outcome ← Desk.onPlotter (Gcode.reply completion)
    tell callback (.done outcome)
  else
    match completion with
    | .homed outcome => tell callback (.calibration outcome)
    | .arrived => tell callback (.done (.ok ()))

def snapshot (now : Nat) (p : Bench) : Snapshot :=
  ⟨now, ⟨p.x.commandLine, p.y.commandLine, p.tool.commandLine⟩, p.display.current⟩

/-- Writes down the plotter after the n-th task, then makes the n-th list of changes. From the
`patience`-th task on, the button is pressed as well, so that no operation goes on for ever. -/
def afterTask (pokes : List (List Poke)) (patience : Nat) (now : Nat) (stage : Stage) : Stage :=
  let n := stage.notes.executed
  let plotter := (pokes.getD n []).foldl poke stage.plotter
  let plotter := if patience ≤ n then poke plotter .confirm else plotter
  let trace := stage.notes.trace ++ [snapshot now stage.plotter]
  { plotter, notes := { stage.notes with trace, executed := n + 1 } }

def behaviour (pokes : List (List Poke)) (patience : Nat) : Behaviour Failure (Errand Callback) Stage where
  perform errand moment stage := (errand.perform id finish).outcome moment stage
  afterTask := some (afterTask pokes patience)

/-- Starts a homing pass. -/
def home (previous : Screen) (callback : Callback) : StageM Unit := do
  let pass ← Desk.onPlotter (Homing.Pass.start previous)
  Action.submit ⟨.homing pass, callback⟩ 0 0

/-- Starts a move. -/
def go (targets : Targets) (callback : Callback) : StageM Unit := do
  Desk.onPlotter targets.start
  Action.submit ⟨.move targets, callback⟩ 0 0

/-- Dispatches a command; a reply that comes at once is written down at once. -/
def dispatch (command : Gcode) (previous : Screen) (callback : Callback) : StageM Unit := do
  match ← Desk.onPlotter (Gcode.dispatch previous command) with
  | .replied outcome => tell callback (.done outcome)
  | .started operation => Action.submit ⟨operation, callback⟩ 0 0

end Rehearsal

structure Rehearsal where
  schedule : Schedule (Errand Rehearsal.Callback) := {}
  stage : Rehearsal.Stage

namespace Rehearsal

/-- Takes steps between two runs. -/
def act (r : Rehearsal) (steps : StageM Unit) : Except Failure Unit × Rehearsal :=
  let outcome := steps.outcome ⟨r.schedule.now, r.schedule.size⟩ r.stage
  (outcome.result, ⟨r.schedule.applyAll outcome.requests, outcome.context⟩)

end Rehearsal
end PenPlotter
