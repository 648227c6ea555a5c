import PenPlotter.Display.Panel
import PenPlotter.Errand
import PenPlotter.Gcode
import PenPlotter.Motor.Simulated
import PenPlotter.Settings.Basic

/-! A simulated plotter at work. A session runs programs: lists of commands, each of which is begun
when the one before it has replied without a fault. While a command is under way, a second task
prints the positions of the axes from time to time. -/

namespace PenPlotter

namespace Session

/-- The screen between two operations. -/
def mainMenu : Screen := .menu "main menu"

def statusPriority : Int := 10

def statusPeriod : Nat := milliseconds 100

inductive Job where
  /-- A command under way, with the commands that are to follow it. -/
  | errand (errand : Errand (List Gcode))
  /-- Prints the positions of the axes. -/
  | status

/-- How a program has ended, once it has. -/
abbrev Result := Option (Except Fault Unit)

variable {R : Type} [Motor.Scalar R]

abbrev JobM (R β : Type) := DeskM Job (Motor.Simulated R) Panel Result β

/-- Begins the next command. One that replies at once is followed by the next at once. -/
def proceed : List Gcode → JobM R Unit
  | [] => Desk.note fun _ => some (.ok ())
  | command :: rest => do
    match ← Desk.onPlotter (command.dispatch mainMenu) with
    | .replied (.ok ()) => proceed rest
    | .replied (.error fault) => Desk.note fun _ => some (.error fault)
    | .started operation => Action.submit (.errand ⟨operation, rest⟩) 0 0

/-- Turns the end of an operation into the reply to its command. -/
def finish (rest : List Gcode) (completion : Completion) : JobM R Unit := do
  match ← Desk.onPlotter (Gcode.reply completion) with
  | .ok () => proceed rest
  | .error fault => Desk.note fun _ => some (.error fault)

/-- Prints the status line, and comes back later unless nothing else is left to do. -/
def showStatus : JobM R Unit := do
  let line ← Desk.onPlotter Plotter.statusLine
  Desk.onPlotter (modify fun p => { p with display := p.display.showStatus line })
  if 0 < (← read).waiting then Action.submit .status statusPeriod statusPriority

def perform : Job → JobM R Unit
  | .errand errand => errand.perform .errand finish
  | .status => showStatus

def behaviour : Behaviour Failure Job (Desk (Motor.Simulated R) Panel Result) where
  perform job moment desk := (perform job).outcome moment desk

end Session

structure Session (R : Type) where
  plotter : Plotter (Motor.Simulated R) Panel
  schedule : Schedule Session.Job := {}

namespace Session

variable {R : Type} [Motor.Scalar R]

def powerOn (machine : Machine) (axis : Axis) : Except Motor.EmptyTravel (Motor.Simulated R) :=
  Motor.Simulated.powerOn axis.label (machine.travel axis) (Motor.Scalar.ofFloat machine.ticksPerDuty)
    (machine.isConnected axis) 0

/-- A session that begins at the start of the clock, with the instants at which the button will be
pressed and the writer on which the console prints. -/
def start (settings : Settings) (presses : List Nat) (out : Writer := {}) :
    Except Motor.EmptyTravel (Session R) := do
  let tool ← powerOn settings.machine .tool
  let x ← powerOn settings.machine .x
  let y ← powerOn settings.machine .y
  let console : Console := { out, autoDismiss := settings.autoDismiss }
  return {
    plotter := {
      tool, x, y, motion := settings.motion, steps := settings.steps
      display := { console := console.present mainMenu, presses } } }

/-- Runs a program and whatever else is waiting, but no more than a number of tasks. A move that was
broken off leaves no result. -/
def runProgram (fuel : Nat) (s : Session R) (program : List Gcode) :
    Option (Except Failure Unit × Session R) :=
  let first := (proceed program).outcome ⟨s.schedule.now, s.schedule.size⟩ ⟨s.plotter, none⟩
  let schedule := s.schedule.applyAll first.requests
  match first.result with
  | .error failure => some (.error failure, ⟨first.context.plotter, schedule⟩)
  | .ok () =>
    match behaviour.run fuel (schedule.apply (.submit statusPriority 0 .status)) first.context with
    | .unfinished .. => none
    | .finished result schedule desk =>
      let result := result.bind fun () =>
        match desk.notes with
        | some (.ok ()) => .ok ()
        | some (.error fault) => .error (.report (.ofFault fault))
        | none => .error (.report (.ofFault .moveCancelled))
      some (result, ⟨desk.plotter, schedule⟩)

/-- The program that homes and then moves, with all modes set in between. -/
def goProgram (x y z : Option Float) (relative inches : Bool) : List Gcode :=
  [.home, if inches then .useInches else .useMillimeters, if relative then .relative else .absolute,
    .go x y z]

/-- Asks the plotter for something now. -/
def ask (s : Session R) (program : PlotterM (Motor.Simulated R) Panel α) :
    Except Failure α × Session R :=
  match program s.schedule.now s.plotter with
  | .ok value plotter => (.ok value, { s with plotter })
  | .error failure plotter => (.error failure, { s with plotter })

/-- Where the carriage of an axis is. -/
def carriage (axis : Axis) : PlotterM (Motor.Simulated R) δ Physical := fun now p =>
  let (place, m) := (p.motor axis).place now
  .ok place (p.setMotor axis m)

/-- Refuses to work with an unplugged motor. -/
def ensureConnected (s : Session R) : Except Fault Unit :=
  match s.plotter.disconnectedAxes with
  | [] => .ok ()
  | missing => .error (.disconnected missing)

/-- What the console has printed. -/
def printed (s : Session R) : String := s.plotter.display.console.out.text

/-- The session as a record, for inspection. -/
def inspect (s : Session R) : String :=
  "Session \x7b scheduler: " ++ (behaviour (R := R)).inspect s.schedule ++ ", .. \x7d"

end Session
end PenPlotter
