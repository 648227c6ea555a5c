import PenPlotter.CommandLine.Arguments
import PenPlotter.Explanation
import PenPlotter.Session
import PenPlotter.Settings.Reading

/-! Carrying out a command line: settings are read and checked, a session is begun and the command is
performed in it. Screens go to the standard output, or to the standard error if the standard output
carries JSON. -/

namespace PenPlotter.CommandLine

structure Outcome where
  exitCode : Nat
  stdout : String := ""
  stderr : String := ""
  deriving DecidableEq, Repr

/-! ### Settings -/

/-- Whether the last part of a path names a file. -/
def namesFile (path : String) : Bool :=
  match ((path.splitOn "/").filter fun part => part ≠ "" ∧ part ≠ ".").getLast? with
  | some part => part ≠ ".."
  | none => false

/-- The settings in a file, or those that hold without one; they must be free of flaws. -/
def readSettings (path : String) (text : Option String) : Except Report Settings := do
  let refuse (reason : String) : Report := .ofFault (.settings reason)
  let settings ← match text with
    | none => pure {}
    | some text =>
      match Settings.ofText text with
      | .ok settings => pure settings
      | .error (.mismatch cause) => throw (refuse ("parse " ++ path ++ ": " ++ cause.message))
      | .error .malformed => throw (refuse ("parse " ++ path ++ ": not a TOML document"))
  match settings.validate with
  | .error flaw => throw (refuse flaw.message)
  | .ok () =>
    if settings.logging.file.all namesFile then return settings
    else throw (.ofText "logging.file has no file name")

/-! ### Commands -/

/-- Why a command has stopped. -/
inductive Stop where
  | failed (report : Report)
  /-- The bound on the number of tasks was reached. -/
  | unfinished

def Stop.ofFailure : Failure → Stop
  | .report report => .failed report
  | .overflow overflow => .failed (.ofText overflow.message)

/-- A session and the results printed so far. -/
structure Desktop (R : Type) where
  session : Session R
  results : String := ""

abbrev CommandM (R α : Type) := EStateM Stop (Desktop R) α

variable {R : Type} [Motor.Scalar R]

def print (text : String) : CommandM R Unit := modify fun d => { d with results := d.results ++ text }

def printLine (text : String) : CommandM R Unit := print (text ++ "\n")

def ask (program : PlotterM (Motor.Simulated R) Panel α) : CommandM R α := fun d =>
  match d.session.ask program with
  | (.ok value, session) => .ok value { d with session }
  | (.error failure, session) => .error (.ofFailure failure) { d with session }

def runProgram (fuel : Nat) (program : List Gcode) : CommandM R Unit := fun d =>
  match d.session.runProgram fuel program with
  | none => .error .unfinished d
  | some (.ok (), session) => .ok () { d with session }
  | some (.error failure, session) => .error (.ofFailure failure) { d with session }

def fail (report : Report) : CommandM R α := throw (.failed report)

def ensureConnected : CommandM R Unit := do
  match (← get).session.ensureConnected with
  | .ok () => return
  | .error fault => fail (.ofFault fault)

def jsonPosition (p : Position frame) : Text.Json := .number p.ticks

def selfCheck (json : Bool) : CommandM R Unit := do
  let status ← ask Plotter.statusLine
  if json then
    let missing := (← get).session.plotter.disconnectedAxes
    printLine (Text.Json.object [("status", .string status),
      ("disconnected", .array (missing.map (.string ·.label)))]).compact
  else printLine ("status: " ++ status)
  ensureConnected
  if !json then printLine "OK"

def home (fuel : Nat) (json : Bool) : CommandM R Unit := do
  ensureConnected
  runProgram fuel [.home]
  match (← get).session.plotter.calibration with
  | none => fail (.ofText "homing finished without bounds")
  | some c =>
    if json then
      let limits := Limit.all.map fun limit => (limit.label, jsonPosition (c.get limit))
      printLine (Text.Json.object limits).compact
    else
      print c.report
      printLine "Homing complete."

def go (fuel : Nat) (json : Bool) (options : Go) : CommandM R Unit := do
  ensureConnected
  runProgram fuel
    (Session.goProgram options.x options.y options.z options.relative options.inches)
  if json then
    let tool ← ask (Plotter.readNormalized .tool)
    let x ← ask (Plotter.readNormalized .x)
    let y ← ask (Plotter.readNormalized .y)
    printLine (Text.Json.object
      [("tool", jsonPosition tool), ("x", jsonPosition x), ("y", jsonPosition y)]).compact
  else
    printLine ("position " ++ (← ask Plotter.statusLine))
    printLine "Move complete."

def perform (fuel : Nat) (json : Bool) : Command → CommandM R Unit
  | .home => home fuel json
  | .go options => go fuel json options
  | .selfCheck => selfCheck json

/-! ### Outcomes -/

/-- What is printed and returned: the screens, the results and the explanation of an error. -/
def outcome (json : Bool) (screens results : String) (error : Option Report) : Outcome :=
  let explained := match error with
    | none => ""
    | some report => (if json then report.json.compact else report.explanation) ++ "\n"
  let exitCode := error.elim 0 Report.exitCode
  if json then { exitCode, stdout := results ++ explained, stderr := screens }
  else { exitCode, stdout := screens ++ results, stderr := explained }

/-- Carries out a command line, given the text of its settings file and the instants at which the
button will be pressed. There is no outcome if the command needs more tasks than it may run. -/
def execute (R : Type) [Motor.Scalar R] (fuel : Nat) (invocation : Invocation)
    (settingsText : Option String) (presses : List Nat) : Option Outcome :=
  let json := invocation.options.json
  match readSettings invocation.settingsFile settingsText with
  | .error report => some (outcome json "" "" (some report))
  | .ok settings =>
    match Session.start (R := R) settings presses with
    | .error error => some (outcome json "" "" (some (.ofText error.message)))
    | .ok session =>
      match perform fuel json invocation.command { session } with
      | .ok () d => some (outcome json d.session.printed d.results none)
      | .error (.failed report) d => some (outcome json d.session.printed d.results (some report))
      | .error .unfinished _ => none

/-- Exit code of a command line that is refused. -/
def usageExitCode : Nat := 2

def usage : String :=
  "Usage: plotter [--config FILE] [--json] [--log-level LEVEL] COMMAND\n" ++
  "Commands:\n" ++
  "  home\n" ++
  "  go [--x X] [--y Y] [--z Z] [--relative] [--inches]\n" ++
  "  self-check\n"

end PenPlotter.CommandLine
