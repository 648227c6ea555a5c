import PenPlotter.Fault
import PenPlotter.Text.Json

/-! How a report is explained to the user: a text with likely causes and a remedy, a short reason, an
exit code and a JSON record of them. -/

namespace PenPlotter

def Fault.explanation : Fault → String
  | .disconnected axes =>
    "What happened: " ++ (Fault.disconnected axes).message ++
    ".\nLikely causes: Motor cable unplugged, or listed under sim.disconnected in the config." ++
    "\nHow to fix: Plug the motor in (or remove it from sim.disconnected) and run `plotter self-check`."
  | .homingCancelled =>
    "What happened: Homing was cancelled." ++
    "\nLikely causes: The ok button (Ctrl-C) was pressed while homing." ++
    "\nHow to fix: Run `plotter home` again and let it finish."
  | .notHomed =>
    "What happened: The plotter is not homed." ++
    "\nLikely causes: A move was requested before homing finished." ++
    "\nHow to fix: Run homing first; `plotter go` does this automatically."
  | .motorFault reason =>
    "What happened: A motor reported a fault (" ++ reason ++ ")." ++
    "\nLikely causes: Overload or a jammed carriage." ++
    "\nHow to fix: Check the mechanics, then home again."
  | .moveCancelled =>
    "What happened: The move was cancelled before reaching its target." ++
    "\nLikely causes: The ok button (Ctrl-C) was pressed during the move." ++
    "\nHow to fix: Run the move again; the motors hold wherever they stopped."
  | .settings reason =>
    "What happened: Configuration is invalid (" ++ reason ++ ")." ++
    "\nLikely causes: Out-of-range values or a typo in the TOML." ++
    "\nHow to fix: Edit the config file, then rerun. See etc/plotter.toml for a sample."
  | .hardware reason =>
    "What happened: " ++ (Fault.hardware reason).message ++
    ".\nLikely causes: See logs." ++
    "\nHow to fix: Re-run with --log-level=debug or set RUST_LOG for more detail."

def Fault.reason : Fault → String
  | .hardware _ => "Hardware"
  | .motorFault _ => "HardwareFault"
  | .disconnected _ => "NotConnected"
  | .homingCancelled => "HomingCancelled"
  | .notHomed => "NotHomed"
  | .moveCancelled => "MoveCancelled"
  | .settings _ => "Config"

def Fault.exitCode : Fault → Nat
  | .disconnected _ => 3
  | .homingCancelled | .moveCancelled => 4
  | .notHomed => 5
  | _ => 1

namespace Report

/-- A fault explains itself. Any other error is told with the message next to the outermost one as
its cause. -/
def explanation (report : Report) : String :=
  match report.fault? with
  | some fault => fault.explanation
  | none =>
    let cause := match report.messages with
      | _ :: cause :: _ => " Cause: " ++ cause
      | _ => ""
    "Something went wrong." ++ cause ++
    "\nHow to fix: Re-run with --log-level=debug for details. Original: " ++ report.message

def reason (report : Report) : String := report.fault?.elim "Error" Fault.reason

def exitCode (report : Report) : Nat := report.fault?.elim 1 Fault.exitCode

/-- Reason and explanation, and the axes if motors are disconnected. -/
def json (report : Report) : Text.Json :=
  let details := match report.fault? with
    | some (.disconnected axes) =>
      [("details", Text.Json.object [("axes", .array (axes.map (.string ·.label)))])]
    | _ => []
  .object ([("reason", .string report.reason), ("message", .string report.explanation)] ++ details)

end Report
end PenPlotter
