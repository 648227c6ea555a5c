import PenPlotter.Axis
import PenPlotter.Position

/-! What can go wrong. A motor reports a `DeviceError`; the plotter reports a `Fault`; a `Report` is
an error on its way to the user, with the context that was put around it. A `Failure` is what ends
an action early. -/

namespace PenPlotter

/-- What a motor reports instead of carrying out a call. -/
inductive DeviceError where
  | disconnected (motor : String)
  | invalidValue (reason : String)
  | io (reason : String)
  /-- An error of the device layer that is known by its text only. -/
  | other (reason : String)
  deriving DecidableEq, Repr

def DeviceError.message : DeviceError → String
  | .disconnected motor => motor ++ " motor not connected"
  | .invalidValue reason => "invalid value: " ++ reason
  | .io reason => "io: " ++ reason
  | .other reason => reason

inductive Fault where
  | hardware (reason : String)
  | motorFault (reason : String)
  | disconnected (axes : List Axis)
  | homingCancelled
  | notHomed
  | moveCancelled
  | settings (reason : String)
  deriving DecidableEq, Repr

namespace Fault

def message : Fault → String
  | .hardware reason => "hardware error: " ++ reason
  | .motorFault reason => "hardware fault: " ++ reason
  | .disconnected axes => Axis.listed axes ++ " motor not connected"
  | .homingCancelled => "homing cancelled"
  | .notHomed => "not homed"
  | .moveCancelled => "move cancelled before reaching its target"
  | .settings reason => "configuration error: " ++ reason

def occursIn (word : List Char) : List Char → Bool
  | [] => word.isEmpty
  | c :: rest => word.isPrefixOf (c :: rest) || occursIn word rest

/-- A disconnected motor is named by its axis where its name is the label of one. An error known by
its text only is a motor fault if the text says so in any letter case. -/
def ofDevice : DeviceError → Fault
  | .disconnected motor =>
    match Axis.ofLabel? motor with
    | some axis => .disconnected [axis]
    | none => .motorFault (DeviceError.disconnected motor).message
  | .other reason =>
    if occursIn "fault".toList (reason.toList.map Char.toLower) then .motorFault reason
    else .hardware reason
  | error => .motorFault error.message

end Fault

/-- The error that a report started from. -/
inductive Origin where
  | fault (fault : Fault)
  | device (error : DeviceError)
  | text (text : String)
  deriving DecidableEq, Repr

/-- Messages of an error and of what caused it, outermost first. -/
def Origin.messages : Origin → List String
  | .fault cause => [cause.message]
  | .device (.io reason) => [(DeviceError.io reason).message, reason]
  | .device error => [error.message]
  | .text words => [words]

structure Report where
  origin : Origin
  /-- Messages put around the error, outermost first. -/
  context : List String := []
  deriving DecidableEq, Repr

namespace Report

def ofFault (fault : Fault) : Report := { origin := .fault fault }

def ofText (text : String) : Report := { origin := .text text }

def wrap (report : Report) (text : String) : Report :=
  { report with context := text :: report.context }

def messages (report : Report) : List String := report.context ++ report.origin.messages

/-- The outermost message. -/
def message (report : Report) : String := report.messages.headD ""

/-- The fault that the report started from, however much context is around it. -/
def fault? (report : Report) : Option Fault :=
  match report.origin with
  | .fault cause => some cause
  | _ => none

@[simp] theorem fault?_wrap (report : Report) (text : String) :
    (report.wrap text).fault? = report.fault? := rfl

@[simp] theorem fault?_ofFault (fault : Fault) : (ofFault fault).fault? = some fault := rfl

@[simp] theorem message_wrap (report : Report) (text : String) :
    (report.wrap text).message = text := rfl

end Report

/-- What ends an action before its last step. -/
inductive Failure where
  | report (report : Report)
  /-- Position arithmetic left its range. -/
  | overflow (overflow : Overflow)
  deriving DecidableEq, Repr

end PenPlotter
