import PenPlotter.Motor.Basic
import PenPlotter.Text.Quoted

/-! What the plotter shows and the confirm button it polls. A message has one button under its text;
any other screen belongs to the menu and is known by its name. -/

namespace PenPlotter

inductive Button where
  /-- Aborts the running operation. -/
  | stop
  /-- Dismisses a finished report. -/
  | exit
  /-- Closes an informational screen. -/
  | close
  deriving DecidableEq, Repr

def Button.caption : Button → String
  | .stop => "Stop"
  | .exit => "Exit"
  | .close => "Close"

structure Message where
  header : String
  text : String
  button : Button
  deriving DecidableEq, Repr

inductive Screen where
  | message (message : Message)
  | menu (name : String)
  deriving DecidableEq, Repr

namespace Screen

/-- The screen with another text, if it is a message. -/
def withText (screen : Screen) (text : String) : Screen :=
  match screen with
  | .message m => .message { m with text }
  | .menu name => .menu name

/-- Whether the screen is a finished report. -/
def isReport : Screen → Bool
  | .message m => m.button = .exit
  | .menu _ => false

/-- The screen as a record, for inspection. -/
def inspect : Screen → String
  | .message m =>
    "Message(Message \x7b header: " ++ Text.quoted m.header ++ ", text: " ++ Text.quoted m.text ++
      ", button: " ++ m.button.caption ++ " \x7d)"
  | .menu name => "Screen(" ++ Text.quoted name ++ ")"

end Screen

/-- A button watched by polling: it counts as pressed at a poll that finds it down after one that
found it up. -/
structure PressDetector where
  wasDown : Bool := false
  deriving DecidableEq, Repr

namespace PressDetector

def poll (d : PressDetector) (isDown : Bool) : Bool × PressDetector :=
  (isDown && !d.wasDown, ⟨isDown⟩)

/-- The answers of a series of polls. -/
def pollAll (d : PressDetector) : List Bool → List Bool
  | [] => []
  | isDown :: rest => (d.poll isDown).1 :: (d.poll isDown).2.pollAll rest

example : pollAll {} [false, true, true, false, true] = [false, true, false, false, true] := rfl

end PressDetector

/-- A display with a confirm button. -/
class Display (δ : Type) where
  /-- Replaces the screen. -/
  present : Screen → δ → δ
  /-- Replaces the text of the message that is shown. -/
  retext : String → δ → δ
  /-- Whether the button was pressed since the last poll, at the instant of this one. -/
  takeConfirm : Nat → δ → Bool × δ

end PenPlotter
