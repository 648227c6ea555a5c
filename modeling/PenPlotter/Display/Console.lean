import PenPlotter.Display.Basic

/-! A display on a text console. Screens are printed line by line to a writer that may fail; a screen
on which a write has failed is not printed further, and nothing else depends on it. The confirm
button is a flag that anybody may set and a poll clears. -/

namespace PenPlotter

/-- A text that grows line by line. The writer decides for each attempt whether it fails. -/
structure Writer where
  text : String := ""
  /-- Number of attempts so far. -/
  attempts : Nat := 0
  fails : Nat → Bool := fun _ => false

namespace Writer

/-- Writes lines until one fails. -/
def lines (w : Writer) : List String → Writer
  | [] => w
  | line :: rest =>
    let next := { w with attempts := w.attempts + 1 }
    if w.fails w.attempts then next else { next with text := w.text ++ line ++ "\n" }.lines rest

end Writer

/-- The lines of a text: each ends at a line feed, or at a carriage return and a line feed, and
the last one may go without. -/
def textLines (text : String) : List String :=
  let pieces := splitLines text.toList
  let pieces := if pieces.getLast? = some [] then pieces.dropLast else pieces
  pieces.map String.ofList
where
  splitLines : List Char → List (List Char)
    | [] => [[]]
    | '\n' :: rest => [] :: splitLines rest
    | '\r' :: '\n' :: rest => [] :: splitLines rest
    | c :: rest =>
      match splitLines rest with
      | [] => [[c]]
      | line :: others => (c :: line) :: others

structure Console where
  out : Writer := {}
  current : Option Screen := none
  /-- Whether the button was pressed since it was last polled. -/
  button : Bool := false
  detector : PressDetector := {}
  /-- Whether finished reports are confirmed at the first poll after they are shown. -/
  autoDismiss : Bool := false
  dismissPending : Bool := false
  /-- The status line printed last. -/
  lastStatus : Option String := none

namespace Console

/-- A screen as it is printed. -/
def layout : Screen → List String
  | .message m =>
    ("== " ++ m.header ++ " ==") ::
      ((textLines m.text).map ("  " ++ ·) ++ ["  [ " ++ m.button.caption ++ " ]"])
  | .menu name => ["-- " ++ name ++ " --"]

def print (c : Console) (lines : List String) : Console := { c with out := c.out.lines lines }

def press (c : Console) (isDown : Bool) : Console := { c with button := isDown }

/-- Prints the status line if it is not the one printed last. -/
def showStatus (c : Console) (line : String) : Console :=
  if c.lastStatus = some line then c else { c.print [line] with lastStatus := some line }

def present (screen : Screen) (c : Console) : Console :=
  { c.print (layout screen) with
    current := some screen, dismissPending := c.autoDismiss && screen.isReport }

def retext (text : String) (c : Console) : Console :=
  match c.current with
  | some (.message m) =>
    if m.text = text then c
    else
      let screen := Screen.message { m with text }
      { c.print (layout screen) with current := some screen }
  | _ => c

def takeConfirm (c : Console) : Bool × Console :=
  if c.dismissPending then (true, { c with dismissPending := false })
  else
    let (pressed, detector) := c.detector.poll c.button
    (pressed, { c with button := false, detector })

instance : Display Console where
  present := present
  retext := retext
  takeConfirm _ := takeConfirm

/-- The console as a record, for inspection. -/
def inspect (c : Console) : String :=
  let current := match c.current with
    | some screen => "Some(" ++ screen.inspect ++ ")"
    | none => "None"
  "ConsoleUi \x7b current: " ++ current ++ ", auto_dismiss: " ++ toString c.autoDismiss ++ ", .. \x7d"

end Console
end PenPlotter
