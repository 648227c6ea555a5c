import PenPlotter.Display.Console

/-! A console whose button is pressed at given instants. A press is seen by the first poll at or
after its instant; presses between two polls count as one. -/

namespace PenPlotter

structure Panel where
  console : Console := {}
  /-- Instants of the presses that no poll has come to yet. -/
  presses : List Nat := []

namespace Panel

def takeConfirm (now : Nat) (p : Panel) : Bool × Panel :=
  let console := if p.presses.any (· ≤ now) then p.console.press true else p.console
  let (pressed, console) := console.takeConfirm
  (pressed, { console, presses := p.presses.filter (now < ·) })

def showStatus (line : String) (p : Panel) : Panel :=
  { p with console := p.console.showStatus line }

instance : Display Panel where
  present screen p := { p with console := p.console.present screen }
  retext text p := { p with console := p.console.retext text }
  takeConfirm := takeConfirm

end Panel
end PenPlotter
