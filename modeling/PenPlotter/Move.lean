import PenPlotter.Homing.Pass

/-! Coordinated moves. All axes with a target are started at once, and the move is over at the first
look that finds each of them exactly there. -/

namespace PenPlotter

/-- Raw targets; an axis without one is left alone. -/
structure Targets where
  x : Option Raw := none
  y : Option Raw := none
  tool : Option Raw := none
  deriving DecidableEq, Repr

namespace Targets

/-- The targets that are present, in x, y, tool order. -/
def toList (t : Targets) : List (Axis × Raw) :=
  [(Axis.x, t.x), (.y, t.y), (.tool, t.tool)].filterMap fun (axis, target) => target.map (axis, ·)

def isEmpty (t : Targets) : Bool := t.x.isNone && t.y.isNone && t.tool.isNone

theorem isEmpty_iff (t : Targets) : t.isEmpty = true ↔ t.toList = [] := by
  rcases t with ⟨x, y, tool⟩
  cases x <;> cases y <;> cases tool <;> simp [isEmpty, toList]

variable {μ δ : Type} [Motor μ] [Display δ]

/-- The commands that set an axis going. -/
def launch (speed : Int) (target : Raw) : List Motor.Command :=
  [.stopAction .hold, .speed speed, .target target, .runToTarget]

def start (targets : Targets) : PlotterM μ δ Unit := do
  let speed := (← get).motion.goSpeed
  targets.toList.forM fun (axis, target) =>
    (launch speed target).forM fun command => Plotter.command axis command

/-- Whether every axis reads its target; the first one that does not ends the look. -/
def reached : List (Axis × Raw) → PlotterM μ δ Bool
  | [] => return true
  | (axis, target) :: rest => do
    if (← Plotter.readRaw axis) = target then reached rest else return false

/-- One look at a move. A confirm ends the move silently and leaves the motors running. -/
def poll (targets : Targets) : PlotterM μ δ (Progress Targets Unit) := do
  if ← Plotter.takeConfirm then return .dropped
  else if ← reached targets.toList then return .done ()
  else return .again (← get).motion.goPoll targets

end Targets
end PenPlotter
