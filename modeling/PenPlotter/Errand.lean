import PenPlotter.Operation
import PenPlotter.Schedule.Run

/-! Operations as scheduled tasks. An errand is an operation and a note on what to do when it has
completed; each time it runs it takes one look at the operation and, if that goes on, submits
itself again. -/

namespace PenPlotter

structure Errand (κ : Type) where
  operation : Operation
  next : κ
  deriving DecidableEq, Repr

/-- A plotter and what its user has written down. -/
structure Desk (μ δ χ : Type) where
  plotter : Plotter μ δ
  notes : χ

/-- The steps of a task at a desk. -/
abbrev DeskM (α μ δ χ β : Type) := Action Failure α (Desk μ δ χ) β

namespace Desk

variable {α μ δ χ β : Type}

def onPlotter (program : PlotterM μ δ β) : DeskM α μ δ χ β := fun moment draft =>
  match program moment.now draft.context.plotter with
  | .ok value plotter =>
    .ok value { draft with context := { draft.context with plotter } }
  | .error failure plotter =>
    .error failure { draft with context := { draft.context with plotter } }

def note (f : χ → χ) : DeskM α μ δ χ Unit := fun _ draft =>
  .ok () { draft with context := { draft.context with notes := f draft.context.notes } }

end Desk

namespace Errand

variable {α μ δ χ κ : Type} [Motor μ] [Display δ]

/-- One look at the operation of an errand. -/
def perform (task : Errand κ → α) (finish : κ → Completion → DeskM α μ δ χ Unit)
    (errand : Errand κ) : DeskM α μ δ χ Unit := do
  match ← Desk.onPlotter errand.operation.poll with
  | .again delay operation => Action.submit (task { errand with operation }) delay 0
  | .done completion => finish errand.next completion
  | .dropped => return

end Errand
end PenPlotter
