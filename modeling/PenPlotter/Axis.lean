import PenPlotter.Text.Blank

/-! The three motors of the plotter and the six mechanical limits they run into. -/

namespace PenPlotter

inductive Axis where
  | tool
  | x
  | y
  deriving DecidableEq, Repr

namespace Axis

/-- Every axis, in the order in which the motors are named, checked and reset. -/
def all : List Axis := [.tool, .x, .y]

def label : Axis → String
  | .tool => "tool"
  | .x => "x"
  | .y => "y"

/-- Reads a label in any letter case, with blanks around it; `z` is another word for the tool. -/
def ofLabel? (text : String) : Option Axis :=
  match (Text.trim text).map Char.toLower with
  | "tool" | "z" => some .tool
  | "x" => some .x
  | "y" => some .y
  | _ => none

/-- Column of the axis in a table of X, Y and Z values. -/
def column : Axis → Nat
  | .x => 0
  | .y => 1
  | .tool => 2

/-- How many axes come before this one in `all`. -/
def rank : Axis → Nat
  | .tool => 0
  | .x => 1
  | .y => 2

theorem mem_all (axis : Axis) : axis ∈ all := by cases axis <;> decide

theorem rank_eq_idxOf (axis : Axis) : axis.rank = all.idxOf axis := by cases axis <;> decide

/-- A list of axes as an error names it. -/
def listed (axes : List Axis) : String := ", ".intercalate (axes.map label)

end Axis

/-- A mechanical end of an axis. -/
inductive Limit where
  | toolUp
  | toolDown
  | xMin
  | xMax
  | yMin
  | yMax
  deriving DecidableEq, Repr

namespace Limit

def all : List Limit := [.toolUp, .toolDown, .xMin, .xMax, .yMin, .yMax]

def label : Limit → String
  | .toolUp => "tool_up"
  | .toolDown => "tool_down"
  | .xMin => "x_min"
  | .xMax => "x_max"
  | .yMin => "y_min"
  | .yMax => "y_max"

end Limit

/-- One value for each axis. -/
structure PerAxis (α : Type) where
  x : α
  y : α
  tool : α
  deriving DecidableEq, Repr

namespace PerAxis

def get (values : PerAxis α) : Axis → α
  | .x => values.x
  | .y => values.y
  | .tool => values.tool

def set (values : PerAxis α) (axis : Axis) (value : α) : PerAxis α :=
  match axis with
  | .x => { values with x := value }
  | .y => { values with y := value }
  | .tool => { values with tool := value }

@[simp] theorem get_set_self (values : PerAxis α) (axis : Axis) (value : α) :
    (values.set axis value).get axis = value := by
  cases axis <;> rfl

@[simp] theorem get_set_of_ne (values : PerAxis α) {axis other : Axis} (value : α)
    (h : other ≠ axis) : (values.set axis value).get other = values.get other := by
  cases axis <;> cases other <;> first | rfl | exact absurd rfl h

/-- The values in X, Y, Z column order. -/
def columns (values : PerAxis α) : List α := [values.x, values.y, values.tool]

theorem getElem?_columns (values : PerAxis α) (axis : Axis) :
    values.columns[axis.column]? = some (values.get axis) := by
  cases axis <;> rfl

end PerAxis
end PenPlotter
