import PenPlotter.Axis
import PenPlotter.Position

/-! The six legs of homing. A leg runs one motor until it stalls; the limit it finds is the stalled
position, moved back a little so that later moves stay clear of the stop. -/

namespace PenPlotter.Homing

inductive Leg where
  | toolUp
  | xLeft
  | xRight
  | yMin
  | yMax
  | toolDown
  deriving DecidableEq, Repr

namespace Leg

/-- The legs in the order in which they are run. -/
def all : List Leg := [.toolUp, .xLeft, .xRight, .yMin, .yMax, .toolDown]

/-- Number of the leg, counted from 1. -/
def step : Leg → Nat
  | .toolUp => 1
  | .xLeft => 2
  | .xRight => 3
  | .yMin => 4
  | .yMax => 5
  | .toolDown => 6

def axis : Leg → Axis
  | .toolUp | .toolDown => .tool
  | .xLeft | .xRight => .x
  | .yMin | .yMax => .y

/-- Duty cycle in percent with which the leg is run. -/
def duty : Leg → Int
  | .toolUp => -30
  | .xLeft => 50
  | .xRight => -50
  | .yMin => -40
  | .yMax => 40
  | .toolDown => 20

/-- Ticks from the stalled position to the limit. -/
def compensation : Leg → Int
  | .toolUp => 20
  | .xLeft => -30
  | .xRight => 30
  | .yMin => 350
  | .yMax => -30
  | .toolDown => -15

def limit : Leg → Limit
  | .toolUp => .toolUp
  | .xLeft => .xMin
  | .xRight => .xMax
  | .yMin => .yMin
  | .yMax => .yMax
  | .toolDown => .toolDown

def label : Leg → String
  | .toolUp => "tool up"
  | .xLeft => "x min (left)"
  | .xRight => "x max (right)"
  | .yMin => "y min"
  | .yMax => "y max"
  | .toolDown => "tool down"

/-- What the display says while the leg is run. -/
def progress (leg : Leg) : String :=
  "Step " ++ toString leg.step ++ " of " ++ toString all.length ++ ": " ++ leg.label ++
    "\nPress 'ok' to stop."

def compensate (leg : Leg) (stalledAt : Raw) : Except Overflow Raw :=
  stalledAt.offset? leg.compensation

theorem mem_all (leg : Leg) : leg ∈ all := by cases leg <;> decide

end Leg
end PenPlotter.Homing
