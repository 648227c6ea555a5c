import PenPlotter.Axis
import PenPlotter.Position

/-! The calibrated interval of an axis and the transforms between raw and normalized positions.
Every transform clamps: a position outside the interval is moved to the nearer end of it. A
`Calibration` holds the six limits that a homing pass records. -/

namespace PenPlotter

/-- A calibrated axis in raw positions. An axis that counts down has `full` below `zero`. -/
structure Interval where
  /-- Raw position of normalized 0. -/
  zero : Raw
  /-- Raw position of the far end. -/
  full : Raw
  deriving DecidableEq, Repr

namespace Interval

/-- Distance between the two ends, or the largest position if the distance is larger. -/
def travel (i : Interval) : Normalized :=
  .saturate (Position.saturate (i.full.ticks - i.zero.ticks) : Raw).ticks.natAbs

/-- Raw position that lies a normalized distance from normalized 0. -/
def toRaw (i : Interval) (p : Normalized) : Raw :=
  if h : i.zero < i.full then
    (i.zero.shift p.ticks).clamp i.zero i.full (Position.le_of_lt h)
  else
    (i.zero.shift (-p.ticks)).clamp i.full i.zero (Position.le_of_not_lt h)

/-- Distance of a raw position from normalized 0, on the scale from 0 to `travel`. -/
def toNormalized (i : Interval) (p : Raw) : Normalized :=
  if h : i.zero < i.full then
    (Position.saturate (p.ticks - i.zero.ticks)).clamp .zero
      (.saturate (i.full.ticks - i.zero.ticks))
      (Position.zero_le_saturate (Int.sub_nonneg_of_le (Position.le_of_lt h)))
  else
    (Position.saturate (i.zero.ticks - p.ticks)).clamp .zero
      (.saturate (i.zero.ticks - i.full.ticks))
      (Position.zero_le_saturate (Int.sub_nonneg_of_le (Position.le_of_not_lt h)))

theorem zero_le_travel (i : Interval) : Position.zero ≤ i.travel :=
  Position.zero_le_saturate (Int.natCast_nonneg _)

end Interval

/-- Raw limits recorded by a homing pass. -/
structure Calibration where
  toolUp : Raw := .zero
  toolDown : Raw := .zero
  xMin : Raw := .zero
  xMax : Raw := .zero
  yMin : Raw := .zero
  yMax : Raw := .zero
  deriving DecidableEq, Repr

namespace Calibration

def get (c : Calibration) : Limit → Raw
  | .toolUp => c.toolUp
  | .toolDown => c.toolDown
  | .xMin => c.xMin
  | .xMax => c.xMax
  | .yMin => c.yMin
  | .yMax => c.yMax

def set (c : Calibration) (limit : Limit) (p : Raw) : Calibration :=
  match limit with
  | .toolUp => { c with toolUp := p }
  | .toolDown => { c with toolDown := p }
  | .xMin => { c with xMin := p }
  | .xMax => { c with xMax := p }
  | .yMin => { c with yMin := p }
  | .yMax => { c with yMax := p }

@[simp] theorem get_set_self (c : Calibration) (limit : Limit) (p : Raw) :
    (c.set limit p).get limit = p := by
  cases limit <;> rfl

@[simp] theorem get_set_of_ne (c : Calibration) {limit other : Limit} (p : Raw)
    (h : other ≠ limit) : (c.set limit p).get other = c.get other := by
  cases limit <;> cases other <;> first | rfl | exact absurd rfl h

/-- The interval of an axis. The tool counts from fully lowered, the other two from their first
limit. -/
def interval (c : Calibration) : Axis → Interval
  | .x => ⟨c.xMin, c.xMax⟩
  | .y => ⟨c.yMin, c.yMax⟩
  | .tool => ⟨c.toolDown, c.toolUp⟩

def travel (c : Calibration) (axis : Axis) : Normalized := (c.interval axis).travel

def toRaw (c : Calibration) (axis : Axis) (p : Normalized) : Raw := (c.interval axis).toRaw p

def toNormalized (c : Calibration) (axis : Axis) (p : Raw) : Normalized :=
  (c.interval axis).toNormalized p

/-- The limits and travels as the results screen shows them, one axis a line. -/
def report (c : Calibration) : String :=
  let line (name : String) (a b : Raw) (axis : Axis) :=
    name ++ ": [" ++ a.text ++ ", " ++ b.text ++ "]-> " ++ (c.travel axis).text ++ "\n"
  line "X" c.xMin c.xMax .x ++ line "Y" c.yMin c.yMax .y ++ line "Tool" c.toolUp c.toolDown .tool

end Calibration
end PenPlotter
