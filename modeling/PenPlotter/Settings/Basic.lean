import PenPlotter.Decimal.Binary
import PenPlotter.Motor.Simulated
import PenPlotter.Plotter

/-! What the user can set, with the values that hold for whatever is not set, and the conditions that
settings have to meet. -/

namespace PenPlotter

/-- The simulated machine. -/
structure Machine where
  /-- Speed without load, in ticks per second for each percent of duty cycle. -/
  ticksPerDuty : Float := 10
  /-- Axes whose motor is unplugged. -/
  disconnected : List Axis := []
  tool : Motor.Travel
  x : Motor.Travel
  y : Motor.Travel

namespace Machine

/-- A machine of the usual size. -/
def standard : Machine where
  tool := { lower := ⟨-40, by decide, by decide⟩, upper := ⟨60, by decide, by decide⟩ }
  x := { lower := ⟨-600, by decide, by decide⟩, upper := ⟨600, by decide, by decide⟩ }
  y := { lower := ⟨-1500, by decide, by decide⟩, upper := ⟨1500, by decide, by decide⟩ }

def travel (m : Machine) : Axis → Motor.Travel
  | .tool => m.tool
  | .x => m.x
  | .y => m.y

def isConnected (m : Machine) (axis : Axis) : Bool := !m.disconnected.contains axis

end Machine

/-- Where the log is written and how. -/
structure Logging where
  file : Option String := none
  level : Option String := none
  rotation : Option String := none
  deriving DecidableEq, Repr

structure Settings where
  motion : Motion := {}
  steps : StepLengths := .standard
  machine : Machine := .standard
  /-- Whether finished reports are confirmed as soon as they are shown. -/
  autoDismiss : Bool := true
  logging : Logging := {}

namespace Settings

/-- A condition that settings do not meet. -/
inductive Flaw where
  | goSpeed
  | goPoll
  | homingPoll
  | spinUp
  /-- A step length, by the name of its table and its column. -/
  | stepLength (table : String) (column : Nat)
  | ticksPerDuty
  | emptyTravel (axis : Axis)
  | startOutside (axis : Axis)
  | rotation
  deriving DecidableEq, Repr

def Flaw.message : Flaw → String
  | .goSpeed => "motion.go_speed must be > 0"
  | .goPoll => "motion.go_poll_ms must be >= 1"
  | .homingPoll => "motion.homing_poll_ms must be >= 1"
  | .spinUp => "motion.spin_up_ms is unreasonably large (>1min)"
  | .stepLength table column => "units." ++ table ++ "[" ++ toString column ++ "] must be > 0"
  | .ticksPerDuty => "sim.ticks_per_duty must be > 0"
  | .emptyTravel axis =>
    "sim." ++ axis.label ++ ".lower must be < sim." ++ axis.label ++ ".upper"
  | .startOutside axis => "sim." ++ axis.label ++ ".start must be within [lower, upper]"
  | .rotation => "logging.rotation must be one of: never, daily, hourly"

/-- Longest time that a leg may be given to get moving. -/
def longestSpinUp : Nat := milliseconds 60000

def rotations : List String := ["never", "daily", "hourly"]

def isPositive (x : Float) : Bool := (Decimal.Binary.ofFloat x).isPositive

def demand (condition : Bool) (flaw : Flaw) : List Flaw := if condition then [] else [flaw]

def stepFlaws (table : String) (lengths : PerAxis Float) : List Flaw :=
  [Axis.x, .y, .tool].flatMap fun axis =>
    demand (isPositive (lengths.get axis)) (.stepLength table axis.column)

def travelFlaws (axis : Axis) (travel : Motor.Travel) : List Flaw :=
  demand (travel.lower < travel.upper) (.emptyTravel axis) ++
    demand (travel.lower ≤ travel.start && travel.start ≤ travel.upper) (.startOutside axis)

/-- Every condition that is not met, in the order in which they are checked. -/
def flaws (s : Settings) : List Flaw :=
  demand (0 < s.motion.goSpeed) .goSpeed ++
  demand (0 < s.motion.goPoll) .goPoll ++
  demand (0 < s.motion.homingPoll) .homingPoll ++
  demand (s.motion.spinUp ≤ longestSpinUp) .spinUp ++
  stepFlaws "mm_per_step" s.steps.millimeters ++
  stepFlaws "inches_per_step" s.steps.inches ++
  demand (isPositive s.machine.ticksPerDuty) .ticksPerDuty ++
  Axis.all.flatMap (fun axis => travelFlaws axis (s.machine.travel axis)) ++
  demand (s.logging.rotation.all rotations.contains) .rotation

def validate (s : Settings) : Except Flaw Unit := s.flaws.head?.elim (.ok ()) .error

theorem validate_eq_ok_iff (s : Settings) : s.validate = .ok () ↔ s.flaws = [] := by
  unfold validate
  cases s.flaws <;> simp

end Settings
end PenPlotter
