import PenPlotter.Decimal.Text
import PenPlotter.Settings.Basic
import PenPlotter.Text.Quoted
import PenPlotter.Toml.Document

/-! Settings read from a TOML document. Every key may be left out, unknown keys are ignored and the
first entry with a wrong value is reported. A section may also be given as an array of its values in
the order of its keys. -/

namespace PenPlotter.Settings

open Toml (Value)

/-- Why a value does not fit its key. -/
inductive Mismatch where
  | wrongType (found expected : String)
  | outOfRange (value : Int) (expected : String)
  | missing (key : String)
  | wrongLength (length : Nat) (expected : String)
  | unknownAxis (word : String)
  /-- An axis that is neither a word nor a table. -/
  | noWord
  /-- An axis that is a table with no key. -/
  | noKey
  /-- An axis that is a table with several keys. -/
  | manyKeys
  /-- An axis that is a table whose only value is not empty. -/
  | notEmpty (expected : String)
  /-- An axis that is a table whose only value is no table. -/
  | noTable (found : String)
  deriving DecidableEq, Repr

def Mismatch.message : Mismatch → String
  | .wrongType found expected => "invalid type: " ++ found ++ ", expected " ++ expected
  | .outOfRange value expected =>
    "invalid value: integer `" ++ toString value ++ "`, expected " ++ expected
  | .missing key => "missing field `" ++ key ++ "`"
  | .wrongLength length expected => "invalid length " ++ toString length ++ ", expected " ++ expected
  | .unknownAxis word => "unknown variant `" ++ word ++ "`, expected one of `tool`, `x`, `y`"
  | .noWord => "wanted string or table"
  | .noKey => "wanted exactly 1 element, found 0 elements"
  | .manyKeys => "wanted exactly 1 element, more than 1 element"
  | .notEmpty expected => "expected empty " ++ expected
  | .noTable found => "expected table, found " ++ found

/-- A value as a message names it. -/
def describe : Value → String
  | .string text => "string " ++ Text.quoted text
  | .integer value => "integer `" ++ toString value ++ "`"
  | .float value => "floating point `" ++ Decimal.Layout.pointed.write (.ofFloat value) ++ "`"
  | .boolean value => "boolean `" ++ toString value ++ "`"
  | .array _ | .tables _ => "sequence"
  | .table .. | .instant => "map"

def kind : Value → String
  | .string _ => "string"
  | .integer _ => "integer"
  | .float _ => "float"
  | .boolean _ => "boolean"
  | .instant => "datetime"
  | .array _ => "array"
  | .tables _ => "array of tables"
  | .table .. => "table"

/-- The items of a value that is a list. -/
def items? : Value → Option (List Value)
  | .array items => some items
  | .tables bodies => some (bodies.map (.table .header))
  | _ => none

abbrev Read (α : Type) := Value → Except Mismatch α

def wrongType (value : Value) (expected : String) : Except Mismatch α :=
  .error (.wrongType (describe value) expected)

/-! ### Single values -/

def readTicks : Read (Position frame)
  | .integer n => (Position.ofInt? n).elim (.error (.outOfRange n "i32")) .ok
  | value => wrongType value "i32"

def readMilliseconds : Read Nat
  | .integer n => if 0 ≤ n then .ok (milliseconds n.toNat) else .error (.outOfRange n "u64")
  | value => wrongType value "u64"

def readNumber : Read Float
  | .float x => .ok x
  | .integer n => .ok (Float.ofInt n)
  | value => wrongType value "f64"

def readFlag : Read Bool
  | .boolean value => .ok value
  | value => wrongType value "a boolean"

def readText : Read String
  | .string text => .ok text
  | value => wrongType value "a string"

def axisOfWord (word : String) : Except Mismatch Axis :=
  match Axis.all.find? (·.label == word) with
  | some axis => .ok axis
  | none => .error (.unknownAxis word)

/-- An empty value, as it stands behind the name of an axis that is written as a key. -/
def readEmpty : Read Unit
  | .table _ entries => if entries.isEmpty then .ok () else .error (.notEmpty "table")
  | .array items => if items.isEmpty then .ok () else .error (.notEmpty "table")
  | .tables bodies => if bodies.isEmpty then .ok () else .error (.notEmpty "array")
  | value => .error (.noTable (kind value))

/-- An axis by its name, which may also be the only key of a table. -/
def readAxis : Read Axis
  | .string word => axisOfWord word
  | .table _ [] => .error .noKey
  | .table _ [(key, value)] => do
    let axis ← axisOfWord key
    readEmpty value
    return axis
  | .table _ _ => .error .manyKeys
  | _ => .error .noWord

/-! ### Lists and sections -/

def readAxes : Read (List Axis) := fun value =>
  match items? value with
  | some items => items.mapM readAxis
  | none => wrongType value "a sequence"

/-- Three numbers in the order X, Y, tool; further ones are ignored. -/
def readColumns : Read (PerAxis Float) := fun value =>
  match items? value with
  | none => wrongType value "an array of length 3"
  | some items => do
    match ← (items.take 3).mapM readNumber with
    | [x, y, tool] => return ⟨x, y, tool⟩
    | few => throw (.wrongLength few.length "an array of length 3")

/-- Takes up the values of a section one by one, from what holds before the first. -/
def readSection (name : String) (keys : List String) (take : σ → String → Read σ) (start : σ) : Read σ
  | .table _ entries => entries.foldlM (fun s (key, value) => take s key value) start
  | .instant => .ok start
  | value =>
    match items? value with
    | some items => (keys.zip items).foldlM (fun s (key, value) => take s key value) start
    | none => wrongType value ("struct " ++ name)

def takeMotion (m : Motion) (key : String) (value : Value) : Except Mismatch Motion := do
  match key with
  | "go_speed" =>
    let speed : Raw ← readTicks value
    return { m with goSpeed := speed.ticks }
  | "go_poll_ms" => return { m with goPoll := ← readMilliseconds value }
  | "homing_poll_ms" => return { m with homingPoll := ← readMilliseconds value }
  | "spin_up_ms" => return { m with spinUp := ← readMilliseconds value }
  | _ => return m

def readMotion : Read Motion :=
  readSection "MotionCfg" ["go_speed", "go_poll_ms", "homing_poll_ms", "spin_up_ms"] takeMotion {}

def takeSteps (s : StepLengths) (key : String) (value : Value) : Except Mismatch StepLengths := do
  match key with
  | "mm_per_step" => return { s with millimeters := ← readColumns value }
  | "inches_per_step" => return { s with inches := ← readColumns value }
  | _ => return s

def readSteps : Read StepLengths :=
  readSection "UnitsCfg" ["mm_per_step", "inches_per_step"] takeSteps .standard

/-- A travel whose ends are not known yet. -/
structure TravelDraft where
  lower : Option Physical := none
  upper : Option Physical := none
  start : Physical := .zero

def takeTravel (t : TravelDraft) (key : String) (value : Value) : Except Mismatch TravelDraft := do
  match key with
  | "lower" => return { t with lower := some (← readTicks value) }
  | "upper" => return { t with upper := some (← readTicks value) }
  | "start" => return { t with start := ← readTicks value }
  | _ => return t

/-- A travel, whose two ends must be given. -/
def readTravel : Read Motor.Travel := fun value => do
  let t ← readSection "SimTravel" ["lower", "upper", "start"] takeTravel {} value
  match t.lower, t.upper with
  | some lower, some upper => return ⟨lower, upper, t.start⟩
  | lower, _ =>
    match items? value with
    | some items => throw (.wrongLength items.length "struct SimTravel with 3 elements")
    | none => throw (.missing (if lower.isNone then "lower" else "upper"))

def takeMachine (m : Machine) (key : String) (value : Value) : Except Mismatch Machine := do
  match key with
  | "ticks_per_duty" => return { m with ticksPerDuty := ← readNumber value }
  | "disconnected" => return { m with disconnected := ← readAxes value }
  | "tool" => return { m with tool := ← readTravel value }
  | "x" => return { m with x := ← readTravel value }
  | "y" => return { m with y := ← readTravel value }
  | _ => return m

def readMachine : Read Machine :=
  readSection "SimCfg" ["ticks_per_duty", "disconnected", "tool", "x", "y"] takeMachine .standard

def takeDisplay (autoDismiss : Bool) (key : String) (value : Value) : Except Mismatch Bool :=
  match key with
  | "auto_dismiss" => readFlag value
  | _ => .ok autoDismiss

def readDisplay : Read Bool := readSection "UiCfg" ["auto_dismiss"] takeDisplay true

def takeLogging (l : Logging) (key : String) (value : Value) : Except Mismatch Logging := do
  match key with
  | "file" => return { l with file := some (← readText value) }
  | "level" => return { l with level := some (← readText value) }
  | "rotation" => return { l with rotation := some (← readText value) }
  | _ => return l

def readLogging : Read Logging := readSection "Logging" ["file", "level", "rotation"] takeLogging {}

def takeEntry (s : Settings) (key : String) (value : Value) : Except Mismatch Settings := do
  match key with
  | "motion" => return { s with motion := ← readMotion value }
  | "units" => return { s with steps := ← readSteps value }
  | "sim" => return { s with machine := ← readMachine value }
  | "ui" => return { s with autoDismiss := ← readDisplay value }
  | "logging" => return { s with logging := ← readLogging value }
  | _ => return s

/-- The settings in the entries of a document. -/
def ofEntries (entries : Toml.Entries) : Except Mismatch Settings :=
  entries.foldlM (fun s (key, value) => takeEntry s key value) {}

/-! ### Texts -/

/-- Why a text does not give settings. -/
inductive Rejection where
  /-- It is no TOML document. -/
  | malformed
  | mismatch (cause : Mismatch)
  deriving DecidableEq, Repr

def ofText (text : String) : Except Rejection Settings :=
  match Toml.document? text with
  | none => .error .malformed
  | some entries => (ofEntries entries).mapError .mismatch

end PenPlotter.Settings
