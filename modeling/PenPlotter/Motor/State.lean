import PenPlotter.Text.Blank

/-! The state line of a motor: a set of flags such as `running` and `stalled`, kept in ascending
order without repetition and written with one space between them. No flag at all means idle. -/

namespace PenPlotter.Motor

structure State where
  flags : List String
  deriving DecidableEq, Repr

namespace State

/-- Adds a flag at its place, unless it is there. -/
def insert (flag : String) : List String → List String
  | [] => [flag]
  | head :: rest =>
    if flag < head then flag :: head :: rest
    else if flag = head then head :: rest
    else head :: insert flag rest

def ofList (flags : List String) : State := ⟨flags.foldr insert []⟩

/-- The state whose flags are the words of a line. -/
def ofLine (line : String) : State := ofList (Text.words line)

def line (state : State) : String := " ".intercalate state.flags

def contains (state : State) (flag : String) : Bool := state.flags.contains flag

def idle : State := ⟨[]⟩
def running : State := ofList ["running"]
def runningStalled : State := ofList ["running", "stalled"]
def holding : State := ofList ["holding"]

def isIdle (state : State) : Bool := state.flags.isEmpty
def isRunning (state : State) : Bool := state.contains "running"
def isStalled (state : State) : Bool := state.contains "stalled"

theorem mem_insert {flag other : String} {flags : List String} :
    other ∈ insert flag flags ↔ other = flag ∨ other ∈ flags := by
  fun_induction insert flag flags with
  | case1 => simp
  | case2 => simp
  | case3 => simp
  | case4 head rest _ _ ih => simp only [List.mem_cons, ih]; grind

theorem mem_ofList {flag : String} {flags : List String} :
    flag ∈ (ofList flags).flags ↔ flag ∈ flags := by
  induction flags with
  | nil => simp [ofList]
  | cons head rest ih => simp_all [ofList, mem_insert]

example : (ofLine " stalled running\trunning").line = "running stalled" := by decide +kernel

end State
end PenPlotter.Motor
