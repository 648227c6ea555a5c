import PenPlotter.Clock

/-! A cooperative schedule of one-shot tasks. Tasks wait in the order of their due time and, among
tasks due at the same time, of their priority; tasks that agree in both wait in the order in which
they were submitted. What a task does is a function to an outcome, so that a task can change the
schedule only by submitting further tasks and by letting time pass. -/

namespace PenPlotter

/-- When a task may start. -/
inductive Due where
  | immediate
  | dated (instant : Nat)
  deriving DecidableEq, Repr

namespace Due

/-- Place in the order of due times: immediate comes before every instant. -/
def rank : Due → Nat
  | .immediate => 0
  | .dated instant => instant + 1

/-- What is asked for with a delay of zero is immediate. -/
def after (now : Nat) (delay : Nat) : Due :=
  if delay = 0 then .immediate else .dated (now + delay)

/-- The instant at which a task starts whose turn has come. -/
def start (now : Nat) : Due → Nat
  | .immediate => now
  | .dated instant => Clock.sleepUntil now instant

end Due

structure Task (α : Type) where
  due : Due
  /-- Smaller numbers go first. -/
  priority : Int
  action : α
  deriving DecidableEq, Repr

/-- Whether one task need not wait for another: its due time is earlier, or the same and its
priority is not behind. -/
def Task.precedes (a b : Task α) : Prop :=
  a.due.rank < b.due.rank ∨ (a.due.rank = b.due.rank ∧ a.priority ≤ b.priority)

instance (a b : Task α) : Decidable (a.precedes b) :=
  inferInstanceAs (Decidable (_ ∨ (_ ∧ _)))

/-- Puts a task behind all those that precede it. -/
def Task.enqueue (task : Task α) : List (Task α) → List (Task α)
  | [] => [task]
  | head :: rest => if head.precedes task then head :: task.enqueue rest else task :: head :: rest

/-- What a running task asks of the schedule. -/
inductive Request (α : Type) where
  | submit (priority : Int) (delay : Nat) (action : α)
  /-- Lets time pass. -/
  | spend (time : Nat)
  deriving DecidableEq, Repr

structure Schedule (α : Type) where
  now : Nat := 0
  /-- Tasks in the order in which they will run. -/
  pending : List (Task α) := []
  /-- Tasks submitted since the last one was chosen, in the order of submission. -/
  submitted : List (Task α) := []
  deriving DecidableEq, Repr

namespace Schedule

/-- Number of tasks that were not started yet. -/
def size (s : Schedule α) : Nat := s.pending.length + s.submitted.length

def isIdle (s : Schedule α) : Bool := s.size == 0

def apply (s : Schedule α) : Request α → Schedule α
  | .submit priority delay action =>
    { s with submitted := s.submitted ++ [⟨.after s.now delay, priority, action⟩] }
  | .spend time => { s with now := Clock.sleep s.now time }

def applyAll (s : Schedule α) (requests : List (Request α)) : Schedule α :=
  requests.foldl apply s

/-- Gives the submitted tasks their places. -/
def settle (s : Schedule α) : Schedule α :=
  { s with pending := s.submitted.foldl (fun queue task => task.enqueue queue) s.pending, submitted := [] }

end Schedule
end PenPlotter
