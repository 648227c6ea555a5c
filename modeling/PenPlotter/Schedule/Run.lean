import PenPlotter.Schedule.Basic

/-! Running a schedule: the first task is taken, the clock waits for its due time, the task acts, and
so on until nothing is left or a task fails. -/

namespace PenPlotter

/-- What a task can see of the schedule when it starts. -/
structure Moment where
  now : Nat
  /-- Number of tasks waiting behind it. -/
  waiting : Nat
  deriving DecidableEq, Repr

/-- What has come of a task: the context it leaves, what it asked for on the way, in order, and
whether it succeeded. -/
structure Outcome (ε α γ : Type) where
  context : γ
  requests : List (Request α) := []
  result : Except ε Unit := .ok ()

/-- What the tasks of a schedule do, and what is done after each one that succeeds. -/
structure Behaviour (ε α γ : Type) where
  perform : α → Moment → γ → Outcome ε α γ
  afterTask : Option (Nat → γ → γ) := none

inductive Stepped (ε α γ : Type) where
  /-- Nothing was left to do. -/
  | idle (schedule : Schedule α) (context : γ)
  | continued (schedule : Schedule α) (context : γ)
  | failed (error : ε) (schedule : Schedule α) (context : γ)

inductive Ran (ε α γ : Type) where
  | finished (result : Except ε Unit) (schedule : Schedule α) (context : γ)
  /-- The bound on the number of tasks was reached first. -/
  | unfinished (schedule : Schedule α) (context : γ)

namespace Behaviour

def after (b : Behaviour ε α γ) (now : Nat) (context : γ) : γ :=
  match b.afterTask with
  | some hook => hook now context
  | none => context

/-- Runs the task whose turn it is. -/
def step (b : Behaviour ε α γ) (s : Schedule α) (context : γ) : Stepped ε α γ :=
  let s := s.settle
  match s.pending with
  | [] => .idle s context
  | task :: rest =>
    let s := { s with now := task.due.start s.now, pending := rest }
    let outcome := b.perform task.action ⟨s.now, s.size⟩ context
    let s := s.applyAll outcome.requests
    match outcome.result with
    | .error error => .failed error s.settle outcome.context
    | .ok () => .continued s (b.after s.now outcome.context)

/-- Runs tasks until none is left or one fails, but no more than a number of them. -/
def run (b : Behaviour ε α γ) : Nat → Schedule α → γ → Ran ε α γ
  | 0, s, context => .unfinished s context
  | fuel + 1, s, context =>
    match b.step s context with
    | .idle s context => .finished (.ok ()) s context
    | .failed error s context => .finished (.error error) s context
    | .continued s context => b.run fuel s context

/-- A schedule with its behaviour as a record, for inspection. -/
def inspect (b : Behaviour ε α γ) (s : Schedule α) : String :=
  "Scheduler \x7b pending: " ++ toString s.pending.length ++
    ", submitted: " ++ toString s.submitted.length ++
    ", after_step: " ++ toString b.afterTask.isSome ++ " \x7d"

end Behaviour

/-- A task that is being written: its context so far and the requests it has made. -/
structure Draft (α γ : Type) where
  context : γ
  requests : List (Request α) := []

/-- The steps of a task. One that fails keeps what it did before. -/
abbrev Action (ε α γ β : Type) := ReaderT Moment (EStateM ε (Draft α γ)) β

namespace Action

def outcome (action : Action ε α γ Unit) (moment : Moment) (context : γ) : Outcome ε α γ :=
  match action moment { context } with
  | .ok () draft => ⟨draft.context, draft.requests, .ok ()⟩
  | .error error draft => ⟨draft.context, draft.requests, .error error⟩

def request (r : Request α) : Action ε α γ Unit := fun _ draft =>
  .ok () { draft with requests := draft.requests ++ [r] }

/-- Submits a task that is due after a delay. -/
def submit (task : α) (delay : Nat) (priority : Int) : Action ε α γ Unit :=
  request (.submit priority delay task)

end Action
end PenPlotter
