import PenPlotter.Fault
import PenPlotter.Schedule.Run

/-! Tasks that are plain data: a chore takes its time, submits its parts, may submit itself again a
number of times, and may fail at the end. What is done is written to a log. -/

namespace PenPlotter

inductive Chore where
  | make (name : String) (priority : Int) (delay : Nat) (takes : Nat) (parts : List Chore)
    (repeats : Nat) (error : Option String)

namespace Chore

inductive Entry where
  /-- A chore started at an instant, with a number of tasks waiting behind it. -/
  | started (name : String) (instant : Nat) (waiting : Nat)
  /-- A chore has succeeded. -/
  | done
  deriving DecidableEq, Repr

def toRequest : Chore → Request Chore
  | make name priority delay takes parts repeats error =>
    .submit priority delay (make name priority delay takes parts repeats error)

def perform : Chore → Moment → List Entry → Outcome Report Chore (List Entry)
  | make name priority delay takes parts repeats error, moment, log =>
    let again := match repeats with
      | 0 => []
      | left + 1 => [toRequest (make name priority delay takes parts left error)]
    { context := log ++ [.started name moment.now moment.waiting]
      requests := .spend takes :: parts.map toRequest ++ again
      result := match error with
        | some text => .error (.ofText text)
        | none => .ok () }

/-- Performs chores; with `marks`, each one that succeeds is followed by a mark in the log. -/
def behaviour (marks : Bool) : Behaviour Report Chore (List Entry) where
  perform := perform
  afterTask := if marks then some fun _ log => log ++ [.done] else none

end Chore
end PenPlotter
