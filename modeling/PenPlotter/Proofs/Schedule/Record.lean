import PenPlotter.Proofs.History
import PenPlotter.Proofs.Schedule.LeastFirst

/-! A schedule that keeps a record. Every task is stamped when it is submitted, and what is asked for, what
starts, how it ends and when the hook runs is written down in order. Keeping the record changes nothing
else, and whatever is recorded is written by a few kinds of steps. -/

namespace PenPlotter

structure Stamped (α : Type) where
  /-- How many tasks were submitted before. -/
  number : Nat
  /-- The instant of the submission. -/
  submitted : Nat
  delay : Nat
  action : α
  deriving DecidableEq, Repr

def Stamped.due (task : Stamped α) : Due := .after task.submitted task.delay

namespace Record

inductive Entry (α : Type) where
  | submitted (task : Stamped α)
  | spent (time : Nat)
  /-- A task started at an instant, with a number of tasks waiting behind it. -/
  | started (task : Stamped α) (instant waiting : Nat)
  | ended (task : Stamped α) (succeeded : Bool)
  | hook
  deriving DecidableEq, Repr

namespace Entry

def ofRequest : Request (Stamped α) → Entry α
  | .submit _ _ task => .submitted task
  | .spend time => .spent time

def submission? : Entry α → Option (Stamped α)
  | .submitted task => some task
  | _ => none

def start? : Entry α → Option (Stamped α)
  | .started task .. => some task
  | _ => none

/-- The clock after an entry. -/
def tick (now : Nat) : Entry α → Nat
  | .spent time => Clock.sleep now time
  | .started _ instant _ => instant
  | _ => now

end Entry

def submissions (log : List (Entry α)) : List (Stamped α) := log.filterMap Entry.submission?
def starts (log : List (Entry α)) : List (Stamped α) := log.filterMap Entry.start?
def clock (start : Nat) (log : List (Entry α)) : Nat := log.foldl Entry.tick start

section

variable (start : Nat) (log more : List (Entry α)) (entry : Entry α)

@[simp] theorem submissions_nil : submissions ([] : List (Entry α)) = [] := rfl
@[simp] theorem starts_nil : starts ([] : List (Entry α)) = [] := rfl
@[simp] theorem clock_nil : clock start ([] : List (Entry α)) = start := rfl

@[simp] theorem submissions_append : submissions (log ++ more) = submissions log ++ submissions more :=
  List.filterMap_append

@[simp] theorem starts_append : starts (log ++ more) = starts log ++ starts more :=
  List.filterMap_append

@[simp] theorem clock_append : clock start (log ++ more) = clock (clock start log) more :=
  List.foldl_append

@[simp] theorem submissions_cons :
    submissions (entry :: log) = entry.submission?.toList ++ submissions log := by
  unfold submissions
  cases h : entry.submission? <;> simp [h]

@[simp] theorem starts_cons : starts (entry :: log) = entry.start?.toList ++ starts log := by
  unfold starts
  cases h : entry.start? <;> simp [h]

@[simp] theorem clock_cons : clock start (entry :: log) = clock (entry.tick start) log := rfl

end

end Record

/-- Stamps the tasks of a row of requests, the first of them with the given number. -/
def Request.stamp (now number : Nat) : List (Request α) → List (Request (Stamped α))
  | [] => []
  | .submit priority delay action :: rest =>
    .submit priority delay ⟨number, now, delay, action⟩ :: stamp now (number + 1) rest
  | .spend time :: rest => .spend time :: stamp (Clock.sleep now time) number rest

/-- A schedule whose tasks are stamped, with its record. -/
structure Recorded (α : Type) where
  schedule : Schedule (Stamped α)
  log : List (Record.Entry α) := []

namespace Behaviour

def recorded (b : Behaviour ε α γ) : Behaviour ε (Stamped α) (γ × List (Record.Entry α)) where
  perform task moment context :=
    let outcome := b.perform task.action moment context.1
    let requests := Request.stamp moment.now (Record.submissions context.2).length outcome.requests
    let log := context.2 ++ .started task moment.now moment.waiting :: requests.map .ofRequest
    { context := (outcome.context, log ++ [.ended task outcome.result.isOk])
      requests
      result := outcome.result }
  afterTask := b.afterTask.map fun hook now context => (hook now context.1, context.2 ++ [.hook])

def recorder (b : Behaviour ε α γ) : Runner ε α γ (Recorded α) where
  apply r request :=
    let requests := Request.stamp r.schedule.now (Record.submissions r.log).length [request]
    ⟨r.schedule.applyAll requests, r.log ++ requests.map .ofRequest⟩
  settle r := { r with schedule := r.schedule.settle }
  run fuel r context :=
    match b.recorded.run fuel r.schedule (context, r.log) with
    | .finished result s (context, log) => (some result, ⟨s, log⟩, context)
    | .unfinished s (context, log) => (none, ⟨s, log⟩, context)

end Behaviour

/-! Without the stamps, a recorded schedule is the schedule itself. -/

def Task.map (f : α → β) (task : Task α) : Task β := ⟨task.due, task.priority, f task.action⟩

def Schedule.map (f : α → β) (s : Schedule α) : Schedule β :=
  ⟨s.now, s.pending.map (Task.map f), s.submitted.map (Task.map f)⟩

def Request.map (f : α → β) : Request α → Request β
  | .submit priority delay action => .submit priority delay (f action)
  | .spend time => .spend time

namespace Request

@[simp] theorem map_stamp (now number : Nat) (requests : List (Request α)) :
    (stamp now number requests).map (Request.map Stamped.action) = requests := by
  induction requests generalizing now number with
  | nil => rfl
  | cons request rest ih => cases request <;> simp [stamp,Request.map,ih]

end Request

namespace Schedule

variable (f : α → β) (s : Schedule α)

theorem enqueue_map (task : Task α) (queue : List (Task α)) :
    (task.map f).enqueue (queue.map (Task.map f)) = (task.enqueue queue).map (Task.map f) := by
  induction queue with
  | nil => rfl
  | cons head rest ih =>
    have same : (head.map f).precedes (task.map f) ↔ head.precedes task := Iff.rfl
    by_cases precedes : head.precedes task <;> simp [Task.enqueue,same,precedes,ih]

theorem settle_map : (s.map f).settle = s.settle.map f := by
  have placed (tasks queue : List (Task α)) :
      (tasks.map (Task.map f)).foldl (fun queue task => task.enqueue queue) (queue.map (Task.map f)) =
        (tasks.foldl (fun queue task => task.enqueue queue) queue).map (Task.map f) := by
    induction tasks generalizing queue with
    | nil => rfl
    | cons task tasks ih => simp only [List.map_cons,List.foldl_cons,enqueue_map,ih]
  simp [settle,Schedule.map,placed]

theorem queue_map : (s.map f).queue = s.queue.map (Task.map f) := by
  unfold queue
  rw [settle_map]
  rfl

theorem size_map : (s.map f).size = s.size := by simp [size,Schedule.map]

theorem applyAll_map (requests : List (Request α)) :
    (s.map f).applyAll (requests.map (Request.map f)) = (s.applyAll requests).map f := by
  induction requests generalizing s with
  | nil => rfl
  | cons request rest ih =>
    have first : (s.map f).apply (request.map f) = (s.apply request).map f := by
      cases request <;> simp [apply,Schedule.map,Request.map,Task.map]
    have step : (s.map f).applyAll ((request :: rest).map (Request.map f)) =
        ((s.map f).apply (request.map f)).applyAll (rest.map (Request.map f)) := rfl
    rw [step,first,ih]
    rfl

end Schedule

/-- The schedule without the stamps. -/
def Recorded.plain (r : Recorded α) : Schedule α := r.schedule.map Stamped.action

def Stepped.plain : Stepped ε (Stamped α) (γ × List (Record.Entry α)) → Stepped ε α γ
  | .idle s context => .idle (s.map Stamped.action) context.1
  | .continued s context => .continued (s.map Stamped.action) context.1
  | .failed error s context => .failed error (s.map Stamped.action) context.1

namespace Behaviour

theorem step_plain (b : Behaviour ε α γ) (s : Schedule (Stamped α)) (context : γ) (log : List (Record.Entry α)) :
    b.step (s.map Stamped.action) context = (b.recorded.step s (context,log)).plain := by
  have queue := s.queue_map Stamped.action
  cases first : s.queue with
  | nil =>
    rw [first] at queue
    rw [b.step_idle context queue,b.recorded.step_idle _ first,s.settle_map]
    rfl
  | cons task rest =>
    rw [first] at queue
    rw [b.step_taken context queue,b.recorded.step_taken _ first]
    have started : (s.map Stamped.action).taken (task.map Stamped.action) (rest.map (Task.map Stamped.action)) =
        (s.taken task rest).map Stamped.action := rfl
    rw [started]
    simp only [Schedule.size_map]
    generalize moment : (⟨(s.taken task rest).now,(s.taken task rest).size⟩ : Moment) = m
    have same : (⟨((s.taken task rest).map Stamped.action).now,(s.taken task rest).size⟩ : Moment) = m := moment
    have asked := Schedule.applyAll_map Stamped.action (s.taken task rest)
      (Request.stamp m.now (Record.submissions log).length (b.perform task.action.action m context).requests)
    rw [Request.map_stamp] at asked
    rw [same]
    simp only [Task.map,recorded,asked]
    cases (b.perform task.action.action m context).result with
    | error error => simp only [Stepped.plain,Schedule.settle_map]
    | ok =>
      simp only [Stepped.plain,after]
      cases b.afterTask <;> rfl

theorem run_plain (b : Behaviour ε α γ) (fuel : Nat) (r : Recorded α) (context : γ) :
    (b.recorder.run fuel r context).1 = (b.runner.run fuel r.plain context).1 ∧
      (b.recorder.run fuel r context).2.1.plain = (b.runner.run fuel r.plain context).2.1 ∧
      (b.recorder.run fuel r context).2.2 = (b.runner.run fuel r.plain context).2.2 := by
  obtain ⟨s,log⟩ := r
  induction fuel generalizing s log context with
  | zero => exact ⟨rfl,rfl,rfl⟩
  | succ fuel ih =>
    have step := b.step_plain s context log
    simp only [recorder,runner,run,Recorded.plain,step]
    cases b.recorded.step s (context,log) with
    | idle | failed => exact ⟨rfl,rfl,rfl⟩
    | continued s context => exact ih context.1 s context.2

/-- Whatever happens, a schedule that keeps a record gives the same results and leaves the same contexts. -/
theorem live_plain (b : Behaviour ε α γ) (events : List (Schedule.Event α)) (now : Nat) (context : γ) :
    let life := b.recorder.live events { schedule := { now } } context
    let actual := b.runner.live events { now } context
    life.results = actual.results ∧ life.state.plain = actual.state ∧ life.context = actual.context := by
  refine Runner.live_agrees (fun (r : Recorded α) s => r.plain = s) ?_ ?_ ?_ events _ _ context rfl
  · rintro r s request rfl
    have asked := Schedule.applyAll_map Stamped.action r.schedule
      (Request.stamp r.schedule.now (Record.submissions r.log).length [request])
    rw [Request.map_stamp] at asked
    exact asked.symm
  · rintro r s rfl
    exact (Schedule.settle_map ..).symm
  · rintro fuel r s context rfl
    exact b.run_plain fuel r context

end Behaviour
end PenPlotter
