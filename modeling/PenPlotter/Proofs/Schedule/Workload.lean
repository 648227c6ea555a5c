import Mathlib.Algebra.GroupWithZero.Nat
import PenPlotter.Proofs.Schedule.Account
import PenPlotter.Schedule.Chore

/-! Work that comes to an end. A workload is a finite tree of tasks, each of which submits its parts when it is done and
may be done a number of times. A schedule whose tasks keep to such plans does all of them: each turn takes one task off
the load, whether it succeeds or fails, and an error only means that the schedule has to be run again. -/

namespace PenPlotter

inductive Workload where
  /-- A task with its parts, and how many more times it is done. -/
  | make (parts : List Workload) (repeats : Nat)

namespace Workload

/-- Number of tasks in a workload, where each repetition counts again with all its parts. -/
def weight : Workload → Nat
  | make parts repeats => (repeats + 1) * (1 + (parts.map weight).sum)

/-- What there is to do once a task was done. -/
def rest : Workload → List Workload
  | make parts 0 => parts
  | make parts (left + 1) => parts ++ [make parts left]

/-- To do a task takes one off. -/
theorem weight_rest (work : Workload) : work.weight = (work.rest.map weight).sum + 1 := by
  cases work with
  | make parts repeats =>
    cases repeats with
    | zero => simp [weight,rest,Nat.add_comm]
    | succ left =>
      simp only [weight,rest,List.map_append,List.sum_append,List.map_singleton,List.sum_singleton]
      rw [Nat.succ_mul (left + 1)]
      omega

end Workload

namespace Request

def action? : Request α → Option α
  | .submit _ _ action => some action
  | .spend _ => none

/-- What is submitted in a row of requests. -/
def actions (requests : List (Request α)) : List α := requests.filterMap action?

@[simp] theorem actions_nil : actions ([] : List (Request α)) = [] := rfl

@[simp] theorem actions_append (requests more : List (Request α)) :
    actions (requests ++ more) = actions requests ++ actions more := List.filterMap_append

@[simp] theorem actions_submit (priority : Int) (delay : Nat) (action : α) (rest : List (Request α)) :
    actions (.submit priority delay action :: rest) = action :: actions rest := rfl

@[simp] theorem actions_spend (time : Nat) (rest : List (Request α)) :
    actions (.spend time :: rest) = actions rest := rfl

theorem actions_tasks (now : Nat) (requests : List (Request α)) :
    (tasks now requests).map Task.action = actions requests := by
  induction requests generalizing now with
  | nil => rfl
  | cons request rest ih => cases request <;> simp [tasks,ih]

theorem actions_stamp (now number : Nat) (requests : List (Request α)) :
    (actions (stamp now number requests)).map Stamped.action = actions requests := by
  induction requests generalizing now number with
  | nil => rfl
  | cons request rest ih => cases request <;> simp [stamp,ih]

end Request

namespace Schedule

variable {plan : α → Workload} {s : Schedule α}

/-- Number of tasks that a schedule has still to do, those included that are not submitted yet. -/
def load (plan : α → Workload) (s : Schedule α) : Nat := (s.queue.map fun task => (plan task.action).weight).sum

theorem load_settle : s.settle.load plan = s.load plan := rfl

theorem load_of_queue (first : s.queue = task :: rest) :
    s.load plan = (plan task.action).weight + (s.taken task rest).load plan := by
  simp [load,first]

theorem load_applyAll (requests : List (Request α)) :
    (s.applyAll requests).load plan =
      s.load plan + ((Request.actions requests).map fun action => (plan action).weight).sum := by
  have sum (s : Schedule α) : s.load plan =
      ((s.pending ++ s.submitted).map fun task => (plan task.action).weight).sum :=
    (s.queue_perm.map _).sum_nat
  rw [sum,sum s,s.applyAll_eq,← Request.actions_tasks s.now]
  simp [Function.comp_def,Nat.add_assoc]

end Schedule

namespace Behaviour

/-- Whatever a task does, it submits what its plan says, in whatever order; it may let time pass, and it may fail. -/
def KeepsTo (b : Behaviour ε α γ) (plan : α → Workload) : Prop :=
  ∀ action moment context,
    ((Request.actions (b.perform action moment context).requests).map plan).Perm (plan action).rest

variable {b : Behaviour ε α γ} {plan : α → Workload}

theorem KeepsTo.recorded (keeps : b.KeepsTo plan) : b.recorded.KeepsTo fun task => plan task.action := by
  intro task moment context
  have submitted := Request.actions_stamp moment.now (Record.submissions context.2).length
    (b.perform task.action moment context.1).requests
  have kept := keeps task.action moment context.1
  rw [← submitted,List.map_map] at kept
  exact kept

/-- A turn takes one task off the load. -/
theorem KeepsTo.load_applyAll (keeps : b.KeepsTo plan) {s : Schedule α} (first : s.queue = task :: rest)
    (moment : Moment) (context : γ) :
    s.load plan =
      ((s.taken task rest).applyAll (b.perform task.action moment context).requests).load plan + 1 := by
  have kept := ((keeps task.action moment context).map Workload.weight).sum_nat
  have one := (plan task.action).weight_rest
  rw [Schedule.load_of_queue first,Schedule.load_applyAll]
  simp only [List.map_map,Function.comp_def] at kept
  omega

end Behaviour

namespace Record

variable {α : Type}

def Entry.failure? : Entry α → Option (Stamped α)
  | .ended task false => some task
  | _ => none

/-- The tasks that have failed. -/
def failures (log : List (Entry α)) : List (Stamped α) := log.filterMap Entry.failure?

@[simp] theorem failures_nil : failures ([] : List (Entry α)) = [] := rfl

@[simp] theorem failures_append (log more : List (Entry α)) : failures (log ++ more) = failures log ++ failures more :=
  List.filterMap_append

@[simp] theorem failures_cons (entry : Entry α) (log : List (Entry α)) :
    failures (entry :: log) = entry.failure?.toList ++ failures log := by
  unfold failures
  cases h : entry.failure? <;> simp [h]

/-- Requests are recorded as such: nothing starts and nothing fails. -/
theorem starts_requests (requests : List (Request (Stamped α))) :
    starts (requests.map Entry.ofRequest) = [] ∧ failures (requests.map Entry.ofRequest) = [] := by
  induction requests with
  | nil => exact ⟨rfl,rfl⟩
  | cons request rest ih => cases request <;> simpa [Entry.ofRequest,Entry.start?,Entry.failure?] using ih

end Record

namespace Recorded

open Record

/-- The number of tasks that were started or are still to be done. -/
def extent (plan : α → Workload) (r : Recorded α) : Nat :=
  (starts r.log).length + r.schedule.load fun task => plan task.action

/-- From one moment to another nothing is added to what there is to do, some of it is done, and a number of tasks
fail. -/
structure Works (plan : α → Workload) (failed : Nat) (r left : Recorded α) : Prop where
  extent : left.extent plan = r.extent plan
  failures : (failures left.log).length = (Record.failures r.log).length + failed

theorem Works.trans {plan : α → Workload} {failed more : Nat} {r left last : Recorded α}
    (first : Works plan failed r left) (next : Works plan more left last) : Works plan (failed + more) r last where
  extent := next.extent.trans first.extent
  failures := by rw [next.failures,first.failures,Nat.add_assoc]

end Recorded

namespace Behaviour

open Record Recorded

variable {b : Behaviour ε α γ} {plan : α → Workload} {r : Recorded α} {context : γ}

/-- A task that is done is recorded as started, and as failed if it fails. -/
theorem recorded_perform (b : Behaviour ε α γ) (task : Stamped α) (moment : Moment) (context : γ)
    (log : List (Entry α)) :
    let outcome := b.recorded.perform task moment (context,log)
    (starts outcome.context.2).length = (starts log).length + 1 ∧
      (failures outcome.context.2).length = (failures log).length + if outcome.result.isOk then 0 else 1 := by
  obtain ⟨none,fine⟩ := starts_requests (Request.stamp moment.now (submissions log).length
    (b.perform task.action moment context).requests)
  cases result : (b.perform task.action moment context).result <;>
    simp [recorded,Entry.start?,Entry.failure?,none,fine,result,Except.isOk,Except.toBool]

/-- What is done after a task neither starts nor fails. -/
theorem recorded_after (b : Behaviour ε α γ) (now : Nat) (context : γ × List (Entry α)) :
    starts (b.recorded.after now context).2 = starts context.2 ∧
      failures (b.recorded.after now context).2 = failures context.2 := by
  cases hook : b.afterTask <;> simp [after,recorded,hook,Entry.start?,Entry.failure?]

/-- A turn does one of the tasks there are to do. -/
theorem KeepsTo.step (keeps : b.KeepsTo plan) (r : Recorded α) (context : γ) :
    match b.recorded.step r.schedule (context,r.log) with
    | .idle s left => Works plan 0 r ⟨s,left.2⟩ ∧ s.size = 0
    | .continued s left => Works plan 0 r ⟨s,left.2⟩ ∧ s.load (plan ·.action) < r.schedule.load (plan ·.action)
    | .failed error s left => Works plan 1 r ⟨s,left.2⟩ ∧ s.load (plan ·.action) < r.schedule.load (plan ·.action) ∧
        ∃ action moment context, (b.perform action moment context).result = .error error := by
  cases first : r.schedule.queue with
  | nil =>
    rw [b.recorded.step_idle _ first]
    refine ⟨⟨rfl,rfl⟩,?_⟩
    rw [← Schedule.length_queue,Schedule.queue_settle,first,List.length_nil]
  | cons task rest =>
    rw [b.recorded.step_taken _ first]
    dsimp only
    generalize (⟨(r.schedule.taken task rest).now,(r.schedule.taken task rest).size⟩ : Moment) = m
    have taken := keeps.recorded.load_applyAll first m (context,r.log)
    obtain ⟨started,failed⟩ := b.recorded_perform task.action m context r.log
    have same : (b.recorded.perform task.action m (context,r.log)).result =
      (b.perform task.action.action m context).result := rfl
    generalize b.recorded.perform task.action m (context,r.log) = outcome at taken started failed same
    generalize (r.schedule.taken task rest).applyAll outcome.requests = s at taken ⊢
    cases result : outcome.result with
    | error error =>
      have one : (failures outcome.context.2).length = (failures r.log).length + 1 := by
        rw [failed,result]
        rfl
      have extent : extent plan ⟨s.settle,outcome.context.2⟩ = r.extent plan := by
        simp only [extent,Schedule.load_settle]
        omega
      exact ⟨⟨extent,one⟩,by rw [Schedule.load_settle]; omega,task.action.action,m,context,same.symm.trans result⟩
    | ok =>
      obtain ⟨starts,fails⟩ := b.recorded_after s.now outcome.context
      have none : (failures (b.recorded.after s.now outcome.context).2).length = (failures r.log).length + 0 := by
        rw [fails,failed,result]
        rfl
      have extent : extent plan ⟨s,(b.recorded.after s.now outcome.context).2⟩ = r.extent plan := by
        simp only [extent,starts]
        omega
      exact ⟨⟨extent,none⟩,by omega⟩

/-- A run that may take more turns than there are tasks comes to an end: it does all there is to do, or it stops at a
task that fails. -/
theorem KeepsTo.run (keeps : b.KeepsTo plan) {fuel : Nat} {r : Recorded α} (context : γ)
    (enough : r.schedule.load (plan ·.action) < fuel) :
    match b.recorder.run fuel r context with
    | (none,_) => False
    | (some (.ok ()),left,_) => Works plan 0 r left ∧ left.schedule.size = 0
    | (some (.error error),left,_) => Works plan 1 r left ∧
        left.schedule.load (plan ·.action) < r.schedule.load (plan ·.action) ∧
        ∃ action moment context, (b.perform action moment context).result = .error error := by
  induction fuel generalizing r context with
  | zero => omega
  | succ fuel ih =>
    have step := keeps.step r context
    simp only [recorder,Behaviour.run]
    cases made : b.recorded.step r.schedule (context,r.log) with
    | idle s left | failed error s left =>
      simp only [made] at step
      exact step
    | continued s left =>
      simp only [made] at step
      obtain ⟨works,less⟩ := step
      have later := ih (r := ⟨s,left.2⟩) left.1 (Nat.lt_of_lt_of_le less (Nat.le_of_lt_succ enough))
      simp only [recorder] at later
      -- The further run works on from where this turn ends.
      cases ran : b.recorded.run fuel s left with
      | unfinished => simp only [ran] at later
      | finished result s' last =>
        simp only [ran] at later ⊢
        cases result with
        | ok => exact ⟨by simpa using works.trans later.1,later.2⟩
        | error error =>
          obtain ⟨worked,fewer,cause⟩ := later
          exact ⟨by simpa using works.trans worked,by omega,cause⟩

/-- Run again after every error, a schedule comes to an end with everything done. -/
theorem KeepsTo.rounds (keeps : b.KeepsTo plan) {fuel : Nat} {r : Recorded α} (context : γ)
    (enough : r.schedule.load (plan ·.action) < fuel) :
    ∃ errors : List ε,
      let life := b.recorder.live (List.replicate (errors.length + 1) (.run fuel)) r context
      life.results = errors.map (some ∘ .error) ++ [some (.ok ())] ∧ Works plan errors.length r life.state ∧
        life.state.schedule.size = 0 ∧
        ∀ error ∈ errors, ∃ action moment context, (b.perform action moment context).result = .error error := by
  induction todo : r.schedule.load (plan ·.action) using Nat.strongRecOn generalizing r context with
  | ind load ih =>
    subst todo
    have ran := keeps.run context enough
    cases came : b.recorder.run fuel r context with
    | mk result rest =>
      obtain ⟨left,last⟩ := rest
      rw [came] at ran
      rcases result with _ | error | done
      · exact ran.elim
      · obtain ⟨works,less,cause⟩ := ran
        obtain ⟨errors,results,worked,idle,causes⟩ := ih _ less (r := left) last (by omega) rfl
        refine ⟨error :: errors,?_⟩
        rw [List.length_cons,List.replicate_succ]
        simp only [Runner.live,came]
        have failed := works.trans worked
        rw [Nat.add_comm] at failed
        exact ⟨by simp [results],failed,idle,List.forall_mem_cons.mpr ⟨cause,causes⟩⟩
      · refine ⟨[],?_⟩
        simp only [List.length_nil,Nat.zero_add,List.replicate_one,Runner.live,came]
        exact ⟨rfl,ran.1,ran.2,by simp⟩

/-- To ask for tasks from outside adds what they weigh to the load, and to nothing else. -/
theorem live_requests (b : Behaviour ε α γ) (plan : α → Workload) (requests : List (Request α)) (r : Recorded α)
    (context : γ) :
    ∃ asked : Recorded α,
      (∀ events, b.recorder.live (requests.map .request ++ events) r context = b.recorder.live events asked context) ∧
        asked.schedule.load (plan ·.action) = r.schedule.load (plan ·.action) +
          ((Request.actions requests).map fun action => (plan action).weight).sum ∧
        starts asked.log = starts r.log ∧ failures asked.log = failures r.log := by
  induction requests generalizing r with
  | nil => exact ⟨r,fun _ => rfl,rfl,rfl,rfl⟩
  | cons request rest ih =>
    let stamped := Request.stamp r.schedule.now (submissions r.log).length [request]
    obtain ⟨asked,same,load,started,failed⟩ := ih (b.recorder.apply r request)
    have actions := Request.actions_stamp r.schedule.now (submissions r.log).length [request]
    have weights : ((Request.actions stamped).map fun task => (plan task.action).weight).sum =
        ((Request.actions [request]).map fun action => (plan action).weight).sum := by
      rw [← actions,List.map_map]
      rfl
    have split : Request.actions (request :: rest) = Request.actions [request] ++ Request.actions rest :=
      Request.actions_append [request] rest
    have added : (b.recorder.apply r request).schedule.load (plan ·.action) = r.schedule.load (plan ·.action) +
        ((Request.actions [request]).map fun action => (plan action).weight).sum :=
      (Schedule.load_applyAll stamped).trans (by rw [weights])
    obtain ⟨none,fine⟩ := starts_requests stamped
    refine ⟨asked,same,?_,?_,?_⟩
    · rw [load,added,split,List.map_append,List.sum_append]
      omega
    · rw [started]
      simp [recorder,stamped,none]
    · rw [failed]
      simp [recorder,stamped,fine]

/-- Whatever finite workloads are asked for, a schedule does all of them. Each run comes to an end; run again after
every error, the schedule has nothing left to do at the end of the first run without one. By then it has done as many
tasks as the workloads weigh, and there was one error for each task that failed. -/
theorem finite_work_is_done (b : Behaviour ε α γ) (plan : α → Workload) (keeps : b.KeepsTo plan) (now : Nat)
    (context : γ) (forest : List (Request α)) (fuel : Nat)
    (enough : ((Request.actions forest).map fun action => (plan action).weight).sum < fuel) :
    ∃ errors : List ε,
      let events := forest.map .request ++ List.replicate (errors.length + 1) (.run fuel)
      let actual := b.runner.live events { now } context
      let life := b.recorder.live events { schedule := { now } } context
      let log := life.state.log
      -- The record is of what the schedule does.
      (life.results = actual.results ∧ life.state.plain = actual.state ∧ life.context = actual.context) ∧
      actual.results = errors.map (some ∘ .error) ++ [some (.ok ())] ∧
      (starts log).length = ((Request.actions forest).map fun action => (plan action).weight).sum ∧
      (failures log).length = errors.length ∧
      actual.state.size = 0 ∧
      ((∀ action moment context, (b.perform action moment context).result = .ok ()) → errors = []) := by
  obtain ⟨asked,opens,load,started,failed⟩ := b.live_requests plan forest { schedule := { now } } context
  have nothing : ({ now } : Schedule (Stamped α)).load (plan ·.action) = 0 := rfl
  rw [nothing,Nat.zero_add] at load
  obtain ⟨errors,results,works,idle,causes⟩ := keeps.rounds context (load ▸ enough)
  refine ⟨errors,?_⟩
  intro events actual life log
  have same := b.live_plain events now context
  have ends : life = b.recorder.live (List.replicate (errors.length + 1) (.run fuel)) asked context := opens _
  rw [← ends] at results works idle
  have size : actual.state.size = 0 := by
    rw [← same.2.1]
    exact (life.state.schedule.size_map Stamped.action).trans idle
  have left : life.state.schedule.load (plan ·.action) = 0 := by
    unfold Schedule.load
    rw [List.length_eq_zero_iff.mp (life.state.schedule.length_queue.trans idle)]
    rfl
  have done : (starts log).length + life.state.schedule.load (plan ·.action) =
      (starts asked.log).length + asked.schedule.load (plan ·.action) := works.extent
  rw [left,started,load,starts_nil,List.length_nil,Nat.zero_add,Nat.add_zero] at done
  have fails : (failures log).length = (failures asked.log).length + errors.length := works.failures
  rw [failed,failures_nil,List.length_nil,Nat.zero_add] at fails
  refine ⟨same,same.1.symm.trans results,done,fails,size,?_⟩
  intro succeed
  refine List.eq_nil_iff_forall_not_mem.mpr fun error member => ?_
  obtain ⟨action,moment,context,fails⟩ := causes error member
  exact nomatch (succeed action moment context).symm.trans fails

end Behaviour

namespace Chore

/-- A chore is a finite tree itself. -/
def plan : Chore → Workload
  | make _ _ _ _ parts repeats _ => .make (parts.map plan) repeats

theorem actions_parts (parts : List Chore) : Request.actions (parts.map toRequest) = parts := by
  induction parts with
  | nil => rfl
  | cons part rest ih =>
    cases part
    exact congrArg _ ih

theorem behaviour_keeps (marks : Bool) : (behaviour marks).KeepsTo plan := by
  intro chore moment log
  cases chore with
  | make name priority delay takes parts repeats error =>
    cases repeats with
    | zero =>
      show ((Request.actions (.spend takes :: parts.map toRequest ++ [])).map plan).Perm _
      simp [actions_parts,plan,Workload.rest]
    | succ left =>
      show ((Request.actions (.spend takes :: parts.map toRequest ++
        [toRequest (make name priority delay takes parts left error)])).map plan).Perm _
      rw [Request.actions_append,Request.actions_spend,actions_parts]
      simp [toRequest,plan,Workload.rest]

end Chore

open Record Chore in
/-- A chore that is done twice and fails both times, with a part that is done three times, and another chore: nine tasks
in all. -/
theorem Behaviour.chores_are_done_in_spite_of_errors :
    let part : Chore := .make "part" 1 3 2 [] 2 none
    let whole : Chore := .make "whole" 0 2 5 [part] 1 (some "broken")
    let forest := [toRequest whole,toRequest (.make "quick" 0 0 0 [] 0 none)]
    (behaviour true).KeepsTo plan ∧
      ((Request.actions forest).map fun chore => chore.plan.weight).sum < 10 ∧
      ∃ errors : List Report,
        let life := (behaviour true).recorder.live
          (forest.map .request ++ List.replicate (errors.length + 1) (.run 10)) { schedule := { now := 7 } } []
        life.results = errors.map (some ∘ .error) ++ [some (.ok ())] ∧
          (starts life.state.log).length = 9 ∧ (failures life.state.log).length = errors.length := by
  intro part whole forest
  have total : ((Request.actions forest).map fun chore => chore.plan.weight).sum = 9 := by
    simp [forest,part,whole,toRequest,Request.actions,Request.action?,plan,Workload.weight]
  have enough : ((Request.actions forest).map fun chore => chore.plan.weight).sum < 10 := by omega
  obtain ⟨errors,same,results,started,failed,_,_⟩ :=
    (behaviour true).finite_work_is_done plan (behaviour_keeps true) 7 [] forest 10 enough
  exact ⟨behaviour_keeps true,enough,errors,same.1.trans results,started.trans total,failed⟩

end PenPlotter
