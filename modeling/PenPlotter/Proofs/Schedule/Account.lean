import PenPlotter.Proofs.Schedule.Record

/-! How a record is written, one constructor for each kind of step, and what it accounts for. Every task
submitted has either started or is waiting, and the clock is where the record says. The moments that are
reached include those inside a task, between its requests. -/

namespace PenPlotter.Record

variable {α : Type}

inductive Stage (α : Type) where
  | resting
  | acting (task : Stamped α)
  | ended (succeeded : Bool)

/-- Whether requests can be made: by a task that acts, or from outside. -/
def Stage.asks : Stage α → Bool
  | .resting | .acting _ => true
  | .ended _ => false

/-- The records and schedules that are reached by tasks that may do anything. -/
inductive Written (start : Nat) (hooked : Bool) :
    Stage α → List (Entry α) → Schedule (Stamped α) → Prop where
  | opened : Written start hooked .resting [] { now := start }
  | settled : Written start hooked stage log s → Written start hooked stage log s.settle
  | submitted : Written start hooked stage log s → stage.asks = true →
      task.number = (submissions log).length → task.submitted = s.now →
      Written start hooked stage (log ++ [.submitted task]) (s.apply (.submit priority task.delay task))
  | spent : Written start hooked stage log s → stage.asks = true →
      Written start hooked stage (log ++ [.spent time]) (s.apply (.spend time))
  | started : Written start hooked .resting log s → s.queue = task :: rest →
      Written start hooked (.acting task.action)
        (log ++ [.started task.action (s.taken task rest).now (s.taken task rest).size]) (s.taken task rest)
  | ended : Written start hooked (.acting task) log s →
      Written start hooked (.ended succeeded) (log ++ [.ended task succeeded]) s
  | called : Written start hooked (.ended true) log s → hooked = true →
      Written start hooked .resting (log ++ [.hook]) s
  | rested : Written start hooked (.ended succeeded) log s → (succeeded && hooked) = false →
      Written start hooked .resting log s

namespace Written

variable {start : Nat} {hooked : Bool} {stage : Stage α} {log : List (Entry α)} {s : Schedule (Stamped α)}

theorem asked (written : Written start hooked stage log s) (asks : stage.asks = true)
    (requests : List (Request α)) :
    Written start hooked stage (log ++ (Request.stamp s.now (submissions log).length requests).map .ofRequest)
      (s.applyAll (Request.stamp s.now (submissions log).length requests)) := by
  induction requests generalizing log s with
  | nil => simpa [Request.stamp,Schedule.applyAll] using written
  | cons request rest ih =>
    cases request with
    | submit priority delay action =>
      let task : Stamped α := ⟨(submissions log).length,s.now,delay,action⟩
      have first : Written start hooked stage (log ++ [.submitted task])
          (s.apply (.submit priority task.delay task)) := written.submitted asks rfl rfl
      have later := ih first
      simp only [submissions_append,submissions_cons,Entry.submission?,submissions_nil,Option.toList_some,
        List.length_append,List.length_cons,List.length_nil,List.append_assoc] at later
      exact later
    | spend time =>
      have first : Written start hooked stage (log ++ [.spent time]) (s.apply (.spend time)) :=
        written.spent asks
      have later := ih first
      simp only [submissions_append,submissions_cons,Entry.submission?,submissions_nil,Option.toList_none,
        List.append_nil,List.append_assoc] at later
      exact later

theorem step (b : Behaviour ε α γ) (context : γ) (written : Written start b.afterTask.isSome .resting log s) :
    match b.recorded.step s (context,log) with
    | .idle s left | .continued s left | .failed _ s left =>
      Written start b.afterTask.isSome .resting left.2 s := by
  cases first : s.queue with
  | nil =>
    rw [b.recorded.step_idle _ first]
    exact written.settled
  | cons task rest =>
    rw [b.recorded.step_taken _ first]
    have taken := written.started first
    generalize s.taken task rest = t at taken ⊢
    have acted := taken.asked rfl (b.perform task.action.action ⟨t.now,t.size⟩ context).requests
    simp only [submissions_append,submissions_cons,Entry.submission?,submissions_nil,Option.toList_none,
      List.append_nil,List.append_assoc] at acted
    simp only [Behaviour.recorded]
    generalize b.perform task.action.action ⟨t.now,t.size⟩ context = outcome at acted ⊢
    cases result : outcome.result with
    | error error =>
      have closed : Written _ _ (.ended false) _ _ := acted.ended
      simpa [Except.isOk,Except.toBool] using (closed.rested rfl).settled
    | ok =>
      have closed : Written _ _ (.ended true) _ _ := acted.ended
      cases hook : b.afterTask with
      | none =>
        rw [hook] at closed
        simpa [Except.isOk,Except.toBool,Behaviour.after] using closed.rested rfl
      | some hook' =>
        rw [hook] at closed
        simpa [Except.isOk,Except.toBool,Behaviour.after] using closed.called rfl

theorem run (b : Behaviour ε α γ) (fuel : Nat) (context : γ)
    (written : Written start b.afterTask.isSome .resting log s) :
    let after := (b.recorder.run fuel ⟨s,log⟩ context).2.1
    Written start b.afterTask.isSome .resting after.log after.schedule := by
  induction fuel generalizing log s context with
  | zero => exact written
  | succ fuel ih =>
    have step := written.step b context
    simp only [Behaviour.recorder,Behaviour.run]
    cases made : b.recorded.step s (context,log) with
    | idle | failed =>
      simp only [made] at step
      exact step
    | continued s left =>
      simp only [made] at step
      exact ih left.1 step

/-- Every life of a schedule writes its record in these steps. -/
theorem live (b : Behaviour ε α γ) (events : List (Schedule.Event α)) (context : γ)
    (written : Written start b.afterTask.isSome .resting log s) :
    let after := (b.recorder.live events ⟨s,log⟩ context).state
    Written start b.afterTask.isSome .resting after.log after.schedule := by
  induction events generalizing log s context with
  | nil => exact written
  | cons event events ih =>
    cases event with
    | request request => exact ih context (written.asked rfl [request])
    | settle => exact ih context written.settled
    | run fuel =>
      have ran := written.run b fuel context
      exact ih _ ran

/-! What a record accounts for. -/

theorem now (written : Written start hooked stage log s) : s.now = clock start log := by
  induction written with
  | opened => rfl
  | settled _ ih | rested _ _ ih => exact ih
  | spent _ _ ih => simp [ih,Entry.tick,Schedule.apply]
  | submitted _ _ _ _ ih => simp [ih,Entry.tick,Schedule.apply]
  | started => simp [Entry.tick]
  | ended _ ih | called _ _ ih => simp [ih,Entry.tick]

theorem numbers (written : Written start hooked stage log s) :
    (submissions log).map Stamped.number = List.range (submissions log).length := by
  induction written with
  | opened => rfl
  | submitted _ _ number _ ih => simp [Entry.submission?,ih,number,List.range_succ]
  | settled _ ih | rested _ _ ih => exact ih
  | spent _ _ ih | started _ _ ih | ended _ ih | called _ _ ih => simpa [Entry.submission?] using ih

/-- Nothing is lost and nothing is done twice: the tasks submitted are those that have started and those
that wait. -/
theorem tasks (written : Written start hooked stage log s) :
    (starts log ++ s.queue.map Task.action).Perm (submissions log) := by
  induction written with
  | opened => exact .refl _
  | @submitted stage log s priority task _ _ _ _ ih =>
    have placed := (Task.enqueue_perm ⟨.after s.now task.delay,priority,task⟩ s.queue).map Task.action
    have behind := (placed.append_left (starts log)).trans List.perm_middle
    have shown : (starts log ++ (s.apply (.submit priority task.delay task)).queue.map Task.action).Perm
        (task :: submissions log) := by
      rw [Schedule.queue_submit]
      exact behind.trans (ih.cons task)
    simpa [Entry.start?,Entry.submission?] using shown.trans (List.perm_append_singleton task _).symm
  | spent _ _ ih => simpa [Entry.start?,Entry.submission?] using ih
  | started _ first ih =>
    rw [first] at ih
    simpa [Entry.start?,Entry.submission?] using ih
  | settled _ ih | rested _ _ ih => exact ih
  | ended _ ih | called _ _ ih => simpa [Entry.start?,Entry.submission?] using ih

theorem size (written : Written start hooked stage log s) :
    s.size + (starts log).length = (submissions log).length := by
  have length := written.tasks.length_eq
  rw [List.length_append,List.length_map,s.length_queue] at length
  omega

theorem distinct (written : Written start hooked stage log s) : (submissions log).Nodup := by
  have numbered : ((submissions log).map Stamped.number).Nodup := by
    rw [written.numbers]
    exact List.nodup_range
  exact List.Pairwise.of_map Stamped.number (fun _ _ apart same => apart (congrArg _ same)) numbered

/-- No task starts twice. -/
theorem started_once (written : Written start hooked stage log s) : (starts log).Nodup :=
  (List.nodup_append.mp (written.tasks.nodup_iff.mpr written.distinct)).1

end Written

end PenPlotter.Record
