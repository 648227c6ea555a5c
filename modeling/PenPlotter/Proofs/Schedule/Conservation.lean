import PenPlotter.Schedule.Chore
import PenPlotter.Proofs.Schedule.Account
import PenPlotter.Proofs.Schedule.Resume

/-! Conservation of work. At every moment the tasks waiting are those submitted and not started, the hook
follows each task that succeeds, and an error only pauses a schedule: running again does what one run
without errors would have done. -/

namespace PenPlotter

namespace Schedule

@[simp] theorem size_taken (s : Schedule α) (task : Task α) (rest : List (Task α)) :
    (s.taken task rest).size = rest.length := by
  simp [taken,size]

theorem size_applyAll (s : Schedule α) (requests : List (Request α)) :
    (s.applyAll requests).size = s.size + (Request.tasks s.now requests).length := by
  simp only [s.applyAll_eq,size,List.length_append]
  omega

theorem size_of_queue {s : Schedule α} (first : s.queue = task :: rest) : s.size = rest.length + 1 := by
  rw [← s.length_queue,first,List.length_cons]

end Schedule

namespace Record

variable {α : Type}

/-- A task that starts was submitted and has not started before, and all others for which this is so are
waiting behind it. -/
def Entry.Accounted (before : List (Entry α)) : Entry α → Prop
  | .started task _ waiting => task ∈ submissions before ∧ task ∉ starts before ∧
      waiting + ((starts before).length + 1) = (submissions before).length
  | _ => True

/-- A task has just succeeded and the hook is to run. -/
def HookDue (hooked : Bool) (log : List (Entry α)) : Prop :=
  hooked = true ∧ ∃ task, log.getLast? = some (.ended task true)

@[simp] theorem hookDue_nil (hooked : Bool) : ¬ HookDue hooked ([] : List (Entry α)) := by
  simp [HookDue]

@[simp] theorem hookDue_append (hooked : Bool) (log : List (Entry α)) (entry : Entry α) :
    HookDue hooked (log ++ [entry]) ↔ hooked = true ∧ ∃ task, entry = .ended task true := by
  simp [HookDue]

theorem Stage.not_ended {stage : Stage α} (asks : stage.asks = true) : stage ≠ .ended true := by
  rintro rfl
  simp [Stage.asks] at asks

namespace Written

variable {start : Nat} {hooked : Bool} {stage : Stage α} {log : List (Entry α)} {s : Schedule (Stamped α)}

theorem accounted (written : Written start hooked stage log s) : Throughout Entry.Accounted log := by
  induction written with
  | opened => exact .nil
  | settled _ ih | rested _ _ ih => exact ih
  | submitted _ _ _ _ ih | spent _ _ ih | ended _ ih | called _ _ ih => simpa [Entry.Accounted] using ih
  | @started log s task rest before first ih =>
    have tasks := before.tasks
    rw [first,List.map_cons] at tasks
    have known : task.action ∈ submissions log := tasks.mem_iff.mp (by simp)
    have fresh : task.action ∉ starts log := by
      have once := tasks.nodup_iff.mpr before.distinct
      intro again
      exact (List.nodup_append.mp once).2.2 _ again _ (by simp) rfl
    have length := before.size
    rw [Schedule.size_of_queue first] at length
    have waiting : rest.length + ((starts log).length + 1) = (submissions log).length := by omega
    simpa [Entry.Accounted] using ⟨ih,known,fresh,waiting⟩

/-- The hook is due just after a success, and nothing else is recorded before it runs. -/
theorem hooks (written : Written start hooked stage log s) :
    Throughout (fun before entry => entry = .hook ↔ HookDue hooked before) log ∧
      (HookDue hooked log ↔ hooked = true ∧ stage = .ended true) := by
  induction written with
  | opened => simp
  | settled _ ih => exact ih
  | submitted _ asks _ _ ih | spent _ asks ih =>
    have busy := Stage.not_ended asks
    simp [ih.1,ih.2,busy]
  | started _ _ ih | ended _ ih => simp [ih.1,ih.2]
  | called _ due ih =>
    have now : HookDue hooked _ := ih.2.mpr ⟨due,rfl⟩
    simp [ih.1,now]
  | @rested succeeded log s _ none ih =>
    cases succeeded with
    | false => simpa using ih
    | true =>
      have without : hooked = false := by simpa using none
      simpa [without] using ih

end Written
end Record

namespace Behaviour

/-- A run that ends without an error leaves nothing to do. -/
theorem run_ok_size {b : Behaviour ε α γ} {fuel : Nat} {s left : Schedule α} {context last : γ}
    (ran : b.run fuel s context = .finished (.ok ()) left last) : left.size = 0 := by
  induction fuel generalizing s context with
  | zero => simp [run] at ran
  | succ fuel ih =>
    simp only [run] at ran
    cases queue : s.queue with
    | nil =>
      rw [b.step_idle context queue] at ran
      simp only [Ran.finished.injEq] at ran
      obtain ⟨_,rfl,_⟩ := ran
      rw [← Schedule.length_queue,Schedule.queue_settle,queue,List.length_nil]
    | cons task rest =>
      cases made : b.step s context with
      | idle =>
        rw [b.step_taken context queue] at made
        simp only at made
        split at made <;> simp at made
      | failed => simp [made] at ran
      | continued =>
        simp only [made] at ran
        exact ih ran

open Record in
theorem work_is_conserved (b : Behaviour ε α γ) (now : Nat) (context : γ) (events : List (Schedule.Event α)) :
    let actual := b.runner.live events { now } context
    let life := b.recorder.live events { schedule := { now } } context
    let log := life.state.log
    -- The record is of what the schedule does, and each task has its own number.
    (life.results = actual.results ∧ life.state.plain = actual.state ∧ life.context = actual.context) ∧
    ((submissions log).map Stamped.number = List.range (submissions log).length) ∧
    -- Each task starts at most once, and at every moment, also within a task, the rest is pending.
    ((starts log).Nodup ∧ Throughout Entry.Accounted log) ∧
    actual.state.size + (starts log).length = (submissions log).length ∧
    (∀ task rest requests, actual.state.queue = task :: rest →
      let acting := actual.state.taken task rest
      (acting.applyAll requests).size + ((starts log).length + 1) =
        (submissions log).length + (Request.tasks acting.now requests).length) ∧
    (∀ fuel left last, b.run fuel actual.state actual.context = .finished (.ok ()) left last → left.size = 0) ∧
    -- The hook runs once after each success, before anything else happens.
    (Throughout (fun before entry => entry = .hook ↔ HookDue b.afterTask.isSome before) log ∧
      ¬ HookDue b.afterTask.isSome log) ∧
    -- Without a hook, to run again after each error comes to a run in which the tasks succeed.
    (b.afterTask = none →
      (∀ left last, b.RunsAgain actual.state actual.context left last ↔
        ∃ fuel, b.forgiving.run fuel actual.state actual.context = .finished (.ok ()) left last) ∧
      ∀ left last, b.recorded.RunsAgain life.state.schedule (life.context,log) left last ↔
        ∃ fuel, b.recorded.forgiving.run fuel life.state.schedule (life.context,log) =
          .finished (.ok ()) left last) := by
  intro actual life log
  have same := b.live_plain events now context
  have written : Written now b.afterTask.isSome .resting log life.state.schedule :=
    Written.live b events context .opened
  have plain : actual.state.size = life.state.schedule.size := by
    rw [← same.2.1]
    exact life.state.schedule.size_map Stamped.action
  have size := written.size
  refine ⟨same,written.numbers,⟨written.started_once,written.accounted⟩,by omega,?_,?_,?_,?_⟩
  · intro task rest requests first
    have length := Schedule.size_of_queue first
    simp only [Schedule.size_applyAll,Schedule.size_taken]
    omega
  · exact fun _ _ _ ran => run_ok_size ran
  · exact ⟨written.hooks.1,fun due => by simpa using written.hooks.2.mp due⟩
  · intro quiet
    have quiet' : b.recorded.afterTask = none := by simp [recorded,quiet]
    exact ⟨fun _ _ => runsAgain_iff quiet,fun _ _ => runsAgain_iff quiet'⟩

open Record Chore in
/-- A chore that fails after it has submitted another one: both start, with the second run of tasks. -/
theorem failing_chore_is_followed_by_its_part :
    let b := behaviour false
    let part : Chore := .make "part" 0 3 0 [] 0 none
    let events := [.request (toRequest (.make "whole" 0 2 5 [part] 0 (some "broken")))]
    let life := b.recorder.live events { schedule := { now := 0 } } []
    b.afterTask = none ∧ ∃ left last,
      b.recorded.RunsAgain life.state.schedule (life.context,life.state.log) left last ∧
        left.now = 10 ∧ (starts last.2).map Stamped.number = [0,1] ∧
        last.1 = [.started "whole" 2 0,.started "part" 10 0] := by
  intro b part events life
  obtain ⟨_,_,_,_,_,_,_,again⟩ := work_is_conserved b 0 [] events
  exact ⟨rfl,_,_,((again rfl).2 _ _).mpr ⟨3,rfl⟩,rfl,rfl,rfl⟩

end Behaviour
end PenPlotter
