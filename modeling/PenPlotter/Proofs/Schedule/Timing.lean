import PenPlotter.Schedule.Chore
import PenPlotter.Proofs.Schedule.Account

/-! When tasks start. The clock waits for a dated task and not for an immediate one, and it never goes
back. As long as nothing else moves it, no waiting task is overdue: each one that is taken is the first to
be due, so that the clock moves up to the others and never past them. -/

namespace PenPlotter

namespace Due

theorem le_start (due : Due) (now : Nat) : now ≤ due.start now := by
  cases due with
  | immediate => exact Nat.le_refl _
  | dated instant => simp only [start,Clock.sleepUntil_eq_max]; omega

/-- What starts after an earlier task starts no later for that. -/
theorem start_start {earlier due : Due} (before : earlier.rank ≤ due.rank) (now : Nat) :
    due.start (earlier.start now) = due.start now := by
  cases earlier with
  | immediate => rfl
  | dated other =>
    cases due with
    | immediate => cases before
    | dated instant =>
      simp only [rank,start,Clock.sleepUntil_eq_max] at before ⊢
      omega

/-- What is asked for at the instant at which it is looked at starts after its delay. -/
theorem start_of_after (now delay : Nat) : (Due.after now delay).start now = now + delay := by
  unfold after
  by_cases none : delay = 0
  · rw [if_pos none,none]
    rfl
  · rw [if_neg none]
    simp only [start,Clock.sleepUntil_eq_max]
    omega

end Due

namespace Stamped

variable {task : Stamped α}

theorem start_dated (delayed : 0 < task.delay) (now : Nat) :
    task.due.start now = max now (task.submitted + task.delay) := by
  have nonzero : task.delay ≠ 0 := by omega
  simp only [due,Due.after,nonzero,if_false,Due.start,Clock.sleepUntil_eq_max]

theorem start_immediate (undelayed : task.delay = 0) (now : Nat) : task.due.start now = now := by
  simp only [due,Due.after,undelayed,if_true,Due.start]

/-- To wait for a task that is not overdue makes none overdue that is due later. -/
theorem start_le {first : Stamped α} {now : Nat} (order : first.due.rank ≤ task.due.rank)
    (punctual : now ≤ first.submitted + first.delay) (punctual' : now ≤ task.submitted + task.delay) :
    first.due.start now ≤ task.submitted + task.delay := by
  rcases Nat.eq_zero_or_pos first.delay with undelayed | delayed
  · rwa [start_immediate undelayed]
  · have nonzero : first.delay ≠ 0 := by omega
    rw [start_dated delayed]
    rcases Nat.eq_zero_or_pos task.delay with undelayed' | delayed'
    · simp [due,Due.after,undelayed',nonzero,Due.rank] at order
    · have nonzero' : task.delay ≠ 0 := by omega
      simp only [due,Due.after,nonzero,nonzero',if_false,Due.rank] at order
      omega

end Stamped

namespace Task

theorem enqueue_sorted (task : Task α) {queue : List (Task α)} (sorted : queue.Pairwise precedes) :
    (task.enqueue queue).Pairwise precedes := by
  induction queue with
  | nil => exact List.pairwise_singleton ..
  | cons head rest ih =>
    obtain ⟨first,sorted⟩ := List.pairwise_cons.mp sorted
    simp only [enqueue]
    split
    next ahead =>
      refine List.pairwise_cons.mpr ⟨?_,ih sorted⟩
      intro other inside
      rcases List.mem_cons.mp ((task.enqueue_perm rest).mem_iff.mp inside) with rfl | inside
      · exact ahead
      · exact first other inside
    next behind =>
      have ahead := (precedes_total head task).resolve_left behind
      refine List.pairwise_cons.mpr ⟨?_,List.pairwise_cons.mpr ⟨first,sorted⟩⟩
      intro other inside
      rcases List.mem_cons.mp inside with rfl | inside
      · exact ahead
      · exact precedes_trans ahead (first other inside)

end Task

namespace Record

variable {α : Type}

theorem mem_starts {log : List (Entry α)} {task : Stamped α} (started : task ∈ starts log) :
    ∃ instant waiting, .started task instant waiting ∈ log := by
  obtain ⟨entry,inside,start⟩ := List.mem_filterMap.mp started
  cases entry <;> simp only [Entry.start?,Option.some.injEq,reduceCtorEq] at start
  exact ⟨_,_,start ▸ inside⟩

/-- What the clock shows at an entry that follows others. -/
def Entry.Timed (start : Nat) (before : List (Entry α)) : Entry α → Prop
  | .submitted task => task.submitted = clock start before
  | .started task instant _ =>
    (0 < task.delay → instant = max (clock start before) (task.submitted + task.delay)) ∧
    (task.delay = 0 → instant = clock start before) ∧ task.submitted + task.delay ≤ instant
  | _ => True

/-- A task starts at the very instant that was asked for. -/
def Entry.Exact : Entry α → Prop
  | .started task instant _ => instant = task.submitted + task.delay
  | _ => True

/-- Nothing but the schedule moves the clock. -/
def Unhurried (log : List (Entry α)) : Prop := ∀ time, .spent time ∈ log → time = 0

theorem Unhurried.init {log more : List (Entry α)} (unhurried : Unhurried (log ++ more)) : Unhurried log :=
  fun time inside => unhurried time (List.mem_append_left _ inside)

namespace Written

variable {start : Nat} {hooked : Bool} {stage : Stage α} {log : List (Entry α)} {s : Schedule (Stamped α)}

theorem sorted (written : Written start hooked stage log s) : s.queue.Pairwise Task.precedes := by
  induction written with
  | opened => exact .nil
  | settled _ ih | spent _ _ ih | ended _ ih | called _ _ ih | rested _ _ ih => exact ih
  | submitted _ _ _ _ ih =>
    rw [Schedule.queue_submit]
    exact Task.enqueue_sorted _ ih
  | started _ first ih =>
    rw [first] at ih
    exact (List.pairwise_cons.mp ih).2

/-- The waiting tasks are due as they were stamped, and were not submitted in the future. -/
theorem stamped (written : Written start hooked stage log s) :
    ∀ task ∈ s.queue, task.due = task.action.due ∧ task.action.submitted ≤ s.now := by
  induction written with
  | opened => exact fun _ none => nomatch none
  | settled _ ih | ended _ ih | called _ _ ih | rested _ _ ih => exact ih
  | spent _ _ ih =>
    intro task inside
    obtain ⟨due,past⟩ := ih task inside
    exact ⟨due,Nat.le_trans past (Nat.le_add_right _ _)⟩
  | submitted _ _ _ instant ih =>
    intro task inside
    rw [Schedule.queue_submit] at inside
    rcases List.mem_cons.mp ((Task.enqueue_perm _ _).mem_iff.mp inside) with rfl | inside
    · exact ⟨by simp only [Stamped.due,instant],Nat.le_of_eq instant⟩
    · exact ih task inside
  | @started log s first rest _ queue ih =>
    intro task inside
    obtain ⟨due,past⟩ := ih task (by rw [queue]; exact List.mem_cons_of_mem _ inside)
    exact ⟨due,Nat.le_trans past (first.due.le_start s.now)⟩

theorem timed (written : Written start hooked stage log s) : Throughout (Entry.Timed start) log := by
  induction written with
  | opened => exact .nil
  | settled _ ih | rested _ _ ih => exact ih
  | submitted before _ _ instant ih => simp [Entry.Timed,ih,instant,before.now]
  | spent _ _ ih | ended _ ih | called _ _ ih => simpa [Entry.Timed] using ih
  | @started log s task rest before first ih =>
    obtain ⟨due,past⟩ := before.stamped task (by simp [first])
    have dated (delayed : 0 < task.action.delay) :
        (s.taken task rest).now = max s.now (task.action.submitted + task.action.delay) := by
      simp only [Schedule.taken,due,Stamped.start_dated delayed]
    have immediate (undelayed : task.action.delay = 0) : (s.taken task rest).now = s.now := by
      simp only [Schedule.taken,due,Stamped.start_immediate undelayed]
    have reached : task.action.submitted + task.action.delay ≤ (s.taken task rest).now := by
      rcases Nat.eq_zero_or_pos task.action.delay with undelayed | delayed
      · rw [immediate undelayed]
        omega
      · rw [dated delayed]
        omega
    rw [before.now] at dated immediate
    simpa [Entry.Timed] using ⟨ih,dated,immediate,reached⟩

theorem monotone (written : Written start hooked stage log s) :
    Throughout (fun before entry => clock start before ≤ entry.tick (clock start before)) log := by
  refine written.timed.imp ?_
  intro before entry timed
  cases entry with
  | spent time => exact Nat.le_add_right _ _
  | started task instant waiting =>
    obtain ⟨dated,immediate,_⟩ := timed
    simp only [Entry.tick]
    omega
  | submitted | ended | hook => exact Nat.le_refl _

/-- No waiting task is overdue. -/
theorem punctual (written : Written start hooked stage log s) (unhurried : Unhurried log) :
    ∀ task ∈ s.queue, s.now ≤ task.action.submitted + task.action.delay := by
  induction written with
  | opened => exact fun _ none => nomatch none
  | settled _ ih | rested _ _ ih => exact ih unhurried
  | ended _ ih | called _ _ ih => exact ih unhurried.init
  | @spent stage log s time _ _ ih =>
    have still : time = 0 := unhurried time (by simp)
    subst still
    exact ih unhurried.init
  | submitted _ _ _ instant ih =>
    intro task inside
    rw [Schedule.queue_submit] at inside
    rcases List.mem_cons.mp ((Task.enqueue_perm _ _).mem_iff.mp inside) with rfl | inside
    · simp only [Schedule.apply,instant]
      omega
    · exact ih unhurried.init task inside
  | @started log s first rest before queue ih =>
    intro task inside
    have member : task ∈ s.queue := by rw [queue]; exact List.mem_cons_of_mem _ inside
    have head : first ∈ s.queue := by simp [queue]
    have sorted := before.sorted
    rw [queue] at sorted
    have order : first.due.rank ≤ task.due.rank := by
      have precedes := (List.pairwise_cons.mp sorted).1 task inside
      unfold Task.precedes at precedes
      omega
    have due := (before.stamped first head).1
    rw [due,(before.stamped task member).1] at order
    simp only [Schedule.taken,due]
    exact Stamped.start_le order (ih unhurried.init first head) (ih unhurried.init task member)

theorem exact (written : Written start hooked stage log s) (unhurried : Unhurried log) :
    ∀ entry ∈ log, entry.Exact := by
  induction written with
  | opened => exact fun _ none => nomatch none
  | settled _ ih | rested _ _ ih => exact ih unhurried
  | submitted _ _ _ _ ih | spent _ _ ih | ended _ ih | called _ _ ih =>
    have earlier := ih unhurried.init
    simpa [or_imp,forall_and,Entry.Exact] using earlier
  | @started log s task rest before first ih =>
    have timed := (before.started first).timed
    simp only [Throughout.append,Throughout.cons,List.append_nil,Entry.Timed] at timed
    obtain ⟨_,⟨dated,immediate,reached⟩,_⟩ := timed
    have ahead := before.punctual unhurried.init task (by simp [first])
    rw [before.now] at ahead
    have whole : (s.taken task rest).now = task.action.submitted + task.action.delay := by omega
    simpa [or_imp,forall_and,Entry.Exact] using ⟨ih unhurried.init,whole⟩

end Written
end Record

namespace Behaviour

open Record in
/-- Dated tasks start at their instant or, when it has passed, at once, and immediate tasks start without
a wait. When nothing else moves the clock, all start exactly when they are due. -/
theorem tasks_start_on_time (b : Behaviour ε α γ) (start : Nat) (context : γ) (events : List (Schedule.Event α)) :
    let actual := b.runner.live events { now := start } context
    let life := b.recorder.live events { schedule := { now := start } } context
    let log := life.state.log
    (life.results = actual.results ∧ life.state.plain = actual.state ∧ life.context = actual.context) ∧
    actual.state.now = clock start log ∧
    Throughout (Entry.Timed start) log ∧
    Throughout (fun before entry => clock start before ≤ entry.tick (clock start before)) log ∧
    (Unhurried log →
      (∀ entry ∈ log, entry.Exact) ∧
      (actual.state.size = 0 → ∀ task ∈ submissions log, ∃ waiting,
        .started task (task.submitted + task.delay) waiting ∈ log)) := by
  intro actual life log
  have same := b.live_plain events start context
  have written : Written start b.afterTask.isSome .resting log life.state.schedule :=
    Written.live b events context .opened
  have plain : life.state.plain = actual.state := same.2.1
  refine ⟨same,?_,written.timed,written.monotone,?_⟩
  · rw [← plain,← written.now]
    rfl
  · intro unhurried
    have exact := written.exact unhurried
    refine ⟨exact,?_⟩
    intro idle task submitted
    have empty : life.state.schedule.queue = [] := by
      have none : life.state.schedule.size = 0 := by
        rw [← plain] at idle
        exact (life.state.schedule.size_map Stamped.action).symm.trans idle
      exact List.length_eq_zero_iff.mp (life.state.schedule.length_queue.trans none)
    have tasks := written.tasks
    rw [empty,List.map_nil,List.append_nil] at tasks
    obtain ⟨instant,waiting,started⟩ := mem_starts (tasks.mem_iff.mpr submitted)
    have on : instant = task.submitted + task.delay := exact _ started
    exact ⟨waiting,on ▸ started⟩

open Record Chore in
/-- A chore that takes no time and submits a delayed part, between two that are asked for from outside. -/
theorem timeless_chores_start_exactly :
    let b := behaviour false
    let part : Chore := .make "part" 0 3 0 [] 0 none
    let whole : Chore := .make "whole" 0 2 0 [part] 0 none
    let late : Chore := .make "late" 0 4 0 [] 0 none
    let log := (b.recorder.live [.request (toRequest late),.request (toRequest whole),.run 4]
      { schedule := { now := 7 } } []).state.log
    Unhurried log ∧ ∀ task ∈ submissions log, ∃ waiting,
      .started task (task.submitted + task.delay) waiting ∈ log := by
  intro b part whole late log
  have entries : log =
      [.submitted ⟨0,7,4,late⟩,.submitted ⟨1,7,2,whole⟩,
        .started ⟨1,7,2,whole⟩ 9 1,.spent 0,.submitted ⟨2,9,3,part⟩,.ended ⟨1,7,2,whole⟩ true,
        .started ⟨0,7,4,late⟩ 11 1,.spent 0,.ended ⟨0,7,4,late⟩ true,
        .started ⟨2,9,3,part⟩ 12 0,.spent 0,.ended ⟨2,9,3,part⟩ true] := rfl
  have unhurried : Unhurried log := by simp [Unhurried,entries]
  obtain ⟨_,_,_,_,still⟩ :=
    tasks_start_on_time b 7 [] [.request (toRequest late),.request (toRequest whole),.run 4]
  exact ⟨unhurried,(still unhurried).2 rfl⟩

end Behaviour
end PenPlotter
