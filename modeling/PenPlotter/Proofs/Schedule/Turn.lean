import PenPlotter.Schedule.Run

/-! One turn of a schedule. The queue of a schedule is its pending tasks once every submitted task
has its place, which is the same for tasks placed one by one and for a batch that is sorted and
merged. A turn takes the head of the queue and is then determined by what that task asks for;
requests only add tasks and move the clock. -/

namespace PenPlotter

namespace Request

/-- The tasks that a row of requests submits, dated by the clock as it stands at each request. -/
def tasks (now : Nat) : List (Request α) → List (Task α)
  | [] => []
  | .submit priority delay action :: rest => ⟨.after now delay, priority, action⟩ :: tasks now rest
  | .spend time :: rest => tasks (Clock.sleep now time) rest

def clock (now : Nat) : List (Request α) → Nat
  | [] => now
  | .submit .. :: rest => clock now rest
  | .spend time :: rest => clock (Clock.sleep now time) rest

end Request

namespace Task

theorem enqueue_perm (task : Task α) (queue : List (Task α)) :
    (task.enqueue queue).Perm (task :: queue) := by
  induction queue with
  | nil => exact .refl _
  | cons head rest ih =>
    unfold enqueue
    split
    · exact (ih.cons head).trans (.swap ..)
    · exact .refl _

theorem foldl_enqueue_perm (tasks queue : List (Task α)) :
    (tasks.foldl (fun queue task => task.enqueue queue) queue).Perm (queue ++ tasks) := by
  induction tasks generalizing queue with
  | nil => simp
  | cons task tasks ih =>
    refine (ih _).trans (((task.enqueue_perm queue).append_right tasks).trans ?_)
    exact List.perm_middle.symm

/-- `precedes` as a test, for sorting. -/
def le (a b : Task α) : Bool := decide (a.precedes b)

theorem le_iff {a b : Task α} : a.le b = true ↔ a.precedes b := by simp [le]

theorem precedes_trans {a b c : Task α} (ab : a.precedes b) (bc : b.precedes c) : a.precedes c := by
  unfold precedes at *; omega

theorem precedes_total (a b : Task α) : a.precedes b ∨ b.precedes a := by
  unfold precedes; omega

/-- A last task finds the same place in a merge of two queues as in the later of them. -/
theorem enqueue_merge (task : Task α) (left right : List (Task α)) :
    task.enqueue (left.merge right le) = left.merge (task.enqueue right) le := by
  induction left generalizing right with
  | nil => simp
  | cons p left ihp =>
    induction right with
    | nil =>
      have rest := ihp []
      by_cases pt : p.precedes task
      · simpa [enqueue,pt,le_iff] using rest
      · simp [enqueue,pt,le_iff]
    | cons q right ihq =>
      have rest := ihp (q :: right)
      by_cases pq : p.precedes q
      · by_cases pt : p.precedes task
        · by_cases qt : q.precedes task <;> simpa [enqueue,le_iff,pq,pt,qt] using rest
        · have qt : ¬ q.precedes task := fun qt => pt (precedes_trans pq qt)
          simp [enqueue,le_iff,pq,pt,qt]
      · by_cases qt : q.precedes task
        · simpa [enqueue,le_iff,pq,qt] using ihq
        · have qp := (precedes_total p q).resolve_left pq
          have pt : ¬ p.precedes task := fun pt => qt (precedes_trans qp pt)
          simp [enqueue,le_iff,pq,pt,qt]

theorem foldl_enqueue_merge (tasks left right : List (Task α)) :
    tasks.foldl (fun queue task => task.enqueue queue) (left.merge right le) =
      left.merge (tasks.foldl (fun queue task => task.enqueue queue) right) le := by
  induction tasks generalizing right with
  | nil => rfl
  | cons task tasks ih => rw [List.foldl_cons,enqueue_merge,ih,List.foldl_cons]

theorem merge_singleton (task : Task α) (earlier later : List (Task α))
    (behind : ∀ other ∈ earlier, ¬ task.precedes other) (ahead : ∀ other ∈ later, task.precedes other) :
    [task].merge (earlier ++ later) le = earlier ++ task :: later := by
  induction earlier with
  | nil =>
    cases later with
    | nil => simp
    | cons other later => simp [le_iff,ahead other]
  | cons other earlier ih =>
    have rest := ih (fun a h => behind a (List.mem_cons_of_mem _ h))
    simpa [List.cons_merge_cons,le_iff,behind other] using rest

/-- Placing tasks one by one sorts them, and stably. -/
theorem foldl_enqueue (tasks : List (Task α)) :
    tasks.foldl (fun queue task => task.enqueue queue) [] = tasks.mergeSort le := by
  have trans (a b c : Task α) (ab : a.le b = true) (bc : b.le c = true) : a.le c = true :=
    le_iff.mpr (precedes_trans (le_iff.mp ab) (le_iff.mp bc))
  have total (a b : Task α) : (a.le b || b.le a) = true := by
    simpa [le_iff] using precedes_total a b
  induction tasks with
  | nil => simp
  | cons task tasks ih =>
    obtain ⟨earlier,later,sorted,rest,behind⟩ := List.mergeSort_cons trans total task tasks
    have ordered := List.pairwise_mergeSort trans total (task :: tasks)
    rw [sorted,List.pairwise_append] at ordered
    have one := foldl_enqueue_merge tasks [task] []
    simp only [List.merge_right] at one
    rw [List.foldl_cons,enqueue,one,ih,rest,sorted]
    refine merge_singleton task earlier later ?_ ?_
    · intro other inside
      simpa [le] using behind other inside
    · intro other inside
      exact le_iff.mp ((List.pairwise_cons.mp ordered.2.1).1 other inside)

end Task

namespace Schedule

variable {s : Schedule α}

/-- Every task that was not started, in the order in which they will start. -/
def queue (s : Schedule α) : List (Task α) := s.settle.pending

/-- The schedule in which a task acts that has been taken from the queue. -/
def taken (s : Schedule α) (task : Task α) (rest : List (Task α)) : Schedule α where
  now := task.due.start s.now
  pending := rest

@[simp] theorem now_settle (s : Schedule α) : s.settle.now = s.now := rfl
@[simp] theorem submitted_settle (s : Schedule α) : s.settle.submitted = [] := rfl
@[simp] theorem queue_settle (s : Schedule α) : s.settle.queue = s.queue := rfl
@[simp] theorem queue_taken (task : Task α) (rest : List (Task α)) :
    (s.taken task rest).queue = rest := rfl

@[simp] theorem queue_spend (time : Nat) : (s.apply (.spend time)).queue = s.queue := rfl

/-- A submitted task goes behind all those that precede it, whenever the queue is settled. -/
@[simp] theorem queue_submit (priority : Int) (delay : Nat) (action : α) :
    (s.apply (.submit priority delay action)).queue =
      Task.enqueue ⟨.after s.now delay, priority, action⟩ s.queue := by
  simp [queue, apply, settle, List.foldl_append]

theorem queue_perm (s : Schedule α) : s.queue.Perm (s.pending ++ s.submitted) :=
  Task.foldl_enqueue_perm s.submitted s.pending

/-- The queue is what was pending merged with the batch of submitted tasks, which is sorted stably. -/
theorem queue_eq_merge (s : Schedule α) :
    s.queue = s.pending.merge (s.submitted.mergeSort Task.le) Task.le := by
  have merged := Task.foldl_enqueue_merge s.submitted s.pending []
  rw [List.merge_right,Task.foldl_enqueue] at merged
  exact merged

theorem length_queue (s : Schedule α) : s.queue.length = s.size := by
  simpa [size] using s.queue_perm.length_eq

theorem applyAll_eq (s : Schedule α) (requests : List (Request α)) :
    s.applyAll requests =
      ⟨Request.clock s.now requests, s.pending, s.submitted ++ Request.tasks s.now requests⟩ := by
  induction requests generalizing s with
  | nil => simp [applyAll, Request.clock, Request.tasks]
  | cons request requests ih =>
    have first : s.applyAll (request :: requests) = (s.apply request).applyAll requests := rfl
    rw [first, ih]
    cases request <;> simp [apply, Request.clock, Request.tasks]

end Schedule

namespace Behaviour

variable {s : Schedule α}

theorem step_idle (b : Behaviour ε α γ) (context : γ) (none : s.queue = []) :
    b.step s context = .idle s.settle context := by
  unfold step
  simp [show s.settle.pending = [] from none]

/-- A turn, given the task at the head of the queue and what has come of it. -/
theorem step_taken (b : Behaviour ε α γ) (context : γ) (first : s.queue = task :: rest) :
    b.step s context =
      let started := s.taken task rest
      let outcome := b.perform task.action ⟨started.now, started.size⟩ context
      let next := started.applyAll outcome.requests
      match outcome.result with
      | .error error => .failed error next.settle outcome.context
      | .ok () => .continued next (b.after next.now outcome.context) := by
  unfold step
  simp only [show s.settle.pending = task :: rest from first]
  rfl

end Behaviour
end PenPlotter
