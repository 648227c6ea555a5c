import PenPlotter.Proofs.Schedule.Turn

/-! What a schedule executes next. The specification numbers every task in the order of submission
and always executes the least task outstanding, by due time, then priority, then number; it has no
queue and no batches. A schedule cannot be told from it by any behaviour of the tasks. -/

namespace PenPlotter

structure Numbered (α : Type) where
  number : Nat
  task : Task α

namespace Numbered

/-- The lexicographic order of due time, priority and number. -/
def before (a b : Numbered α) : Prop :=
  a.task.due.rank < b.task.due.rank ∨
    (a.task.due.rank = b.task.due.rank ∧
      (a.task.priority < b.task.priority ∨
        (a.task.priority = b.task.priority ∧ a.number < b.number)))

instance (a b : Numbered α) : Decidable (a.before b) :=
  inferInstanceAs (Decidable (_ ∨ (_ ∧ (_ ∨ (_ ∧ _)))))

def least? : List (Numbered α) → Option (Numbered α)
  | [] => none
  | a :: rest =>
    match least? rest with
    | none => some a
    | some b => if a.before b then some a else some b

theorem before_trans {a b c : Numbered α} (ab : a.before b) (bc : b.before c) : a.before c := by
  unfold before at *; omega

theorem not_before_of_before {a b : Numbered α} (ab : a.before b) : ¬ b.before a := by
  unfold before at *; omega

theorem before_of_not_before {a b : Numbered α} (different : a.number ≠ b.number)
    (h : ¬ a.before b) : b.before a := by
  unfold before at *; omega

theorem before_of_precedes {a b : Numbered α} (h : a.task.precedes b.task)
    (earlier : a.number < b.number) : a.before b := by
  unfold before Task.precedes at *; omega

theorem before_of_not_precedes {a b : Numbered α} (h : ¬ a.task.precedes b.task) : b.before a := by
  unfold before Task.precedes at *; omega

/-- Whether a task is before every other one of a row. -/
def Least (first : Numbered α) (tasks : List (Numbered α)) : Prop :=
  first ∈ tasks ∧ ∀ other ∈ tasks, other ≠ first → first.before other

theorem Least.unique {a b : Numbered α} {tasks : List (Numbered α)}
    (ha : a.Least tasks) (hb : b.Least tasks) : a = b := by
  apply Classical.byContradiction
  intro different
  exact not_before_of_before (ha.2 b hb.1 (Ne.symm different)) (hb.2 a ha.1 different)

theorem least?_eq_none {tasks : List (Numbered α)} : least? tasks = none ↔ tasks = [] := by
  cases tasks with
  | nil => simp [least?]
  | cons a rest =>
    simp only [least?, reduceCtorEq, iff_false]
    split
    · simp
    · split <;> simp

theorem least_of_least? {tasks : List (Numbered α)} {first : Numbered α}
    (distinct : tasks.Pairwise fun a b => a.number ≠ b.number)
    (found : least? tasks = some first) : first.Least tasks := by
  induction tasks generalizing first with
  | nil => simp [least?] at found
  | cons a rest ih =>
    obtain ⟨apart,distinct⟩ := List.pairwise_cons.mp distinct
    simp only [least?] at found
    cases least : least? rest with
    | none =>
      obtain rfl : rest = [] := least?_eq_none.mp least
      obtain rfl : a = first := by simpa [least?] using found
      exact ⟨by simp,by simp⟩
    | some b =>
      obtain ⟨member,minimal⟩ := ih distinct least
      simp only [least] at found
      split at found
      next ab =>
        obtain rfl := Option.some.inj found
        refine ⟨by simp,?_⟩
        intro other inside different
        rcases List.mem_cons.mp inside with rfl | inside
        · exact absurd rfl different
        by_cases same : other = b
        · exact same ▸ ab
        · exact before_trans ab (minimal other inside same)
      next ab =>
        obtain rfl := Option.some.inj found
        refine ⟨List.mem_cons_of_mem _ member,?_⟩
        intro other inside different
        rcases List.mem_cons.mp inside with rfl | inside
        · exact before_of_not_before (apart b member) ab
        · exact minimal other inside different

/-- Among tasks with different numbers there is exactly one least. -/
theorem least?_eq_some {tasks : List (Numbered α)} {first : Numbered α}
    (distinct : tasks.Pairwise fun a b => a.number ≠ b.number) :
    least? tasks = some first ↔ first.Least tasks := by
  refine ⟨least_of_least? distinct,?_⟩
  intro least
  cases found : least? tasks with
  | none => simp [least?_eq_none.mp found,Least] at least
  | some a => rw [(least_of_least? distinct found).unique least]

end Numbered

/-- What is done with a schedule from outside. -/
inductive Schedule.Event (α : Type) where
  | request (request : Request α)
  /-- Gives the submitted tasks their places, at whatever moment. -/
  | settle
  /-- Runs the tasks, but no more than a number of them. -/
  | run (fuel : Nat)

/-- What has come of a row of events: the results of the runs, with `none` for a run that reached its
bound, and what they leave. -/
structure Runner.Life (ε σ γ : Type) where
  results : List (Option (Except ε Unit)) := []
  state : σ
  context : γ

structure Runner (ε α γ σ : Type) where
  apply : σ → Request α → σ
  settle : σ → σ
  run : Nat → σ → γ → Option (Except ε Unit) × σ × γ

namespace Runner

def live (m : Runner ε α γ σ) : List (Schedule.Event α) → σ → γ → Life ε σ γ
  | [], state, context => { state, context }
  | .request request :: rest, state, context => m.live rest (m.apply state request) context
  | .settle :: rest, state, context => m.live rest (m.settle state) context
  | .run fuel :: rest, state, context =>
    let (result, state, context) := m.run fuel state context
    let life := m.live rest state context
    { life with results := result :: life.results }

/-- Two machines whose states agree step by step cannot be told apart by what they do. -/
theorem live_agrees {m : Runner ε α γ σ} {n : Runner ε α γ τ} (agrees : σ → τ → Prop)
    (apply : ∀ s t request, agrees s t → agrees (m.apply s request) (n.apply t request))
    (settle : ∀ s t, agrees s t → agrees (m.settle s) (n.settle t))
    (run : ∀ fuel s t context, agrees s t →
      (m.run fuel s context).1 = (n.run fuel t context).1 ∧
      agrees (m.run fuel s context).2.1 (n.run fuel t context).2.1 ∧
      (m.run fuel s context).2.2 = (n.run fuel t context).2.2)
    (events : List (Schedule.Event α)) (s : σ) (t : τ) (context : γ) (start : agrees s t) :
    (m.live events s context).results = (n.live events t context).results ∧
      agrees (m.live events s context).state (n.live events t context).state ∧
      (m.live events s context).context = (n.live events t context).context := by
  induction events generalizing s t context with
  | nil => exact ⟨rfl,start,rfl⟩
  | cons event rest ih =>
    cases event with
    | request request => exact ih _ _ _ (apply _ _ request start)
    | settle => exact ih _ _ _ (settle _ _ start)
    | run fuel =>
      obtain ⟨result,states,contexts⟩ := run fuel s t context start
      obtain ⟨results,states,contexts'⟩ := ih _ _ (m.run fuel s context).2.2 states
      simp only [live]
      rw [← contexts,result,results]
      exact ⟨rfl,states,contexts'⟩

end Runner

/-- A schedule that runs tasks with a behaviour. -/
def Behaviour.runner (b : Behaviour ε α γ) : Runner ε α γ (Schedule α) where
  apply := Schedule.apply
  settle := Schedule.settle
  run fuel s context :=
    match b.run fuel s context with
    | .finished result s context => (some result, s, context)
    | .unfinished s context => (none, s, context)

/-- The state of the specification. -/
structure Ledger (α : Type) where
  now : Nat := 0
  submitted : Nat := 0
  /-- The tasks submitted and not executed. -/
  outstanding : List (Numbered α) := []

namespace Ledger

def apply (l : Ledger α) : Request α → Ledger α
  | .submit priority delay action =>
    { l with
      submitted := l.submitted + 1
      outstanding := ⟨l.submitted, .after l.now delay, priority, action⟩ :: l.outstanding }
  | .spend time => { l with now := Clock.sleep l.now time }

def next? (l : Ledger α) : Option (Numbered α) := Numbered.least? l.outstanding

/-- Strikes off a task, for which the clock has waited. -/
def strike (l : Ledger α) (first : Numbered α) : Ledger α where
  now := first.task.due.start l.now
  submitted := l.submitted
  outstanding := l.outstanding.filter fun other => other.number ≠ first.number

def run (b : Behaviour ε α γ) : Nat → Ledger α → γ → Option (Except ε Unit) × Ledger α × γ
  | 0, l, context => (none, l, context)
  | fuel + 1, l, context =>
    match l.next? with
    | none => (some (.ok ()), l, context)
    | some first =>
      let l := l.strike first
      let outcome := b.perform first.task.action ⟨l.now, l.outstanding.length⟩ context
      let l := outcome.requests.foldl apply l
      match outcome.result with
      | .error error => (some (.error error), l, outcome.context)
      | .ok () => run b fuel l (b.after l.now outcome.context)

/-- Executes the least outstanding task each time. -/
def runner (b : Behaviour ε α γ) : Runner ε α γ (Ledger α) where
  apply := apply
  settle := id
  run := run b

/-- A schedule with the tasks of a ledger in their order. The numbers are those already given, so that a
task submitted later has a larger one. -/
structure Orders (l : Ledger α) (s : Schedule α) : Prop where
  now : s.now = l.now
  bound : ∀ a ∈ l.outstanding, a.number < l.submitted
  distinct : l.outstanding.Pairwise fun a b => a.number ≠ b.number
  queue : ∃ order : List (Numbered α), order.Perm l.outstanding ∧ order.Pairwise Numbered.before ∧
    s.queue = order.map Numbered.task

/-- A task with a larger number than all others finds its place behind those that precede it. -/
theorem enqueue_order (last : Numbered α) (order : List (Numbered α))
    (sorted : order.Pairwise Numbered.before) (larger : ∀ a ∈ order, a.number < last.number) :
    ∃ longer : List (Numbered α), longer.Perm (last :: order) ∧ longer.Pairwise Numbered.before ∧
      last.task.enqueue (order.map Numbered.task) = longer.map Numbered.task := by
  induction order with
  | nil => exact ⟨[last],.refl _,List.pairwise_singleton ..,rfl⟩
  | cons head rest ih =>
    obtain ⟨first,sorted'⟩ := List.pairwise_cons.mp sorted
    -- A tie with the head falls to the head, whose number is smaller.
    simp only [List.map_cons,Task.enqueue]
    split
    next precedes =>
      obtain ⟨longer,perm,increasing,eq⟩ := ih sorted' (fun a h => larger a (List.mem_cons_of_mem _ h))
      refine ⟨head :: longer,(perm.cons head).trans (.swap ..),?_,by simp [eq]⟩
      refine List.pairwise_cons.mpr ⟨?_,increasing⟩
      intro other inside
      rcases List.mem_cons.mp (perm.mem_iff.mp inside) with rfl | inside
      · exact Numbered.before_of_precedes precedes (larger head (by simp))
      · exact first other inside
    next precedes =>
      have least := Numbered.before_of_not_precedes precedes
      refine ⟨last :: head :: rest,.refl _,?_,by simp⟩
      refine List.pairwise_cons.mpr ⟨?_,sorted⟩
      intro other inside
      rcases List.mem_cons.mp inside with rfl | inside
      · exact least
      · exact Numbered.before_trans least (first other inside)

namespace Orders

variable {l : Ledger α} {s : Schedule α}

theorem apply (orders : l.Orders s) (request : Request α) : (l.apply request).Orders (s.apply request) := by
  cases request with
  | spend time =>
    exact ⟨by simp [Ledger.apply,Schedule.apply,orders.now],orders.bound,orders.distinct,orders.queue⟩
  | submit priority delay action =>
    obtain ⟨order,perm,sorted,queue⟩ := orders.queue
    have larger : ∀ a ∈ order, a.number < l.submitted := fun a h => orders.bound a (perm.mem_iff.mp h)
    obtain ⟨longer,perm',sorted',queue'⟩ :=
      enqueue_order ⟨l.submitted,.after l.now delay,priority,action⟩ order sorted larger
    refine ⟨orders.now,?_,?_,longer,perm'.trans (perm.cons _),sorted',?_⟩
    · intro a inside
      rcases List.mem_cons.mp inside with rfl | inside
      · exact Nat.lt_succ_self _
      · exact Nat.lt_succ_of_lt (orders.bound a inside)
    · refine List.pairwise_cons.mpr ⟨?_,orders.distinct⟩
      intro a inside
      exact Nat.ne_of_gt (orders.bound a inside)
    · rw [Schedule.queue_submit,orders.now,queue,queue']

theorem applyAll (orders : l.Orders s) (requests : List (Request α)) :
    (requests.foldl Ledger.apply l).Orders (s.applyAll requests) := by
  induction requests generalizing l s with
  | nil => exact orders
  | cons request requests ih => exact ih (orders.apply request)

/-- Nothing depends on when the submitted tasks are given their places. -/
theorem settle (orders : l.Orders s) : l.Orders s.settle :=
  ⟨orders.now,orders.bound,orders.distinct,orders.queue⟩

theorem length (orders : l.Orders s) : s.size = l.outstanding.length := by
  obtain ⟨order,perm,_,queue⟩ := orders.queue
  rw [← s.length_queue,queue,List.length_map,perm.length_eq]

theorem least_head (orders : l.Orders s) {first : Numbered α} {rest : List (Numbered α)}
    (perm : (first :: rest).Perm l.outstanding) (sorted : (first :: rest).Pairwise Numbered.before) :
    l.next? = some first := by
  refine (Numbered.least?_eq_some orders.distinct).mpr ⟨perm.mem_iff.mp (by simp),?_⟩
  intro other inside different
  rcases List.mem_cons.mp (perm.mem_iff.mpr inside) with same | inside
  · exact absurd same different
  · exact (List.pairwise_cons.mp sorted).1 other inside

/-- The head of the queue is the least outstanding task. -/
theorem next (orders : l.Orders s) : s.queue.head? = l.next?.map Numbered.task := by
  obtain ⟨order,perm,sorted,queue⟩ := orders.queue
  cases order with
  | nil => simp [queue,next?,perm.nil_eq.symm,Numbered.least?]
  | cons first rest => simp [queue,orders.least_head perm sorted]

theorem strike (orders : l.Orders s) {first : Numbered α} {rest : List (Numbered α)}
    (perm : (first :: rest).Perm l.outstanding) (sorted : (first :: rest).Pairwise Numbered.before) :
    (l.strike first).Orders (s.taken first.task (rest.map Numbered.task)) := by
  have apart : ∀ other ∈ rest, other.number ≠ first.number := by
    intro other inside
    have distinct := (perm.pairwise_iff (fun h => Ne.symm h)).mpr orders.distinct
    exact Ne.symm ((List.pairwise_cons.mp distinct).1 other inside)
  have left : (first :: rest).filter (fun other => other.number ≠ first.number) = rest := by
    simpa using apart
  refine ⟨by simp [Schedule.taken,Ledger.strike,orders.now],?_,orders.distinct.filter _,rest,?_,
    (List.pairwise_cons.mp sorted).2,rfl⟩
  · intro a inside
    exact orders.bound a (List.mem_filter.mp inside).1
  · have struck := perm.filter (fun other => other.number ≠ first.number)
    rwa [left] at struck

/-- A run of a schedule and one of the ledger give the same result and leave the same context. -/
theorem run (b : Behaviour ε α γ) (fuel : Nat) (context : γ) (orders : l.Orders s) :
    (b.runner.run fuel s context).1 = (Ledger.run b fuel l context).1 ∧
      (Ledger.run b fuel l context).2.1.Orders (b.runner.run fuel s context).2.1 ∧
      (b.runner.run fuel s context).2.2 = (Ledger.run b fuel l context).2.2 := by
  induction fuel generalizing l s context with
  | zero => exact ⟨rfl,orders,rfl⟩
  | succ fuel ih =>
    obtain ⟨order,perm,sorted,queue⟩ := orders.queue
    cases order with
    | nil =>
      have done : l.next? = none := by simp [next?,perm.nil_eq.symm,Numbered.least?]
      have idle := b.step_idle context queue
      simp only [Behaviour.runner,Behaviour.run,idle,Ledger.run,done]
      exact ⟨trivial,orders.settle,trivial⟩
    | cons first rest =>
      have struck := orders.strike perm sorted
      have turn := b.step_taken context queue
      simp only [Behaviour.runner,Behaviour.run,turn,Ledger.run,orders.least_head perm sorted]
      have moment : (⟨(s.taken first.task (rest.map Numbered.task)).now,
          (s.taken first.task (rest.map Numbered.task)).size⟩ : Moment) =
          ⟨(l.strike first).now,(l.strike first).outstanding.length⟩ := by
        rw [struck.now,struck.length]
      rw [moment]
      generalize b.perform first.task.action _ context = outcome
      have after := struck.applyAll outcome.requests
      cases outcome.result with
      | error error => exact ⟨rfl,after.settle,rfl⟩
      | ok value =>
        rw [after.now]
        exact ih _ after

end Orders

/-- Whatever the tasks do and whatever is asked from outside, a schedule gives the results and leaves
the contexts that it would if it always executed the least outstanding task; that task, the only one
that is before all others, is the head of what is pending merged with the sorted batch of tasks
submitted since. -/
theorem run_executes_least_outstanding (b : Behaviour ε α γ) (now : Nat) (context : γ)
    (events : List (Schedule.Event α)) :
    let actual := b.runner.live events { now } context
    let ideal := (runner b).live events { now } context
    actual.results = ideal.results ∧ actual.context = ideal.context ∧
      actual.state.now = ideal.state.now ∧
      actual.state.size = ideal.state.outstanding.length ∧
      actual.state.queue = actual.state.pending.merge
        (actual.state.submitted.mergeSort Task.le) Task.le ∧
      actual.state.queue.head? = ideal.state.next?.map Numbered.task ∧
      ∀ first, ideal.state.next? = some first ↔ first.Least ideal.state.outstanding := by
  have start : Orders (α := α) { now } { now } :=
    ⟨rfl,by simp,.nil,[],.refl _,.nil,rfl⟩
  obtain ⟨results,orders,contexts⟩ := Runner.live_agrees (m := b.runner) (n := runner b)
    (fun s l => l.Orders s) (fun _ _ request h => h.apply request) (fun _ _ h => h.settle)
    (fun fuel _ _ context h => h.run b fuel context) events { now } { now } context start
  exact ⟨results,contexts,orders.now,orders.length,Schedule.queue_eq_merge _,orders.next,
    fun _ => Numbered.least?_eq_some orders.distinct⟩

end Ledger
end PenPlotter
