import PenPlotter.Proofs.Schedule.Timing
import PenPlotter.Proofs.Shop.Sound

/-! The queue of a shop and its clock. An event leaves what was waiting behind it and adds what it has asked for; an
operation gets its task when it is accepted, for at once, and afterwards from each look that lets it go on. As long as
nothing but the schedule moves the clock, a task that waits keeps the instant at which it will start. -/

namespace PenPlotter

namespace Request

theorem le_clock (now : Nat) (requests : List (Request α)) : now ≤ clock now requests := by
  induction requests generalizing now with
  | nil => exact Nat.le_refl now
  | cons request requests ih =>
    cases request with
    | submit => exact ih now
    | spend time => exact Nat.le_trans (Nat.le_add_right now time) (ih (now + time))

/-- The tasks in a row of requests are dated by what the clock shows when they are asked for. -/
theorem mem_tasks {now : Nat} {requests : List (Request α)} {task : Task α} (inside : task ∈ tasks now requests) :
    ∃ asked delay, now ≤ asked ∧ asked ≤ clock now requests ∧ .submit task.priority delay task.action ∈ requests ∧
      task.due = .after asked delay := by
  induction requests generalizing now with
  | nil => cases inside
  | cons request requests ih =>
    cases request with
    | submit priority delay action =>
      rcases List.mem_cons.mp inside with rfl | later
      · exact ⟨now,delay,Nat.le_refl now,le_clock now requests,List.mem_cons_self,rfl⟩
      · obtain ⟨asked,delay,early,late,listed,due⟩ := ih later
        exact ⟨asked,delay,early,late,List.mem_cons_of_mem _ listed,due⟩
    | spend time =>
      obtain ⟨asked,delay,early,late,listed,due⟩ := ih inside
      exact ⟨asked,delay,Nat.le_trans (Nat.le_add_right now time) early,late,List.mem_cons_of_mem _ listed,due⟩

end Request

namespace Task

theorem foldl_enqueue_sorted (tasks : List (Task α)) {queue : List (Task α)} (sorted : queue.Pairwise precedes) :
    (tasks.foldl (fun queue task => task.enqueue queue) queue).Pairwise precedes := by
  induction tasks generalizing queue with
  | nil => exact sorted
  | cons task tasks ih => exact ih (task.enqueue_sorted sorted)

end Task

theorem Schedule.applyAll_requests (s : Schedule α) (requests : List (Request α)) :
    (s.applyAll requests).now = Request.clock s.now requests ∧
      (s.applyAll requests).queue =
        (Request.tasks s.now requests).foldl (fun queue task => task.enqueue queue) s.queue := by
  rw [applyAll_eq]
  exact ⟨rfl,List.foldl_append⟩

namespace Shop

variable {access : Access} {μ δ χ : Type}

/-- The instant at which an event takes place: a turn waits for the first task in the queue. -/
def instant (shop : Shop access μ δ χ) : Event access μ δ χ → Nat
  | .turn =>
    match shop.schedule.queue with
    | [] => shop.schedule.now
    | task :: _ => task.due.start shop.schedule.now
  | .script _ | .world _ => shop.schedule.now

/-- The tasks that an event leaves where they are. -/
def waiting (shop : Shop access μ δ χ) : Event access μ δ χ → List (Task (Job access μ δ χ))
  | .turn => shop.schedule.queue.tail
  | .script _ | .world _ => shop.schedule.queue

theorem instant_turn {shop : Shop access μ δ χ} {task : Task (Job access μ δ χ)} {rest : List (Task (Job access μ δ χ))}
    (first : shop.schedule.queue = task :: rest) : shop.instant .turn = task.due.start shop.schedule.now := by
  rw [instant,first]

theorem waiting_turn {shop : Shop access μ δ χ} {task : Task (Job access μ δ χ)} {rest : List (Task (Job access μ δ χ))}
    (first : shop.schedule.queue = task :: rest) : shop.waiting .turn = rest := by
  rw [waiting,first,List.tail_cons]

theorem mem_waiting {shop : Shop access μ δ χ} {event : Event access μ δ χ} {task : Task (Job access μ δ χ)}
    (inside : task ∈ shop.waiting event) : task ∈ shop.schedule.queue := by
  cases event with
  | turn => exact List.mem_of_mem_tail inside
  | script | world => exact inside

/-- A task keeps its instant while an event takes place before it. -/
theorem start_instant {shop : Shop access μ δ χ} {event : Event access μ δ χ} {task : Task (Job access μ δ χ)}
    (sorted : shop.schedule.queue.Pairwise Task.precedes) (inside : task ∈ shop.waiting event) :
    task.due.start (shop.instant event) = task.due.start shop.schedule.now := by
  cases event with
  | script | world => rfl
  | turn =>
    cases queue : shop.schedule.queue with
    | nil => rw [instant,queue]
    | cons first rest =>
      rw [waiting_turn queue] at inside
      rw [instant_turn queue]
      rw [queue] at sorted
      have precedes := (List.pairwise_cons.mp sorted).1 task inside
      refine Due.start_start ?_ shop.schedule.now
      unfold Task.precedes at precedes
      omega

variable [Motor μ] [Display δ]

/-- What is asked of the schedule in an event. -/
def requests (shop : Shop access μ δ χ) : Event access μ δ χ → List (Request (Job access μ δ χ))
  | .turn =>
    match shop.schedule.queue with
    | [] => []
    | task :: rest =>
      let started := shop.schedule.taken task rest
      (left (perform task.action) ⟨started.now, started.size⟩ { context := shop.desk }).requests
  | .script script => (script.run ⟨shop.schedule.now, shop.schedule.size⟩ { context := shop.desk }).2.requests
  | .world _ => []

/-- An event adds what it has asked for to what it leaves in the queue. -/
theorem schedule_next {shop after : Shop access μ δ χ} {event : Event access μ δ χ}
    (made : shop.next event = .ok after) :
    after.schedule.now = Request.clock (shop.instant event) (shop.requests event) ∧
      after.schedule.queue = (Request.tasks (shop.instant event) (shop.requests event)).foldl
        (fun queue task => task.enqueue queue) (shop.waiting event) := by
  cases event with
  | world plotter =>
    cases made
    exact ⟨rfl,rfl⟩
  | script script =>
    simp only [next] at made
    split at made
    · cases made
    next ran =>
      cases made
      have asked := congrArg (fun made => made.2.requests) ran
      exact asked ▸ shop.schedule.applyAll_requests _
  | turn =>
    unfold instant requests waiting
    cases first : shop.schedule.queue with
    | nil =>
      simp only [next,behaviour.step_idle shop.desk first] at made
      cases made
      exact ⟨rfl,first⟩
    | cons task rest =>
      let started := shop.schedule.taken task rest
      let w := left (perform task.action) ⟨started.now,started.size⟩ { context := shop.desk }
      have turn := behaviour.step_taken shop.desk first
      have acted := left_outcome (perform task.action) ⟨started.now,started.size⟩ shop.desk
      simp only at acted turn
      generalize ran : (perform task.action).outcome ⟨started.now,started.size⟩ shop.desk = outcome at acted
      rw [show behaviour.perform task.action ⟨(shop.schedule.taken task rest).now,(shop.schedule.taken task rest).size⟩
        shop.desk = outcome from ran] at turn
      have asked : outcome.requests = w.requests := congrArg Draft.requests acted
      have applied := started.applyAll_requests w.requests
      simp only [next,turn,asked] at made
      cases result : outcome.result with
      | ok value =>
        simp only [result] at made
        cases made
        exact applied
      | error reason =>
        simp only [result] at made
        cases reason with
        | overflow overflow => cases made
        | report report => cases made; exact applied

theorem sorted_next {shop after : Shop access μ δ χ} {event : Event access μ δ χ}
    (sorted : shop.schedule.queue.Pairwise Task.precedes) (made : shop.next event = .ok after) :
    after.schedule.queue.Pairwise Task.precedes := by
  rw [(schedule_next made).2]
  apply Task.foldl_enqueue_sorted
  cases event with
  | turn => exact sorted.sublist (List.tail_sublist _)
  | script | world => exact sorted

/-- Operations accepted since there were some before are to be looked at at once. -/
structure Working.Prompt (since : Nat) (w : Working access μ δ χ) : Prop where
  accepted : since ≤ w.context.notes.accepted
  asked : ∀ priority delay errand, .submit priority delay (.errand errand) ∈ w.requests →
    since ≤ errand.next.number ∧ delay = 0

omit [Motor μ] [Display δ] in
theorem Working.Prompt.request {w : Working access μ δ χ} {since : Nat} (prompt : w.Prompt since)
    {request : Request (Job access μ δ χ)} (own : errandOf? request = none) : (w.request request).Prompt since where
  accepted := prompt.accepted
  asked := by
    intro priority delay errand inside
    rcases List.mem_append.mp inside with before | here
    · exact prompt.asked priority delay errand before
    · rw [← List.mem_singleton.mp here] at own
      cases own

omit [Motor μ] [Display δ] in
theorem Working.Prompt.accept {w : Working access μ δ χ} {since : Nat} (prompt : w.Prompt since) (order : Order access)
    (callback : Told → Script access μ δ χ) (operation : Operation) :
    (w.accept order callback operation).Prompt since where
  accepted := Nat.le_succ_of_le prompt.accepted
  asked := by
    intro priority delay errand inside
    rcases List.mem_append.mp inside with before | here
    · exact prompt.asked priority delay errand before
    · cases List.mem_singleton.mp here
      exact ⟨prompt.accepted,rfl⟩

theorem Script.prompt_run (script : Script access μ δ χ) (moment : Moment) {w : Working access μ δ χ} {since : Nat}
    (prompt : w.Prompt since) : (script.run moment w).2.Prompt since := by
  induction script generalizing w with
  | stop result => exact prompt
  | look rest ih => exact ih _ _ _ prompt
  | note notes rest ih => exact ih ⟨prompt.accepted,prompt.asked⟩
  | change free plotter rest ih => exact ih ⟨prompt.accepted,prompt.asked⟩
  | spend time rest ih => exact ih (prompt.request rfl)
  | submit priority delay task rest _ ih => exact ih (prompt.request rfl)
  | order placed callback rest ihc ihr =>
    have placed_prompt (plotter : Plotter μ δ) : (w.withPlotter plotter).Prompt since :=
      ⟨prompt.accepted,prompt.asked⟩
    simp only [run]
    cases placed.place (Request.clock moment.now w.requests) w.context.plotter with
    | error reason plotter => exact ihr _ (placed_prompt plotter)
    | ok dispatched plotter =>
      cases dispatched with
      | replied reply => exact ihr _ (ihc _ (placed_prompt plotter))
      | started operation => exact ihr _ ((placed_prompt plotter).accept placed callback operation)

theorem finish_prompt (ticket : Ticket access μ δ χ) (completion : Completion) (moment : Moment)
    {w : Working access μ δ χ} {since : Nat} (prompt : w.Prompt since) :
    (left (finish ticket completion) moment w).Prompt since := by
  obtain ⟨number,order,callback⟩ := ticket
  have called : (w.called number).Prompt since := ⟨prompt.accepted,prompt.asked⟩
  have direct (whole : finish ⟨number,order,callback⟩ completion moment w =
      (callback (.completed completion)).action moment (w.called number)) :
      (left (finish ⟨number,order,callback⟩ completion) moment w).Prompt since := by
    rw [left_congr whole,left_action]
    exact (callback (.completed completion)).prompt_run moment called
  cases order with
  | home free previous => exact direct rfl
  | go free targets => exact direct rfl
  | command asked previous =>
    obtain ⟨told,plotter,replied,_⟩ := Gcode.reply_ok completion moment.now w.context.plotter
    rw [left_congr (finish_command number asked previous callback completion moment w replied),left_action]
    exact (callback (.replied told)).prompt_run moment ⟨called.accepted,called.asked⟩

/-- A look asks for the next one at the same operation; all other operations that it asks for are new. -/
theorem perform_asked (errand : Errand (Ticket access μ δ χ)) (moment : Moment)
    (desk : Desk μ δ (Register access μ δ χ)) {priority : Int} {delay : Nat} {next : Errand (Ticket access μ δ χ)}
    (asked : .submit priority delay (.errand next) ∈
      (left (perform (.errand errand)) moment { context := desk }).requests) :
    (desk.notes.accepted ≤ next.next.number ∧ delay = 0) ∨
      ∃ operation p', (⟨errand,moment.now,desk.plotter⟩ : Look access μ δ χ).result =
        .ok (.again delay operation) p' ∧ next = { errand with operation } := by
  have whole := perform_errand errand moment { context := desk }
  simp only at whole
  cases made : (⟨errand,moment.now,desk.plotter⟩ : Look access μ δ χ).result with
  | error reason plotter =>
    simp only [made] at whole
    rw [left_of_error whole] at asked
    cases asked
  | ok progress plotter =>
    simp only [made] at whole
    cases progress with
    | dropped =>
      rw [left_of_ok whole] at asked
      cases asked
    | again later operation =>
      rw [left_of_ok whole] at asked
      cases List.mem_singleton.mp asked
      exact .inr ⟨operation,plotter,rfl,rfl⟩
    | done completion =>
      let w : Working access μ δ χ :=
        (Working.entered ⟨errand,moment.now,desk.plotter⟩ { context := desk }).withPlotter plotter
      have prompt : w.Prompt desk.notes.accepted := ⟨Nat.le_refl _,fun _ _ _ inside => by cases inside⟩
      have finishes : perform (.errand errand) moment { context := desk } =
          finish errand.next completion moment w := whole
      rw [left_congr finishes] at asked
      exact .inl ((finish_prompt errand.next completion moment prompt).asked priority delay next asked)

/-- A task of an operation that waits after an event was left where it was, or it was asked for in the event: at once when
the operation was accepted, and with the delay that a look at it came to. -/
theorem asked_next {shop after : Shop access μ δ χ} {event : Event access μ δ χ} (made : shop.next event = .ok after)
    {task : Task (Job access μ δ χ)} (inside : task ∈ after.schedule.queue) {errand : Errand (Ticket access μ δ χ)}
    (acts : task.action = .errand errand) :
    task ∈ shop.waiting event ∨ ∃ asked delay, shop.instant event ≤ asked ∧ asked ≤ after.schedule.now ∧
      task.due = .after asked delay ∧
      ((shop.books.accepted ≤ errand.next.number ∧ delay = 0) ∨ ∃ look p',
        after.books.looks = look :: shop.books.looks ∧ look.now = shop.instant event ∧
          look.result = .ok (.again delay errand.operation) p' ∧ errand.next = look.errand.next) := by
  obtain ⟨clock,queue⟩ := schedule_next made
  rw [queue] at inside
  rcases List.mem_append.mp ((Task.foldl_enqueue_perm _ _).mem_iff.mp inside) with before | added
  · exact .inl before
  obtain ⟨asked,delay,early,late,listed,due⟩ := Request.mem_tasks added
  rw [← clock] at late
  refine .inr ⟨asked,delay,early,late,due,?_⟩
  rw [acts] at listed
  have prompt : Working.Prompt shop.books.accepted ({ context := shop.desk } : Working access μ δ χ) :=
    ⟨Nat.le_refl _,fun _ _ _ inside => by cases inside⟩
  cases event with
  | world => cases listed
  | script script => exact .inl ((script.prompt_run _ prompt).asked _ _ _ listed)
  | turn =>
    unfold requests at listed
    cases first : shop.schedule.queue with
    | nil => simp [first] at listed
    | cons head rest =>
      simp only [first] at listed
      obtain ⟨_,desk,_⟩ := next_turn first made
      cases job : head.action with
      | task script =>
        simp only [job,perform,left_action] at listed
        exact .inl ((script.prompt_run _ prompt).asked _ _ _ listed)
      | errand looked =>
        rw [job] at listed desk
        rcases perform_asked looked _ shop.desk listed with new | ⟨operation,p',result,rfl⟩
        · exact .inl new
        · refine .inr ⟨_,p',?_,(instant_turn first).symm,result,rfl⟩
          unfold books
          rw [desk]
          exact looks_perform looked _ shop.desk

/-- Where a task of an operation comes from that waits after an event. -/
inductive Origin (shop after : Shop access μ δ χ) (event : Event access μ δ χ) (due : Due)
    (errand : Errand (Ticket access μ δ χ)) : Prop where
  | kept (task : Task (Job access μ δ χ)) : task ∈ shop.waiting event → task.action = .errand errand →
      due = task.due → Origin shop after event due errand
  | accepted : shop.books.accepted ≤ errand.next.number → due = .immediate → Origin shop after event due errand
  | again (look : Look access μ δ χ) (delay : Nat) (p' : Plotter μ δ) :
      after.books.looks = look :: shop.books.looks → look.now = shop.instant event →
      look.result = .ok (.again delay errand.operation) p' → errand.next = look.errand.next →
      due = .after look.now delay → Origin shop after event due errand

theorem origin_next {shop after : Shop access μ δ χ} {event : Event access μ δ χ} (made : shop.next event = .ok after)
    (punctual : after.schedule.now = shop.instant event) {task : Task (Job access μ δ χ)}
    (inside : task ∈ after.schedule.queue) {errand : Errand (Ticket access μ δ χ)}
    (acts : task.action = .errand errand) : shop.Origin after event task.due errand := by
  rcases asked_next made inside acts with before | ⟨asked,delay,early,late,due,origin⟩
  · exact .kept task before acts rfl
  obtain rfl : asked = shop.instant event := Nat.le_antisymm (punctual ▸ late) early
  rcases origin with ⟨fresh,rfl⟩ | ⟨look,p',looked,instant,result,next⟩
  · exact .accepted fresh due
  · exact .again look delay p' looked instant result next (instant ▸ due)

/-- A look is taken at the operation whose task is first in the queue, at the instant of the event. -/
theorem look_next {shop after : Shop access μ δ χ} {event : Event access μ δ χ} (made : shop.next event = .ok after)
    {look : Look access μ δ χ} (looked : after.books.looks = look :: shop.books.looks) :
    ∃ task rest, shop.schedule.queue = task :: rest ∧ event = .turn ∧ task.action = .errand look.errand ∧
      look.now = shop.instant event := by
  have apart {looks : List (Look access μ δ χ)} : looks ≠ look :: looks := fun same => by
    have := congrArg List.length same
    simp at this
  cases event with
  | world => cases made; exact absurd looked apart
  | script script =>
    have unseen := looks_run script ⟨shop.schedule.now,shop.schedule.size⟩ { context := shop.desk }
    simp only [next] at made
    split at made
    · cases made
    next ran =>
      cases made
      rw [ran] at unseen
      exact absurd (unseen.symm.trans looked) apart
  | turn =>
    cases first : shop.schedule.queue with
    | nil =>
      simp only [next,behaviour.step_idle shop.desk first] at made
      cases made
      exact absurd looked apart
    | cons task rest =>
      obtain ⟨_,desk,_⟩ := next_turn first made
      unfold books at looked
      rw [desk] at looked
      cases job : task.action with
      | task script =>
        have unseen := looks_run script ⟨(shop.schedule.taken task rest).now,(shop.schedule.taken task rest).size⟩
          { context := shop.desk }
        simp only [job,perform,left_action] at looked
        exact absurd (unseen.symm.trans looked) apart
      | errand errand =>
        rw [job,looks_perform errand _ shop.desk] at looked
        obtain ⟨rfl,_⟩ := List.cons.inj looked
        exact ⟨task,rest,rfl,rfl,job,(instant_turn first).symm⟩

/-- Events throughout which nothing but the schedule moves the clock. -/
def Unhurried (shop : Shop access μ δ χ) : List (Event access μ δ χ) → Prop
  | [] => True
  | event :: events => ∀ after ∈ (shop.next event).toOption,
      after.schedule.now = shop.instant event ∧ after.Unhurried events

instance decidableUnhurried (shop : Shop access μ δ χ) :
    (events : List (Event access μ δ χ)) → Decidable (shop.Unhurried events)
  | [] => .isTrue trivial
  | event :: events =>
    have (after : Shop access μ δ χ) := decidableUnhurried after events
    inferInstanceAs (Decidable (∀ after ∈ (shop.next event).toOption,
      after.schedule.now = shop.instant event ∧ after.Unhurried events))

/-- What every unhurried event preserves holds after a row of them if it holds before. -/
theorem unhurried_preserves {P : Shop access μ δ χ → Prop} {shop after : Shop access μ δ χ}
    {events : List (Event access μ δ χ)} (unhurried : shop.Unhurried events)
    (step : ∀ shop event after, P shop → shop.next event = .ok after → after.schedule.now = shop.instant event →
      P after) (start : P shop) (lived : shop.live events = .ok after) : P after := by
  induction events generalizing shop with
  | nil =>
    cases lived
    exact start
  | cons event events ih =>
    rw [live_cons] at lived
    cases made : shop.next event with
    | error => rw [made] at lived; cases lived
    | ok between =>
      rw [made] at lived
      obtain ⟨punctual,unhurried⟩ := unhurried between (by rw [made]; rfl)
      exact ih unhurried (step shop event between start made punctual) lived

/-- The queue of a shop is always in order. -/
theorem sorted_live {now : Nat} {plotter : Plotter μ δ} {notes : χ} {events : List (Event access μ δ χ)}
    {shop : Shop access μ δ χ} (lived : (opened now plotter notes).live events = .ok shop) :
    shop.schedule.queue.Pairwise Task.precedes := by
  refine live_preserves (P := fun shop : Shop access μ δ χ => shop.schedule.queue.Pairwise Task.precedes)
    (fun shop event after sorted made => ?_) .nil lived
  exact sorted_next sorted made

end Shop
end PenPlotter
