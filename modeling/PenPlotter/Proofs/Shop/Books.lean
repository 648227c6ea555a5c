import PenPlotter.Proofs.Gcode
import PenPlotter.Proofs.Shop.Basic

/-! The books of a shop: the operations accepted, the callbacks called, the looks taken and the operations
that have a task waiting. A client only adds operations to them. -/

namespace PenPlotter.Shop

variable {access : Access} {μ δ χ : Type}

def Order.isHoming : Order access → Bool
  | .command asked _ => asked.isHome
  | .home .. => true
  | .go .. => false

def Job.errand? : Job access μ δ χ → Option (Errand (Ticket access μ δ χ))
  | .errand waiting => some waiting
  | .task _ => none

def errandOf? : Request (Job access μ δ χ) → Option (Errand (Ticket access μ δ χ))
  | .submit _ _ job => job.errand?
  | .spend _ => none

/-- An errand whose operation is under way and is of the kind that was ordered. -/
structure Fits (readings : List (Homing.Leg × Raw)) (errand : Errand (Ticket access μ δ χ)) : Prop where
  measured : errand.operation.Measured readings
  kind : errand.operation.isHoming = errand.next.order.isHoming

structure Books (access : Access) (μ δ χ : Type) where
  accepted : Nat
  calls : List Nat
  looks : List (Look access μ δ χ)
  /-- Errands that have a task waiting. -/
  errands : Errands access μ δ χ
  calibration : Option Calibration

/-- Operations are added under the numbers that follow. -/
structure Books.Adds (before : Books access μ δ χ) (new : Errands access μ δ χ)
    (after : Books access μ δ χ) : Prop where
  errands : after.errands.Perm (before.errands ++ new)
  numbers : new.map (fun errand => errand.next.number) = List.range' before.accepted new.length
  accepted : after.accepted = before.accepted + new.length
  fits : ∀ errand ∈ new, Fits [] errand
  calls : after.calls = before.calls
  looks : after.looks = before.looks
  calibration : access = .commands → after.calibration = before.calibration

namespace Books.Adds

variable {before between after : Books access μ δ χ} {new more : Errands access μ δ χ}

theorem refl (b : Books access μ δ χ) : b.Adds [] b :=
  ⟨by simp,rfl,rfl,by simp,rfl,rfl,fun _ => rfl⟩

theorem trans (first : before.Adds new between) (second : between.Adds more after) :
    before.Adds (new ++ more) after where
  errands := by
    rw [← List.append_assoc]
    exact second.errands.trans (first.errands.append_right more)
  numbers := by
    rw [List.map_append,first.numbers,second.numbers,first.accepted,List.length_append,List.range'_append_1]
  accepted := by
    rw [second.accepted,first.accepted,List.length_append,Nat.add_assoc]
  fits := by
    intro errand inside
    rcases List.mem_append.mp inside with inside | inside
    · exact first.fits errand inside
    · exact second.fits errand inside
  calls := second.calls.trans first.calls
  looks := second.looks.trans first.looks
  calibration limited := (second.calibration limited).trans (first.calibration limited)

theorem reorder {errands : Errands access μ δ χ} (adds : { before with errands }.Adds new after)
    (same : before.errands.Perm errands) : before.Adds new after where
  errands := adds.errands.trans (same.symm.append_right new)
  numbers := adds.numbers
  accepted := adds.accepted
  fits := adds.fits
  calls := adds.calls
  looks := adds.looks
  calibration := adds.calibration

/-- A client with full access may have set the calibration. -/
theorem full (free : access = .full) (adds : before.Adds new after) (calibration : Option Calibration) :
    { before with calibration }.Adds new after where
  errands := adds.errands
  numbers := adds.numbers
  accepted := adds.accepted
  fits := adds.fits
  calls := adds.calls
  looks := adds.looks
  calibration := by
    intro limited
    rw [free] at limited
    cases limited

end Books.Adds

namespace Working

/-- Writes down that a callback is called. -/
def called (number : Nat) (w : Working access μ δ χ) : Working access μ δ χ :=
  let register := w.context.notes
  { w with context := { w.context with notes := { register with calls := number :: register.calls } } }

/-- The books while a task acts, given the errands that wait behind it. -/
def books (waiting : Errands access μ δ χ) (w : Working access μ δ χ) : Books access μ δ χ where
  accepted := w.context.notes.accepted
  calls := w.context.notes.calls
  looks := w.context.notes.looks
  errands := waiting ++ w.requests.filterMap errandOf?
  calibration := w.context.plotter.calibration

variable {w : Working access μ δ χ} {waiting : Errands access μ δ χ}

theorem adds_accept {order : Order access} {callback : Told → Script access μ δ χ} {operation : Operation}
    (measured : operation.Measured []) (kind : operation.isHoming = order.isHoming) :
    (w.books waiting).Adds [⟨operation,w.context.notes.accepted,order,callback⟩]
      ((w.accept order callback operation).books waiting) where
  errands := by simp [books,accept,errandOf?,Job.errand?]
  numbers := rfl
  accepted := rfl
  fits := by
    intro errand inside
    rw [List.mem_singleton.mp inside]
    exact ⟨measured,kind⟩
  calls := rfl
  looks := rfl
  calibration _ := rfl

theorem books_request (w : Working access μ δ χ) (request : Request (Job access μ δ χ))
    (own : errandOf? request = none) :
    (w.request request).books waiting = w.books waiting := by
  simp [books,Working.request,own]

theorem books_withPlotter (plotter : Plotter μ δ) (kept : plotter.calibration = w.context.plotter.calibration) :
    (w.withPlotter plotter).books waiting = w.books waiting := by
  simp [books,withPlotter,kept]

end Working

/-- The errands that have a task in a schedule. -/
def errands (s : Schedule (Job access μ δ χ)) : Errands access μ δ χ :=
  (s.pending ++ s.submitted).filterMap fun task => task.action.errand?

theorem errands_applyAll (s : Schedule (Job access μ δ χ)) (requests : List (Request (Job access μ δ χ))) :
    errands (s.applyAll requests) = errands s ++ requests.filterMap errandOf? := by
  have submitted (now : Nat) : (Request.tasks now requests).filterMap (fun task => task.action.errand?) =
      requests.filterMap errandOf? := by
    induction requests generalizing now with
    | nil => rfl
    | cons request requests ih =>
      cases request with
      | submit => simp [Request.tasks,List.filterMap_cons,errandOf?,ih]
      | spend => rw [List.filterMap_cons]; exact ih _
  rw [Schedule.applyAll_eq]
  simp [errands,submitted]

theorem errands_queue (s : Schedule (Job access μ δ χ)) :
    (errands s).Perm (s.queue.filterMap fun task => task.action.errand?) :=
  s.queue_perm.symm.filterMap _

theorem mem_errands {s : Schedule (Job access μ δ χ)} {errand : Errand (Ticket access μ δ χ)} :
    errand ∈ errands s ↔ ∃ task ∈ s.queue, task.action = .errand errand := by
  rw [(errands_queue s).mem_iff,List.mem_filterMap]
  refine exists_congr fun task => and_congr_right fun _ => ?_
  cases task.action <;> simp [Job.errand?]

/-- The operation whose task is the first in the queue, and behind it those that wait. -/
theorem errands_first {s : Schedule (Job access μ δ χ)} {task : Task (Job access μ δ χ)}
    {rest : List (Task (Job access μ δ χ))} {errand : Errand (Ticket access μ δ χ)} (first : s.queue = task :: rest)
    (acts : task.action = .errand errand) :
    (errands s).Perm (errand :: rest.filterMap fun task => task.action.errand?) := by
  have queued := errands_queue s
  rw [first,List.filterMap_cons,acts] at queued
  exact queued

theorem errands_settle (s : Schedule (Job access μ δ χ)) : (errands s.settle).Perm (errands s) :=
  (errands_queue s.settle).trans (errands_queue s).symm

def books (shop : Shop access μ δ χ) : Books access μ δ χ where
  accepted := shop.desk.notes.accepted
  calls := shop.desk.notes.calls
  looks := shop.desk.notes.looks
  errands := errands shop.schedule
  calibration := shop.desk.plotter.calibration

/-- The books once a task has acted, with the errands in any order. -/
theorem adds_close {before : Books access μ δ χ} {new waiting : Errands access μ δ χ}
    {w : Working access μ δ χ} {shop : Shop access μ δ χ} (adds : before.Adds new (w.books waiting))
    (desk : shop.desk = w.context)
    (queued : (errands shop.schedule).Perm (waiting ++ w.requests.filterMap errandOf?)) :
    before.Adds new shop.books where
  errands := queued.trans adds.errands
  numbers := adds.numbers
  accepted := by simpa [books,Working.books,desk] using adds.accepted
  fits := adds.fits
  calls := by simpa [books,Working.books,desk] using adds.calls
  looks := by simpa [books,Working.books,desk] using adds.looks
  calibration limited := by simpa [books,Working.books,desk] using adds.calibration limited

/-- What a task leaves, whether it finishes or breaks off. -/
def left (action : ShopM access μ δ χ Unit) (moment : Moment) (w : Working access μ δ χ) :
    Working access μ δ χ :=
  match action moment w with
  | .ok _ w | .error _ w => w

section Left

variable {action other : ShopM access μ δ χ Unit} {moment : Moment} {w w' : Working access μ δ χ}

theorem left_of_ok (ran : action moment w = .ok () w') : left action moment w = w' := by
  simp only [left,ran]

theorem left_of_error {reason : Failure} (ran : action moment w = .error reason w') :
    left action moment w = w' := by
  simp only [left,ran]

theorem left_congr (same : action moment w = other moment w') : left action moment w = left other moment w' := by
  simp only [left,same]

end Left

theorem left_outcome (action : ShopM access μ δ χ Unit) (moment : Moment)
    (desk : Desk μ δ (Register access μ δ χ)) :
    let outcome := action.outcome moment desk
    (⟨outcome.context,outcome.requests⟩ : Working access μ δ χ) = left action moment { context := desk } := by
  unfold Action.outcome left
  cases action moment { context := desk } <;> rfl

variable [Motor μ] [Display δ]

theorem Order.place_keeps (order : Order access) :
    Plotter.Keeps (fun _ => True) Plotter.calibration (order.place : PlotterM μ δ Dispatched) := by
  cases order with
  | command asked previous => exact asked.dispatch_keeps previous
  | home _ previous => exact .bind (Homing.Pass.start_keeps .calibration previous) fun _ => .pure _
  | go _ targets =>
    exact .bind ((targets.start_keeps .calibration).imp fun _ _ => trivial) fun _ => .pure _

theorem Order.place_started {order : Order access} {now : Nat} {p p' : Plotter μ δ} {operation : Operation}
    (ran : order.place now p = .ok (.started operation) p') :
    operation.Measured [] ∧ operation.isHoming = order.isHoming := by
  cases order with
  | command asked previous => exact Gcode.dispatch_started ran
  | home _ previous =>
    obtain ⟨pass,_,started,ran⟩ := bind_eq_ok.mp ran
    cases ran
    exact ⟨Homing.Pass.start_ok started,rfl⟩
  | go _ targets =>
    obtain ⟨_,_,_,ran⟩ := bind_eq_ok.mp ran
    cases ran
    exact ⟨rfl,rfl⟩

/-- Whatever a client does, it only adds operations. -/
theorem Script.adds_run (script : Script access μ δ χ) (moment : Moment) (w : Working access μ δ χ)
    (waiting : Errands access μ δ χ) :
    ∃ new, (w.books waiting).Adds new ((script.run moment w).2.books waiting) := by
  induction script generalizing w with
  | stop result => exact ⟨[],.refl _⟩
  | look rest ih => exact ih _ _ _ w
  | note notes rest ih =>
    exact ih { w with context := { w.context with notes := { w.context.notes with notes } } }
  | change free plotter rest ih =>
    obtain ⟨new,adds⟩ := ih (w.withPlotter plotter)
    exact ⟨new,adds.full free w.context.plotter.calibration⟩
  | spend time rest ih =>
    rw [← w.books_request (.spend time) rfl]
    exact ih _
  | submit priority delay task rest _ ih =>
    rw [← w.books_request (.submit priority delay (.task task)) rfl]
    exact ih _
  | order placed callback rest ihc ihr =>
    have kept := placed.place_keeps (μ := μ) (δ := δ)
    simp only [run]
    cases ran : placed.place (Request.clock moment.now w.requests) w.context.plotter with
    | error reason plotter =>
      rw [← Working.books_withPlotter plotter (kept.of_error ran)]
      exact ihr _ _
    | ok dispatched plotter =>
      rw [← Working.books_withPlotter plotter (kept.of_ok ran)]
      cases dispatched with
      | replied reply =>
        -- The callback of an order that is answered at once runs before the rest goes on.
        obtain ⟨first,adds⟩ := ihc (.replied reply) (w.withPlotter plotter)
        obtain ⟨more,adds'⟩ := ihr (((callback (.replied reply)).run moment (w.withPlotter plotter)).1)
          ((callback (.replied reply)).run moment (w.withPlotter plotter)).2
        exact ⟨_,adds.trans adds'⟩
      | started operation =>
        obtain ⟨measured,kind⟩ := Order.place_started ran
        obtain ⟨more,adds⟩ := ihr (.ok ()) ((w.withPlotter plotter).accept placed callback operation)
        exact ⟨_,(Working.adds_accept measured kind).trans adds⟩

end PenPlotter.Shop
