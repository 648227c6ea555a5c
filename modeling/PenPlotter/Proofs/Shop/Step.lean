import PenPlotter.Proofs.Shop.Books

/-! What an event does to the books of a shop. It adds operations, and it may be a look at one of them
before that. -/

namespace PenPlotter.Shop

variable {access : Access} {μ δ χ : Type} [Motor μ] [Display δ]

namespace Look

def number (look : Look access μ δ χ) : Nat := look.errand.next.number

def result (look : Look access μ δ χ) :
    EStateM.Result Failure (Plotter μ δ) (Progress Operation Completion) :=
  look.errand.operation.poll look.now look.plotter

/-- The errand that goes on after the look. -/
def next? (look : Look access μ δ χ) : Option (Errand (Ticket access μ δ χ)) :=
  match look.result with
  | .ok (.again _ operation) _ => some { look.errand with operation }
  | _ => none

/-- How the operation has completed at the look. -/
def completion? (look : Look access μ δ χ) : Option Completion :=
  match look.result with
  | .ok (.done completion) _ => some completion
  | _ => none

def confirmed (look : Look access μ δ χ) : Bool := look.plotter.confirmed look.now

/-- The leg found stalled, with the position that was read. -/
def reading? (look : Look access μ δ χ) : Option (Homing.Leg × Raw) :=
  look.errand.operation.stall? look.now look.plotter

theorem next?_eq_some {look : Look access μ δ χ} {errand : Errand (Ticket access μ δ χ)}
    (going : look.next? = some errand) : ∃ delay operation p',
      look.result = .ok (.again delay operation) p' ∧ errand = { look.errand with operation } := by
  unfold next? at going
  split at going
  next made =>
    cases going
    exact ⟨_,_,_,made,rfl⟩
  · cases going

theorem completion?_eq_some {look : Look access μ δ χ} {completion : Completion}
    (ended : look.completion? = some completion) : ∃ p', look.result = .ok (.done completion) p' := by
  unfold completion? at ended
  split at ended
  next made =>
    cases ended
    exact ⟨_,made⟩
  · cases ended

theorem number_of_next? {look : Look access μ δ χ} {errand : Errand (Ticket access μ δ χ)}
    (going : look.next? = some errand) : errand.next.number = look.number := by
  obtain ⟨_,_,_,_,rfl⟩ := next?_eq_some going
  rfl

theorem completion?_of_next? {look : Look access μ δ χ} (going : look.next?.isSome = true) :
    look.completion? = none := by
  unfold Look.next? at going
  unfold Look.completion?
  split at going
  next made => simp [made]
  · cases going

end Look

namespace Books

/-- The books after a look, given the errands that wait behind it and before the callback acts. -/
def took (b : Books access μ δ χ) (look : Look access μ δ χ) (waiting : Errands access μ δ χ) :
    Books access μ δ χ where
  accepted := b.accepted
  calls := if look.completion?.isSome then look.number :: b.calls else b.calls
  looks := look :: b.looks
  errands := waiting ++ look.next?.toList
  calibration := look.completion?.elim b.calibration (Gcode.replied b.calibration)

inductive Step (before : Books access μ δ χ) : Books access μ δ χ → Prop where
  | added : before.Adds new after → Step before after
  | looked (look : Look access μ δ χ) (waiting new : Errands access μ δ χ) :
      before.errands.Perm (look.errand :: waiting) →
      (∀ reason p', look.result = .error reason p' → reason.OfDevice) →
      (before.took look waiting).Adds new after → Step before after

theorem Step.accepted {before after : Books access μ δ χ} (step : before.Step after) :
    before.accepted ≤ after.accepted := by
  cases step with
  | added adds => rw [adds.accepted]; omega
  | looked look waiting new _ _ adds => rw [adds.accepted]; exact Nat.le_add_right ..

/-- A step is at most one look. -/
theorem Step.looks {before after : Books access μ δ χ} (step : before.Step after) :
    after.looks = before.looks ∨ ∃ look, after.looks = look :: before.looks := by
  cases step with
  | added adds => exact .inl adds.looks
  | looked look waiting new _ _ adds => exact .inr ⟨look,adds.looks⟩

end Books

theorem left_action (script : Script access μ δ χ) (moment : Moment) (w : Working access μ δ χ) :
    left script.action moment w = (script.run moment w).2 := by
  unfold left Script.action
  rcases script.run moment w with ⟨result,w'⟩
  cases result <;> rfl

theorem finish_command (number : Nat) (asked : Gcode) (previous : Screen) (callback : Told → Script access μ δ χ)
    (completion : Completion) (moment : Moment) (w : Working access μ δ χ) {told : Except Fault Unit}
    {plotter : Plotter μ δ} (replied : Gcode.reply completion moment.now w.context.plotter = .ok told plotter) :
    finish ⟨number,.command asked previous,callback⟩ completion moment w =
      (callback (.replied told)).action moment ((w.called number).withPlotter plotter) := by
  have made : (Desk.onPlotter (Gcode.reply completion) : ShopM access μ δ χ _) moment (w.called number) =
      .ok told ((w.called number).withPlotter plotter) := by
    unfold Desk.onPlotter
    rw [show (w.called number).context.plotter = w.context.plotter from rfl,replied]
    rfl
  simp only [Working.called] at made ⊢
  simp only [finish,bind_apply,Desk.note,made]

/-- A callback acts after its call was written down and the reply was made. -/
theorem finish_adds (ticket : Ticket access μ δ χ) (completion : Completion) (moment : Moment)
    (w : Working access μ δ χ) (waiting : Errands access μ δ χ) :
    let b := w.books waiting
    ∃ new, ({ b with
      calls := ticket.number :: b.calls
      calibration := Gcode.replied b.calibration completion } : Books access μ δ χ).Adds new
        ((left (finish ticket completion) moment w).books waiting) := by
  obtain ⟨number,order,callback⟩ := ticket
  have direct (free : access = .full)
      (whole : finish ⟨number,order,callback⟩ completion moment w =
        (callback (.completed completion)).action moment (w.called number)) :
      ∃ new, ({ (w.called number).books waiting with
        calibration := Gcode.replied (w.books waiting).calibration completion } : Books access μ δ χ).Adds new
          ((left (finish ⟨number,order,callback⟩ completion) moment w).books waiting) := by
    obtain ⟨new,adds⟩ := (callback (.completed completion)).adds_run moment (w.called number) waiting
    rw [← left_action,← left_congr whole] at adds
    exact ⟨new,adds.full free _⟩
  cases order with
  | home free previous => exact direct free rfl
  | go free targets => exact direct free rfl
  | command asked previous =>
    obtain ⟨told,plotter,replied,calibration⟩ := Gcode.reply_ok completion moment.now w.context.plotter
    have whole := finish_command number asked previous callback completion moment w replied
    obtain ⟨new,adds⟩ :=
      (callback (.replied told)).adds_run moment ((w.called number).withPlotter plotter) waiting
    rw [← left_action,← left_congr whole] at adds
    refine ⟨new,?_⟩
    simp only [Working.books,← calibration]
    exact adds

def Working.entered (look : Look access μ δ χ) (w : Working access μ δ χ) : Working access μ δ χ :=
  let register := w.context.notes
  { w with context := { w.context with notes := { register with looks := look :: register.looks } } }

theorem perform_errand (errand : Errand (Ticket access μ δ χ)) (moment : Moment) (w : Working access μ δ χ) :
    perform (.errand errand) moment w =
      let look : Look access μ δ χ := ⟨errand,moment.now,w.context.plotter⟩
      match look.result with
      | .error reason plotter => .error reason ((w.entered look).withPlotter plotter)
      | .ok (.again delay operation) plotter =>
        .ok () (((w.entered look).withPlotter plotter).request
          (.submit 0 delay (.errand { errand with operation })))
      | .ok (.done completion) plotter =>
        finish errand.next completion moment ((w.entered look).withPlotter plotter)
      | .ok .dropped plotter => .ok () ((w.entered look).withPlotter plotter) := by
  have entered : perform (.errand errand) moment w =
      errand.perform .errand finish moment (w.entered ⟨errand,moment.now,w.context.plotter⟩) := rfl
  rw [entered,Errand.perform_apply]
  rfl

theorem perform_breaks_off {errand : Errand (Ticket access μ δ χ)} {moment : Moment}
    {desk : Desk μ δ (Register access μ δ χ)} {reason : Failure} {p' : Plotter μ δ}
    (broken : (⟨errand,moment.now,desk.plotter⟩ : Look access μ δ χ).result = .error reason p') :
    ((perform (.errand errand)).outcome moment desk).result = .error reason := by
  unfold Action.outcome
  simp only [perform_errand,broken]

theorem Look.calibration_left (look : Look access μ δ χ) :
    match look.result with
    | .ok _ plotter | .error _ plotter => plotter.calibration = look.plotter.calibration := by
  have kept := look.errand.operation.poll_yields (μ := μ) (δ := δ) .calibration
  unfold Look.result
  cases made : look.errand.operation.poll look.now look.plotter with
  | ok => exact kept.of_ok made
  | error => exact kept.of_error made

/-- A look changes the books as its result says; then the callback may add operations. -/
theorem perform_adds (errand : Errand (Ticket access μ δ χ)) (moment : Moment) (w : Working access μ δ χ)
    (quiet : w.requests = []) (waiting : Errands access μ δ χ) :
    ∃ new, ((w.books waiting).took ⟨errand,moment.now,w.context.plotter⟩ waiting).Adds new
      ((left (perform (.errand errand)) moment w).books waiting) := by
  have whole := perform_errand errand moment w
  simp only at whole
  generalize seen : (⟨errand,moment.now,w.context.plotter⟩ : Look access μ δ χ) = look at whole ⊢
  have whose : look.errand = errand := by rw [← seen]
  have kept := look.calibration_left
  rw [show look.plotter = w.context.plotter by rw [← seen]] at kept
  unfold left
  rw [whole]
  have quits (plotter : Plotter μ δ) (kept : plotter.calibration = w.context.plotter.calibration)
      (none : look.next? = .none) (unfinished : look.completion? = .none) :
      (w.books waiting).took look waiting = ((w.entered look).withPlotter plotter).books waiting := by
    simp [Books.took,none,unfinished,Working.books,Working.entered,Working.withPlotter,quiet,kept]
  cases made : look.result with
  | error reason plotter =>
    simp only [made] at kept
    rw [quits plotter kept (by simp [Look.next?,made]) (by simp [Look.completion?,made])]
    exact ⟨[],.refl _⟩
  | ok progress plotter =>
    simp only [made] at kept
    cases progress with
    | dropped =>
      rw [quits plotter kept (by simp [Look.next?,made]) (by simp [Look.completion?,made])]
      exact ⟨[],.refl _⟩
    | again delay operation =>
      have same : (w.books waiting).took look waiting =
          (((w.entered look).withPlotter plotter).request
            (.submit 0 delay (.errand { errand with operation }))).books waiting := by
        simp [Books.took,Look.next?,Look.completion?,made,whose,Working.books,Working.entered,Working.withPlotter,
          Working.request,quiet,kept,errandOf?,Job.errand?]
      rw [same]
      exact ⟨[],.refl _⟩
    | done completion =>
      obtain ⟨new,adds⟩ :=
        finish_adds errand.next completion moment ((w.entered look).withPlotter plotter) waiting
      refine ⟨new,?_⟩
      have same : (w.books waiting).took look waiting =
          { ((w.entered look).withPlotter plotter).books waiting with
            calls := errand.next.number :: (((w.entered look).withPlotter plotter).books waiting).calls
            calibration := Gcode.replied
              (((w.entered look).withPlotter plotter).books waiting).calibration completion } := by
        simp [Books.took,Look.next?,Look.completion?,Look.number,made,whose,Working.books,Working.entered,
          Working.withPlotter,quiet,kept]
      rw [same]
      exact adds

theorem looks_run (script : Script access μ δ χ) (moment : Moment) (w : Working access μ δ χ) :
    (script.run moment w).2.context.notes.looks = w.context.notes.looks := by
  obtain ⟨_,adds⟩ := script.adds_run moment w []
  exact adds.looks

theorem looks_perform (errand : Errand (Ticket access μ δ χ)) (moment : Moment)
    (desk : Desk μ δ (Register access μ δ χ)) :
    (left (perform (.errand errand)) moment { context := desk }).context.notes.looks =
      ⟨errand,moment.now,desk.plotter⟩ :: desk.notes.looks := by
  obtain ⟨_,adds⟩ := perform_adds errand moment { context := desk } rfl []
  exact adds.looks

theorem next_turn {shop after : Shop access μ δ χ} {task : Task (Job access μ δ χ)}
    {rest : List (Task (Job access μ δ χ))} (first : shop.schedule.queue = task :: rest)
    (made : shop.next .turn = .ok after) :
    let started := shop.schedule.taken task rest
    let moment : Moment := ⟨started.now,started.size⟩
    let w := left (perform task.action) moment { context := shop.desk }
    (∀ reason, ((perform task.action).outcome moment shop.desk).result = .error reason → ¬ reason.OfRange) ∧
      after.desk = w.context ∧
      (errands after.schedule).Perm (errands started ++ w.requests.filterMap errandOf?) := by
  intro started moment w
  have acted := left_outcome (perform task.action) moment shop.desk
  have turn := behaviour.step_taken shop.desk first
  simp only at acted turn
  generalize ran : (perform task.action).outcome moment shop.desk = outcome at acted ⊢
  rw [show behaviour.perform task.action ⟨(shop.schedule.taken task rest).now,(shop.schedule.taken task rest).size⟩
    shop.desk = outcome from ran] at turn
  have context : outcome.context = w.context := congrArg Draft.context acted
  have requests : outcome.requests = w.requests := congrArg Draft.requests acted
  have left := errands_applyAll started w.requests
  simp only [next,turn,requests,context] at made
  cases result : outcome.result with
  | ok value =>
    simp only [result] at made
    cases made
    exact ⟨by simp,rfl,.of_eq left⟩
  | error reason =>
    simp only [result] at made
    cases reason with
    | overflow overflow => cases made
    | report report =>
      cases made
      refine ⟨?_,rfl,(errands_settle _).trans (.of_eq left)⟩
      rintro _ ⟨⟩ ⟨_,⟨⟩⟩

/-- Every event adds operations, after a look at one of them or without. -/
theorem books_next {shop after : Shop access μ δ χ} {event : Event access μ δ χ}
    (made : shop.next event = .ok after) : shop.books.Step after.books := by
  cases event with
  | world plotter =>
    cases made
    exact .added (.refl _)
  | script script =>
    obtain ⟨new,adds⟩ := script.adds_run ⟨shop.schedule.now,shop.schedule.size⟩ { context := shop.desk }
      (errands shop.schedule)
    have start : Working.books (errands shop.schedule) { context := shop.desk } = shop.books := by
      simp [books,Working.books]
    rw [start] at adds
    simp only [next] at made
    split at made
    · cases made
    · cases made
      rename_i ran
      rw [ran] at adds
      exact .added (adds_close adds rfl (.of_eq (errands_applyAll ..)))
  | turn =>
    cases first : shop.schedule.queue with
    | nil =>
      simp only [next,behaviour.step_idle shop.desk first] at made
      cases made
      exact .added { Books.Adds.refl shop.books with errands := by simpa [books] using errands_settle shop.schedule }
    | cons task rest =>
      obtain ⟨inRange,desk,queued⟩ := next_turn first made
      have behind : errands (shop.schedule.taken task rest) = rest.filterMap fun task => task.action.errand? := by
        simp [errands,Schedule.taken]
      rw [behind] at queued
      cases acting : task.action with
      | task script =>
        rw [acting] at queued desk
        obtain ⟨new,adds⟩ := script.adds_run
          ⟨(shop.schedule.taken task rest).now,(shop.schedule.taken task rest).size⟩ { context := shop.desk }
          (rest.filterMap fun task => task.action.errand?)
        rw [← left_action] at adds
        have waiting : shop.books.errands.Perm (rest.filterMap fun task => task.action.errand?) := by
          have before := errands_queue shop.schedule
          rw [first,List.filterMap_cons,acting] at before
          exact before
        exact .added ((adds_close adds desk queued).reorder (by simpa [Working.books] using waiting))
      | errand errand =>
        rw [acting] at queued desk inRange
        obtain ⟨new,adds⟩ := perform_adds errand
          ⟨(shop.schedule.taken task rest).now,(shop.schedule.taken task rest).size⟩ { context := shop.desk } rfl
          (rest.filterMap fun task => task.action.errand?)
        refine .looked ⟨errand,_,shop.desk.plotter⟩ _ new (errands_first first acting) ?_ (adds_close adds desk queued)
        intro reason p' broken
        have cause := (errand.operation.poll_yields (μ := μ) (δ := δ) .calibration).reason broken
        exact cause.resolve_right (inRange reason (perform_breaks_off broken))

end PenPlotter.Shop
