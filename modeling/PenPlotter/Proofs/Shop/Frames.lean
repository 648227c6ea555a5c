import PenPlotter.Proofs.Plotter.Frame
import PenPlotter.Proofs.Shop.Endings

/-! The frames in which a calibration counts. A homing pass begins a frame of every motor at its first look
and sets the calibration at its last. One that is cancelled or broken off in between leaves the calibration
as it was, so that this counts in frames of the past. -/

namespace PenPlotter.Shop

variable {access : Access} {μ δ χ : Type} [Motor μ] [Display δ]

def Look.begins (look : Look access μ δ χ) : Prop := look.errand.operation.begins look.now look.plotter

def frames (shop : Shop access (Framed μ) δ χ) : Axis → Nat := shop.desk.plotter.frames

theorem Order.place_frames (order : Order access) :
    Plotter.KeepsFrames (order.place : PlotterM (Framed μ) δ Dispatched) := by
  cases order with
  | command asked previous => exact asked.dispatch_frames previous
  | home _ previous => exact .bind (Homing.Pass.start_frames previous) fun _ => .pure _
  | go _ targets => exact .bind targets.start_frames fun _ => .pure _

/-- A client that only dispatches commands begins no frame itself. -/
theorem Script.frames_run (script : Script .commands (Framed μ) δ χ) (moment : Moment)
    (w : Working .commands (Framed μ) δ χ) :
    (script.run moment w).2.context.plotter.frames = w.context.plotter.frames := by
  induction script generalizing w with
  | stop result => rfl
  | look rest ih => exact ih _ _ _ w
  | note notes rest ih => exact ih _
  | change free => cases free
  | spend time rest ih => exact ih _
  | submit priority delay task rest _ ih => exact ih _
  | order placed callback rest ihc ihr =>
    have kept := placed.place_frames (μ := μ) (δ := δ)
    simp only [run]
    cases ran : placed.place (Request.clock moment.now w.requests) w.context.plotter with
    | error reason plotter => exact (ihr _ _).trans (kept.of_error ran)
    | ok dispatched plotter =>
      have kept := kept.of_ok ran
      cases dispatched with
      | replied reply => exact (ihr _ _).trans ((ihc _ _).trans kept)
      | started operation => exact (ihr _ _).trans kept

theorem frames_action (script : Script .commands (Framed μ) δ χ) (moment : Moment)
    (w : Working .commands (Framed μ) δ χ) :
    (left script.action moment w).context.plotter.frames = w.context.plotter.frames := by
  rw [left_action]
  exact script.frames_run moment w

theorem frames_finish (ticket : Ticket .commands (Framed μ) δ χ) (completion : Completion) (moment : Moment)
    (w : Working .commands (Framed μ) δ χ) :
    (left (finish ticket completion) moment w).context.plotter.frames = w.context.plotter.frames := by
  obtain ⟨number,order,callback⟩ := ticket
  cases order with
  | home direct | go direct => cases direct
  | command asked previous =>
    obtain ⟨told,plotter,replied,_⟩ := Gcode.reply_ok completion moment.now w.context.plotter
    have whole := finish_command number asked previous callback completion moment w replied
    rw [left_congr whole,frames_action]
    exact (Gcode.reply_frames completion).of_ok replied

theorem frames_perform (errand : Errand (Ticket .commands (Framed μ) δ χ)) (moment : Moment)
    (w : Working .commands (Framed μ) δ χ)
    (onward : ¬ errand.operation.begins moment.now w.context.plotter) :
    (left (perform (.errand errand)) moment w).context.plotter.frames = w.context.plotter.frames := by
  have kept := errand.operation.poll_frames onward
  have whole := perform_errand errand moment w
  simp only [Look.result] at whole
  simp only [Plotter.left] at kept
  cases made : errand.operation.poll moment.now w.context.plotter with
  | error reason plotter =>
    simp only [made] at kept whole
    rw [left_of_error whole]
    exact kept
  | ok progress plotter =>
    simp only [made] at kept whole
    cases progress with
    | again | dropped =>
      rw [left_of_ok whole]
      exact kept
    | done completion =>
      have finishes : perform (.errand errand) moment w = finish errand.next completion moment
          ((w.entered ⟨errand,moment.now,w.context.plotter⟩).withPlotter plotter) := whole
      rw [left_congr finishes,frames_finish]
      exact kept

/-- The world turns the motors as it likes but begins no frame: only a reset does. -/
def Event.KeepsFrames (shop : Shop access (Framed μ) δ χ) : Event access (Framed μ) δ χ → Prop
  | .world plotter => ∀ axis ∈ Axis.all, plotter.frames axis = shop.frames axis
  | .turn | .script _ => True

instance (shop : Shop access (Framed μ) δ χ) (event : Event access (Framed μ) δ χ) :
    Decidable (event.KeepsFrames shop) := by
  unfold Event.KeepsFrames
  split <;> infer_instance

/-- Events throughout which the world begins no frame. -/
def Undisturbed (shop : Shop access (Framed μ) δ χ) : List (Event access (Framed μ) δ χ) → Prop
  | [] => True
  | event :: events => event.KeepsFrames shop ∧ ∀ after ∈ (shop.next event).toOption, after.Undisturbed events

instance decidableUndisturbed (shop : Shop access (Framed μ) δ χ) :
    (events : List (Event access (Framed μ) δ χ)) → Decidable (shop.Undisturbed events)
  | [] => .isTrue trivial
  | event :: events =>
    have (after : Shop access (Framed μ) δ χ) := decidableUndisturbed after events
    inferInstanceAs (Decidable (event.KeepsFrames shop ∧
      ∀ after ∈ (shop.next event).toOption, after.Undisturbed events))

/-- An event begins no frame unless it is the first look at a homing pass. -/
def Reframes (before after : Shop access (Framed μ) δ χ) : Prop :=
  (after.books.looks = before.books.looks ∧ after.frames = before.frames) ∨
    ∃ look, after.books.looks = look :: before.books.looks ∧ look.plotter = before.desk.plotter ∧
      (¬ look.begins → after.frames = before.frames)

theorem frames_next {shop after : Shop .commands (Framed μ) δ χ} {event : Event .commands (Framed μ) δ χ}
    (made : shop.next event = .ok after) (kept : event.KeepsFrames shop) : shop.Reframes after := by
  cases event with
  | world plotter =>
    cases made
    exact .inl ⟨rfl,funext fun axis => kept axis axis.mem_all⟩
  | script script =>
    have still := script.frames_run ⟨shop.schedule.now,shop.schedule.size⟩ { context := shop.desk }
    have unseen := looks_run script ⟨shop.schedule.now,shop.schedule.size⟩ { context := shop.desk }
    simp only [next] at made
    split at made
    · cases made
    · cases made
      rename_i ran
      rw [ran] at still unseen
      exact .inl ⟨unseen,still⟩
  | turn =>
    cases first : shop.schedule.queue with
    | nil =>
      simp only [next,behaviour.step_idle shop.desk first] at made
      cases made
      exact .inl ⟨rfl,rfl⟩
    | cons task rest =>
      obtain ⟨_,desk,_⟩ := next_turn first made
      unfold Reframes frames books
      rw [desk]
      cases task.action with
      | task script =>
        refine .inl ⟨?_,frames_action script _ { context := shop.desk }⟩
        simp only [perform,left_action]
        exact looks_run script _ { context := shop.desk }
      | errand errand =>
        exact .inr ⟨_,looks_perform errand _ shop.desk,rfl,
          fun onward => frames_perform errand _ { context := shop.desk } onward⟩

/-- As long as no pass begins, the motors stay in the frames in which a look has found them. -/
def Steady (shop : Shop access (Framed μ) δ χ) : Prop :=
  ∀ later look earlier, shop.books.looks = later ++ look :: earlier →
    ¬ look.begins → (∀ other ∈ later, ¬ other.begins) → shop.frames = look.plotter.frames

omit [Motor μ] in
theorem Steady.next {shop after : Shop .commands (Framed μ) δ χ} (steady : shop.Steady)
    (step : shop.Reframes after) : after.Steady := by
  intro later look earlier split here since
  rcases step with ⟨same,still⟩ | ⟨latest,looked,found,still⟩
  · rw [still]
    exact steady later look earlier (same ▸ split) here since
  rw [split] at looked
  cases later with
  | nil =>
    obtain ⟨rfl,_⟩ := List.cons.inj looked
    rw [still here,found]
    rfl
  | cons other later =>
    obtain ⟨rfl,split⟩ := List.cons.inj looked
    rw [still (since other (by simp))]
    exact steady later look earlier split.symm here fun other inside => since other (by simp [inside])

namespace Look

variable {look : Look access μ δ χ}

omit [Motor μ] in
theorem begins_iff : look.begins ↔ ∃ pass, look.errand.operation = .homing pass ∧ pass.phase = .start ∧
    look.confirmed = false := by
  simp only [begins]
  cases look.errand.operation with
  | move => simp [Operation.begins]
  | homing pass => simp [Operation.begins,Homing.Pass.begins,confirmed]

omit [Motor μ] in
theorem accepted_of_begins (begins : look.begins) :
    look.errand.operation.isHoming = true ∧ look.errand.operation.refuses = false := by
  obtain ⟨pass,homing,start,_⟩ := begins_iff.mp begins
  rw [homing]
  exact ⟨rfl,congrArg Homing.Phase.refuses start⟩

theorem unread_of_begins (begins : look.begins) : look.reading? = none := by
  obtain ⟨pass,homing,start,_⟩ := begins_iff.mp begins
  simp [reading?,homing,Operation.stall?,Homing.Phase.stall?,start,Homing.Phase.activeLeg?]

theorem unhomed_of_begins (begins : look.begins) : look.homed? = none := by
  obtain ⟨pass,homing,start,_⟩ := begins_iff.mp begins
  refine Option.eq_none_iff_forall_ne_some.mpr ?_
  intro c homed
  obtain ⟨_,ran⟩ := poll_of_homed homing (homed?_eq_some homed)
  have closing := Homing.Pass.closing_of_done (by rw [start]; rfl) ran
  rw [start] at closing
  cases closing

end Look

/-- What holds of a shop in the hands of a client that only dispatches commands, whatever happens there. -/
structure Traced (shop : Shop .commands (Framed μ) δ χ) : Prop where
  sound : shop.books.Sound
  rowed : shop.books.Rowed
  backed : shop.books.Backed
  steady : shop.Steady

theorem traced_opened (now : Nat) {plotter : Plotter (Framed μ) δ} (fresh : plotter.calibration = none) (notes : χ) :
    (opened now plotter notes).Traced where
  sound := sound_opened now plotter notes
  rowed _ accepted := by cases accepted
  backed := fresh
  steady _ _ _ split := by simp [opened,books] at split

theorem Traced.next {shop after : Shop .commands (Framed μ) δ χ} {event : Event .commands (Framed μ) δ χ}
    (traced : shop.Traced) (made : shop.next event = .ok after) (kept : event.KeepsFrames shop) : after.Traced where
  sound := traced.sound.step (books_next made)
  rowed := traced.rowed.step traced.sound (books_next made)
  backed := traced.backed.step traced.sound rfl (books_next made)
  steady := traced.steady.next (frames_next made kept)

theorem traced_live {shop after : Shop .commands (Framed μ) δ χ} {events : List (Event .commands (Framed μ) δ χ)}
    (traced : shop.Traced) (undisturbed : shop.Undisturbed events) (lived : shop.live events = .ok after) :
    after.Traced := by
  induction events generalizing shop with
  | nil =>
    cases lived
    exact traced
  | cons event events ih =>
    obtain ⟨kept,later⟩ := undisturbed
    rw [live_cons] at lived
    cases made : shop.next event with
    | error => rw [made] at lived; cases lived
    | ok between =>
      rw [made] at lived
      exact ih (traced.next made kept) (later between (by simp [made,Except.toOption])) lived

section Traced

variable {shop : Shop .commands (Framed μ) δ χ} {look : Look .commands (Framed μ) δ χ}
variable {later earlier : List (Look .commands (Framed μ) δ χ)} {b : Calibration}

/-- A pass that has begun since the last one completed successfully was cancelled or broken off. -/
theorem Traced.begun (traced : shop.Traced) (idle : ∀ errand ∈ shop.books.errands, errand.operation.isHoming = false)
    (split : shop.books.looks = later ++ earlier) (last : ∀ other ∈ later, other.homed? = none)
    {other : Look .commands (Framed μ) δ χ} (inside : other ∈ later) (begins : other.begins) :
    (∃ ending, shop.books.last? other.number = some ending ∧
      ending.completion? = some (.homed (.error .homingCancelled))) ∨ shop.books.Stands other.number .lost := by
  have seen : other ∈ shop.books.looks := by simp [split,inside]
  obtain ⟨homing,accepted⟩ := Look.accepted_of_begins begins
  obtain ⟨ending,latest,number,ends⟩ := traced.sound.pass_ends traced.rowed idle seen homing accepted
  rcases ends with completes | cancelled | lost
  · -- The last look at a pass that was looked at since is one of the looks since then.
    obtain ⟨found,among⟩ : ∃ found, later.find? (fun look => look.number = other.number) = some found :=
      Option.isSome_iff_exists.mp (List.find?_isSome.mpr ⟨other,inside,by simp⟩)
    unfold Books.last? at latest
    rw [split,List.find?_append,among,Option.some_or] at latest
    obtain rfl := Option.some.inj latest
    simp [last found (List.mem_of_find?_eq_some among)] at completes
  · exact .inl ⟨ending,latest,cancelled⟩
  · exact .inr (number ▸ lost)

/-- A limit that looks at a pass have found was read in the frame in which its motor still is, unless a pass
has begun since then. -/
theorem Traced.limit (traced : shop.Traced) {n : Nat} (reads : b.ReadFrom (shop.books.readings n)) (limit : Limit) :
    ∃ reading leg stalledAt after before, shop.books.looks = after ++ reading :: before ∧
      reading.number = n ∧ reading.reading? = some (leg,stalledAt) ∧ leg.limit = limit ∧
      (b.get limit).ticks = stalledAt.ticks + leg.compensation ∧
      ((∀ other ∈ after, ¬ other.begins) → shop.frames leg.axis = reading.plotter.frames leg.axis) := by
  obtain ⟨leg,stalledAt,inside,which,moved⟩ := reads.limits limit
  obtain ⟨reading,among,read⟩ := List.mem_filterMap.mp inside
  simp only [List.mem_reverse,List.mem_filter,decide_eq_true_eq] at among
  obtain ⟨after,before,whole⟩ := List.append_of_mem among.1
  refine ⟨reading,leg,stalledAt,after,before,whole,among.2,read,which,moved,fun since => ?_⟩
  rw [traced.steady after reading before whole ?_ since]
  intro begins
  simp [Look.unread_of_begins begins] at read

end Traced

/-- A pass that completes, and a second one that is cancelled after its first look. -/
def abandonedPass : List (Event .commands (Framed Motor.Recorded) Journal Unit) :=
  let home : Event .commands (Framed Motor.Recorded) Journal Unit :=
    .script (.startAll [.command .home (.menu "main menu")])
  let stuck (frame presses : Nat) : Event .commands (Framed Motor.Recorded) Journal Unit :=
    .world {
      tool := ⟨stalledMotor .tool,frame⟩
      x := ⟨stalledMotor .x,frame⟩
      y := ⟨stalledMotor .y,frame⟩
      display := { presses } }
  [home,.turn,stuck 1 0,.turn,.turn,.turn,.turn,.turn,.turn,.turn,.turn,stuck 1 1,.turn,home,.turn,stuck 2 1,.turn]

/-- A calibration may outlive the frames in which it was read: a pass that is cancelled has reset the motors
and leaves it as it was. -/
theorem calibration_outlives_its_frames : ¬ ∀ (now : Nat) (plotter : Plotter (Framed Motor.Recorded) Journal)
    (notes : Unit) (events : List (Event .commands (Framed Motor.Recorded) Journal Unit))
    (shop : Shop .commands (Framed Motor.Recorded) Journal Unit), plotter.calibration = none →
    (opened now plotter notes).Undisturbed events → (opened now plotter notes).live events = .ok shop →
    (∀ errand ∈ shop.books.errands, errand.operation.isHoming = false) →
    ∀ b, shop.desk.plotter.calibration = some b →
    ∀ look, shop.books.calibrator? = some look → shop.frames = look.plotter.frames := by
  intro always
  let still : Plotter (Framed Motor.Recorded) Journal := { tool := ⟨{},0⟩, x := ⟨{},0⟩, y := ⟨{},0⟩, display := {} }
  obtain ⟨shop,lived,told⟩ := exists_ok
    (f := fun shop : Shop .commands (Framed Motor.Recorded) Journal Unit =>
      (shop.books.errands.length,shop.desk.plotter.calibration,shop.frames .x,
        shop.books.calibrator?.map fun look => look.plotter.frames .x))
    (show Option.map _ ((opened 0 still ()).live abandonedPass).toOption = some (0,some stalledLimits,2,some 1) by
      decide +kernel)
  simp only [Prod.mk.injEq,List.length_eq_zero_iff,Option.map_eq_some_iff] at told
  obtain ⟨idle,known,now,look,calibrator,before⟩ := told
  have same := always 0 still () abandonedPass shop rfl (by decide +kernel) lived (by simp [idle]) stalledLimits
    known look calibrator
  rw [same,before] at now
  cases now

/-- Where a calibration comes from and in which frames it counts, given the look at which its pass completed
and the looks after that one, latest first. -/
structure Counts (shop : Shop .commands (Framed μ) δ χ) (b : Calibration) (look : Look .commands (Framed μ) δ χ)
    (later : List (Look .commands (Framed μ) δ χ)) : Prop where
  homed : look.homed? = some b
  seen : ∃ earlier, shop.books.looks = later ++ look :: earlier
  last : ∀ other ∈ later, other.homed? = none
  /-- No motor was reset since the pass completed, unless another one has begun. -/
  frames : (∀ other ∈ later, ¬ other.begins) → shop.frames = look.plotter.frames
  /-- One that has begun since was cancelled or broken off by a device. -/
  begun : ∀ other ∈ later, other.begins →
    (∃ ending, shop.books.last? other.number = some ending ∧
      ending.completion? = some (.homed (.error .homingCancelled))) ∨ shop.books.Stands other.number .lost
  /-- A limit was read in the frame in which its motor still is, unless a pass has begun since then. -/
  limits : ∀ limit, ∃ reading leg stalledAt after before, shop.books.looks = after ++ reading :: before ∧
    reading.number = look.number ∧ reading.reading? = some (leg,stalledAt) ∧ leg.limit = limit ∧
    (b.get limit).ticks = stalledAt.ticks + leg.compensation ∧
    ((∀ other ∈ after, ¬ other.begins) → shop.frames leg.axis = reading.plotter.frames leg.axis)
  /-- A move is made to positions on this calibration, and in the same frames. -/
  goals : ∀ previous x y z now goals p',
    Gcode.dispatch previous (.go x y z) now shop.desk.plotter = .ok (.started (.move goals)) p' →
    p'.frames = shop.frames ∧ ∀ goal ∈ goals.toList, ∃ steps, goal.2 = b.toRaw goal.1 steps

theorem calibration_counts_in_frames_of_pass (now : Nat) (plotter : Plotter (Framed μ) δ) (notes : χ)
    (fresh : plotter.calibration = none) (events : List (Event .commands (Framed μ) δ χ))
    (undisturbed : (opened now plotter notes).Undisturbed events) (shop : Shop .commands (Framed μ) δ χ)
    (lived : (opened now plotter notes).live events = .ok shop)
    (idle : ∀ errand ∈ shop.books.errands, errand.operation.isHoming = false) (b : Calibration)
    (known : shop.desk.plotter.calibration = some b) : ∃ look later, shop.Counts b look later := by
  have traced := traced_live (traced_opened now fresh notes) undisturbed lived
  obtain ⟨look,later,earlier,split,homed,last,reads⟩ := traced.backed.calibrated known
  refine ⟨look,later,?_⟩
  constructor
  case homed => exact homed
  case seen => exact ⟨earlier,split⟩
  case last => exact last
  case frames =>
    intro since
    refine traced.steady later look earlier split ?_ since
    intro begins
    simp [Look.unhomed_of_begins begins] at homed
  case begun => exact fun other inside begins => traced.begun idle split last inside begins
  case limits => exact traced.limit reads
  case goals =>
    intro previous x y z now goals p' ran
    exact ⟨(Gcode.dispatch_frames previous _).of_ok ran,Gcode.go_started known ran⟩

theorem abandonedPass_leaves_calibration : ∃ shop : Shop .commands (Framed Motor.Recorded) Journal Unit,
    (opened 0 { tool := ⟨{},0⟩, x := ⟨{},0⟩, y := ⟨{},0⟩, display := {} } ()).live abandonedPass = .ok shop ∧
      shop.desk.plotter.calibration = some stalledLimits ∧ ∃ look later, shop.Counts stalledLimits look later := by
  obtain ⟨shop,lived,told⟩ := exists_ok
    (f := fun shop : Shop .commands (Framed Motor.Recorded) Journal Unit =>
      (shop.books.errands.length,shop.desk.plotter.calibration))
    (show Option.map _ ((opened 0 { tool := ⟨{},0⟩, x := ⟨{},0⟩, y := ⟨{},0⟩, display := {} } ()).live
        abandonedPass).toOption = some (0,some stalledLimits) by
      decide +kernel)
  simp only [Prod.mk.injEq,List.length_eq_zero_iff] at told
  refine ⟨shop,lived,told.2,?_⟩
  exact calibration_counts_in_frames_of_pass 0 _ () rfl abandonedPass (by decide +kernel) shop lived
    (by simp [told.1]) stalledLimits told.2

end PenPlotter.Shop
