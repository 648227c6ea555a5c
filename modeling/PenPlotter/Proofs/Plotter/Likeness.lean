import PenPlotter.Gcode
import PenPlotter.Proofs.Plotter.Program

/-! Programs on two plotters that cannot be told apart. Motors and displays of two kinds are alike if every call gives
the same answer on both and leaves them alike; then every program gives the same on both plotters, breaks off for the
same reason and leaves them alike, too. -/

namespace PenPlotter

/-- Two runs that agree: both gave the same or broke off for the same reason, and what they left is alike. -/
inductive Agree {ε σ τ α : Type} (like : σ → τ → Prop) : EStateM.Result ε σ α → EStateM.Result ε τ α → Prop where
  | ok (value : α) {s : σ} {t : τ} : like s t → Agree like (.ok value s) (.ok value t)
  | error (reason : ε) {s : σ} {t : τ} : like s t → Agree like (.error reason s) (.error reason t)

theorem Agree.refl {ε σ α : Type} {like : σ → σ → Prop} (same : ∀ s, like s s) (made : EStateM.Result ε σ α) :
    Agree like made made := by
  cases made with
  | ok value s => exact .ok value (same s)
  | error reason s => exact .error reason (same s)

namespace Plotter

variable {μ ν δ ε α β : Type} {now : Nat}

/-- Two programs agree on all plotters of which something holds, and something holds of what they leave. -/
def Carries (now : Nat) (before after : Plotter μ δ → Plotter ν ε → Prop) (program : PlotterM μ δ α)
    (other : PlotterM ν ε α) : Prop :=
  ∀ p q, before p q → Agree after (program now p) (other now q)

namespace Carries

variable {program : PlotterM μ δ α} {other : PlotterM ν ε α}
variable {rest : α → PlotterM μ δ β} {otherRest : α → PlotterM ν ε β}
variable {before between after : Plotter μ δ → Plotter ν ε → Prop}

theorem bind (first : Carries now before between program other) (stops : ∀ p q, between p q → after p q)
    (second : ∀ value, Carries now between after (rest value) (otherRest value)) :
    Carries now before after (program >>= rest) (other >>= otherRest) := by
  intro p q holds
  rw [bind_apply,bind_apply]
  have agree := first p q holds
  generalize program now p = made,other now q = made' at agree
  cases agree with
  | ok value holds => exact second value _ _ holds
  | error reason holds => exact .error reason (stops _ _ holds)

/-- A call that is answered alike by the motors of an axis. -/
theorem call (axis : Axis) {f : Nat → Motor.Call μ α} {g : Nat → Motor.Call ν α} {made : μ → ν → Prop}
    (called : ∀ p q, before p q → Agree made (f now (p.motor axis)) (g now (q.motor axis)))
    (kept : ∀ p q m n, before p q → made m n → after (p.setMotor axis m) (q.setMotor axis n)) :
    Carries now before after (Plotter.call axis f) (Plotter.call axis g) := by
  intro p q holds
  have agree := called p q holds
  unfold Plotter.call
  generalize f now (p.motor axis) = one,g now (q.motor axis) = other at agree
  cases agree with
  | ok value same => exact .ok value (kept _ _ _ _ holds same)
  | error reason same => exact .error _ (kept _ _ _ _ holds same)

end Carries
end Plotter

/-- A command that has nothing to do with targets. -/
def Motor.Command.Free : Motor.Command → Prop
  | .reset | .polarity _ | .dutyCycle _ | .runDirect | .stop => True
  | .speed _ | .target _ | .stopAction _ | .runToTarget => False

/-- A command that says where a motor is to run, and how fast. -/
def Motor.Command.Aims : Motor.Command → Prop
  | .speed _ | .target _ => True
  | _ => False

/-- When motors and displays are alike at an instant. A motor is aimed after it was told to hold its target, and before
it is told to run there. -/
structure Likeness (μ ν δ ε : Type) [Motor μ] [Motor ν] [Display δ] [Display ε] (now : Nat) where
  motor : μ → ν → Prop
  aimed : μ → ν → Prop
  display : δ → ε → Prop
  motor_of_aimed : ∀ {m n}, aimed m n → motor m n
  connected : ∀ {m n}, motor m n → Motor.connected m = Motor.connected n
  free : ∀ {command m n}, command.Free → motor m n →
    Agree motor (Motor.perform now command m) (Motor.perform now command n)
  hold : ∀ {m n}, motor m n →
    Agree aimed (Motor.perform now (.stopAction .hold) m) (Motor.perform now (.stopAction .hold) n)
  aim : ∀ {command m n}, command.Aims → aimed m n →
    Agree aimed (Motor.perform now command m) (Motor.perform now command n)
  run : ∀ {m n}, aimed m n → Agree motor (Motor.perform now .runToTarget m) (Motor.perform now .runToTarget n)
  position : ∀ {m n}, motor m n → Agree motor (Motor.position now m) (Motor.position now n)
  state : ∀ {m n}, motor m n → Agree motor (Motor.state now m) (Motor.state now n)
  present : ∀ {d e} screen, display d e → display (Display.present screen d) (Display.present screen e)
  retext : ∀ {d e} text, display d e → display (Display.retext text d) (Display.retext text e)
  takeConfirm : ∀ {d e}, display d e →
    (Display.takeConfirm now d).1 = (Display.takeConfirm now e).1 ∧
      display (Display.takeConfirm now d).2 (Display.takeConfirm now e).2

namespace Likeness

variable {μ ν δ ε α β : Type} [Motor μ] [Motor ν] [Display δ] [Display ε] {now : Nat}

/-- Plotters whose motors and displays are alike and which are the same otherwise. -/
structure Alike (like : Likeness μ ν δ ε now) (p : Plotter μ δ) (q : Plotter ν ε) : Prop where
  motor : ∀ axis, like.motor (p.motor axis) (q.motor axis)
  display : like.display p.display q.display
  calibration : p.calibration = q.calibration
  modes : p.modes = q.modes
  motion : p.motion = q.motion
  steps : p.steps = q.steps

/-- Plotters that are alike, and of which the motors of an axis are aimed. -/
def Aimed (like : Likeness μ ν δ ε now) (axis : Axis) (p : Plotter μ δ) (q : Plotter ν ε) : Prop :=
  like.Alike p q ∧ like.aimed (p.motor axis) (q.motor axis)

/-- Two programs agree on all plotters that are alike. -/
def Same (like : Likeness μ ν δ ε now) (program : PlotterM μ δ α) (other : PlotterM ν ε α) : Prop :=
  Plotter.Carries now like.Alike like.Alike program other

variable {like : Likeness μ ν δ ε now} {p : Plotter μ δ} {q : Plotter ν ε}

namespace Alike

theorem setMotor (alike : like.Alike p q) (axis : Axis) {m : μ} {n : ν} (same : like.motor m n) :
    like.Alike (p.setMotor axis m) (q.setMotor axis n) where
  motor other := by
    by_cases here : other = axis
    · subst here
      simpa using same
    · simpa [here] using alike.motor other
  display := by cases axis <;> exact alike.display
  calibration := by cases axis <;> exact alike.calibration
  modes := by cases axis <;> exact alike.modes
  motion := by cases axis <;> exact alike.motion
  steps := by cases axis <;> exact alike.steps

theorem connected (alike : like.Alike p q) (axis : Axis) :
    Motor.connected (p.motor axis) = Motor.connected (q.motor axis) := like.connected (alike.motor axis)

theorem disconnectedAxes (alike : like.Alike p q) : p.disconnectedAxes = q.disconnectedAxes := by
  simp only [Plotter.disconnectedAxes,alike.connected]

end Alike

namespace Same

variable {program : PlotterM μ δ α} {other : PlotterM ν ε α}
variable {rest : α → PlotterM μ δ β} {otherRest : α → PlotterM ν ε β}

theorem pure (value : α) : like.Same (Pure.pure value) (Pure.pure value) := fun _ _ alike => .ok value alike

theorem bind (first : like.Same program other) (second : ∀ value, like.Same (rest value) (otherRest value)) :
    like.Same (program >>= rest) (other >>= otherRest) :=
  Plotter.Carries.bind first (fun _ _ alike => alike) second

theorem map (f : α → β) (same : like.Same program other) : like.Same (f <$> program) (f <$> other) := by
  rw [map_eq_pure_bind,map_eq_pure_bind]
  exact same.bind fun value => .pure _

/-- A plotter that is looked at as a whole shows what its like does, if that is all that is made of it. -/
theorem get {rest : Plotter μ δ → PlotterM μ δ β} {otherRest : Plotter ν ε → PlotterM ν ε β}
    (shown : ∀ p q, like.Alike p q → like.Same (rest p) (otherRest q)) :
    like.Same (MonadState.get >>= rest) (MonadState.get >>= otherRest) :=
  fun p q alike => shown p q alike p q alike

theorem modify {f : Plotter μ δ → Plotter μ δ} {g : Plotter ν ε → Plotter ν ε}
    (kept : ∀ p q, like.Alike p q → like.Alike (f p) (g q)) :
    like.Same (modify f : PlotterM μ δ PUnit) (modify g) :=
  fun p q alike => .ok _ (kept p q alike)

theorem fail (fault : Fault) : like.Same (Plotter.fail fault : PlotterM μ δ α) (Plotter.fail fault) :=
  fun _ _ alike => .error _ alike

theorem checked (value : Except Overflow α) :
    like.Same (Plotter.checked value : PlotterM μ δ α) (Plotter.checked value) := by
  cases value with
  | ok value => exact .pure value
  | error overflow => exact fun _ _ alike => .error _ alike

theorem forM {step : β → PlotterM μ δ PUnit} {otherStep : β → PlotterM ν ε PUnit}
    (each : ∀ value, like.Same (step value) (otherStep value)) (values : List β) :
    like.Same (values.forM step) (values.forM otherStep) := by
  induction values with
  | nil => exact .pure _
  | cons value values ih => exact .bind (each value) fun _ => ih

theorem foldlM {step : α → β → PlotterM μ δ α} {otherStep : α → β → PlotterM ν ε α}
    (each : ∀ result value, like.Same (step result value) (otherStep result value)) (values : List β) (start : α) :
    like.Same (values.foldlM step start) (values.foldlM otherStep start) := by
  induction values generalizing start with
  | nil => exact .pure _
  | cons value values ih => exact .bind (each start value) fun result => ih result

/-! What a plotter asks of its motors and of its display. -/

theorem call (axis : Axis) {f : Nat → Motor.Call μ α} {g : Nat → Motor.Call ν α}
    (called : ∀ {m n}, like.motor m n → Agree like.motor (f now m) (g now n)) :
    like.Same (Plotter.call axis f) (Plotter.call axis g) :=
  Plotter.Carries.call axis (fun _ _ alike => called (alike.motor axis)) fun _ _ _ _ alike same => alike.setMotor axis same

theorem command (axis : Axis) {c : Motor.Command} (free : c.Free) :
    like.Same (Plotter.command axis c : PlotterM μ δ Unit) (Plotter.command axis c) :=
  call axis (like.free free)

/-- A motor is told to hold, where to run and to run there, in this order. -/
theorem launch (axis : Axis) (speed : Int) (target : Raw) :
    like.Same ((Targets.launch speed target).forM fun command => Plotter.command axis command : PlotterM μ δ PUnit)
      ((Targets.launch speed target).forM fun command => Plotter.command axis command) := by
  have aimed {p : Plotter μ δ} {q : Plotter ν ε} {m : μ} {n : ν} (alike : like.Alike p q) (same : like.aimed m n) :
      like.Aimed axis (p.setMotor axis m) (q.setMotor axis n) :=
    ⟨alike.setMotor axis (like.motor_of_aimed same),by simpa using same⟩
  have alike (p : Plotter μ δ) (q : Plotter ν ε) (aimed : like.Aimed axis p q) : like.Alike p q := aimed.1
  have hold : Plotter.Carries now like.Alike (like.Aimed axis)
      (Plotter.command axis (.stopAction .hold) : PlotterM μ δ Unit) (Plotter.command axis (.stopAction .hold)) :=
    .call axis (fun _ _ alike => like.hold (alike.motor axis)) fun _ _ _ _ alike same => aimed alike same
  have aim (c : Motor.Command) (aims : c.Aims) : Plotter.Carries now (like.Aimed axis) (like.Aimed axis)
      (Plotter.command axis c : PlotterM μ δ Unit) (Plotter.command axis c) :=
    .call axis (fun _ _ aimed => like.aim aims aimed.2) fun _ _ _ _ before same => aimed before.1 same
  have run : Plotter.Carries now (like.Aimed axis) like.Alike
      (Plotter.command axis .runToTarget : PlotterM μ δ Unit) (Plotter.command axis .runToTarget) :=
    .call axis (fun _ _ aimed => like.run aimed.2) fun _ _ _ _ before same => before.1.setMotor axis same
  exact Plotter.Carries.bind hold alike fun _ => .bind (aim _ trivial) alike fun _ =>
    .bind (aim _ trivial) alike fun _ => .bind run (fun _ _ alike => alike) fun _ => pure _

theorem readRaw (axis : Axis) : like.Same (Plotter.readRaw axis : PlotterM μ δ Raw) (Plotter.readRaw axis) :=
  call axis like.position

theorem present (screen : Screen) :
    like.Same (Plotter.present screen : PlotterM μ δ Unit) (Plotter.present screen) :=
  fun _ _ alike => .ok () { alike with display := like.present screen alike.display }

theorem retext (text : String) : like.Same (Plotter.retext text : PlotterM μ δ Unit) (Plotter.retext text) :=
  fun _ _ alike => .ok () { alike with display := like.retext text alike.display }

theorem takeConfirm : like.Same (Plotter.takeConfirm : PlotterM μ δ Bool) Plotter.takeConfirm := by
  intro p q alike
  obtain ⟨same,after⟩ := like.takeConfirm alike.display
  rw [Plotter.takeConfirm_apply,Plotter.takeConfirm_apply]
  unfold Plotter.confirmed
  rw [same]
  exact .ok _ { alike with display := after }

/-! The programs of a plotter. -/

theorem calibrated : like.Same (Plotter.calibrated : PlotterM μ δ Calibration) Plotter.calibrated := by
  refine .get fun p q alike => ?_
  rw [alike.calibration]
  split
  · exact .pure _
  · exact .fail _

theorem readNormalized (axis : Axis) :
    like.Same (Plotter.readNormalized axis : PlotterM μ δ Normalized) (Plotter.readNormalized axis) :=
  .bind .calibrated fun _ => .bind (.readRaw axis) fun _ => .pure _

theorem advanceNormalized (axis : Axis) (steps : Normalized) :
    like.Same (Plotter.advanceNormalized axis steps : PlotterM μ δ Normalized)
      (Plotter.advanceNormalized axis steps) :=
  .bind .calibrated fun _ => .bind (.readNormalized axis) fun _ => .pure _

theorem statusLine : like.Same (Plotter.statusLine : PlotterM μ δ String) Plotter.statusLine := by
  refine .get fun p q alike => ?_
  simp only [alike.calibration,alike.connected]
  split
  · exact .bind (.readNormalized _) fun _ => .bind (.readNormalized _) fun _ =>
      .bind (.readNormalized _) fun _ => .pure _
  · exact .pure _

end Same

end Likeness

open Likeness

variable {μ ν δ ε : Type} [Motor μ] [Motor ν] [Display δ] [Display ε] {now : Nat}
variable (like : Likeness μ ν δ ε now)

namespace Targets

theorem start_same (targets : Targets) : like.Same (targets.start : PlotterM μ δ Unit) targets.start := by
  refine .get fun p q alike => ?_
  rw [alike.motion]
  exact .forM (fun ⟨axis,target⟩ => .launch axis _ target) _

theorem reached_same (goals : List (Axis × Raw)) :
    like.Same (reached goals : PlotterM μ δ Bool) (reached goals) := by
  induction goals with
  | nil => exact .pure _
  | cons goal goals ih =>
    refine .bind (.readRaw goal.1) fun position => ?_
    split
    · exact ih
    · exact .pure _

theorem poll_same (targets : Targets) :
    like.Same (targets.poll : PlotterM μ δ (Progress Targets Unit)) targets.poll := by
  refine .bind .takeConfirm fun pressed => ?_
  split
  · exact .pure _
  refine .bind (reached_same like _) fun there => ?_
  split
  · exact .pure _
  refine .get fun p q alike => ?_
  rw [alike.motion]
  exact .pure _

end Targets

namespace Homing.Pass

theorem start_same (previous : Screen) :
    like.Same (start previous : PlotterM μ δ Pass) (start previous) := by
  refine .get fun p q alike => ?_
  rw [alike.disconnectedAxes]
  split <;> exact .bind (.present _) fun _ => .pure _

theorem observe_same (phase : Phase) :
    like.Same (observe phase : PlotterM μ δ Observation) (observe phase) := by
  refine .bind .takeConfirm fun confirm => ?_
  cases phase.activeLeg? with
  | none => exact .pure _
  | some leg =>
    dsimp only
    split
    · exact .pure _
    refine .bind (.call _ like.state) fun state => ?_
    split
    · exact .bind (.readRaw _) fun _ => .pure _
    · exact .pure _

theorem carryOut_same (previous : Screen) (tally : Tally) (effect : Effect) :
    like.Same (carryOut previous tally effect : PlotterM μ δ Tally) (carryOut previous tally effect) := by
  cases effect with
  | resetMotors =>
    have reset : Motor.Command.Free .reset := trivial
    exact .bind (.forM (fun axis => .command axis reset) _) fun _ => .pure _
  | startLeg leg =>
    refine .bind (.command _ trivial) fun _ => .bind (.command _ trivial) fun _ =>
      .bind (.command _ trivial) fun _ => .bind (.retext _) fun _ => .get fun p q alike => ?_
    rw [alike.motion]
    exact .pure _
  | stopMotor axis => exact .bind (.command axis trivial) fun _ => .pure _
  | showResults | restoreScreen => exact .bind (.present _) fun _ => .pure _
  | record | complete | fail => exact .pure _

theorem poll_same (pass : Pass) :
    like.Same (pass.poll : PlotterM μ δ (Progress Pass (Except Fault Calibration))) pass.poll := by
  refine .bind (observe_same like pass.phase) fun seen => .bind (.checked _) ?_
  rintro ⟨phase,effects⟩
  refine .get fun p q alike => ?_
  rw [alike.motion]
  refine .bind (.foldlM (carryOut_same like pass.previous) _ _) fun tally => ?_
  split
  · exact .pure _
  split <;> exact .pure _

end Homing.Pass

theorem Operation.poll_same (operation : Operation) :
    like.Same (operation.poll : PlotterM μ δ (Progress Operation Completion)) operation.poll := by
  cases operation with
  | homing pass => exact .bind (pass.poll_same like) fun made => by cases made <;> exact .pure _
  | move targets => exact .bind (targets.poll_same like) fun made => by cases made <;> exact .pure _

namespace Gcode

theorem coordinate_same (axis : Axis) (value : Float) :
    like.Same (coordinate axis value : PlotterM μ δ Raw) (coordinate axis value) := by
  refine .bind .calibrated fun c => .get fun p q alike => ?_
  rw [alike.steps,alike.modes]
  dsimp only
  split
  · exact .bind (.advanceNormalized axis _) fun _ => .pure _
  · exact .pure _

theorem targets_same (x y z : Option Float) :
    like.Same (targets x y z : PlotterM μ δ Targets) (targets x y z) := by
  have each (axis : Axis) (value : Option Float) :
      like.Same (coordinate? axis value : PlotterM μ δ (Option Raw)) (coordinate? axis value) := by
    cases value with
    | none => exact .pure _
    | some value => exact .map _ (coordinate_same like axis value)
  exact .bind (each _ _) fun _ => .bind (each _ _) fun _ => .bind (each _ _) fun _ => .pure _

theorem setModes_same (f : Modes → Modes) :
    like.Same (setModes f : PlotterM μ δ Dispatched) (setModes f) :=
  .bind (.modify fun _ _ alike => { alike with modes := congrArg f alike.modes }) fun _ => .pure _

theorem dispatch_same (previous : Screen) (command : Gcode) :
    like.Same (dispatch previous command : PlotterM μ δ Dispatched) (dispatch previous command) := by
  cases command with
  | go x y z =>
    refine .get fun p q alike => ?_
    rw [alike.calibration]
    split
    · exact .pure _
    · exact .bind (targets_same like x y z) fun targets => .bind (targets.start_same like) fun _ => .pure _
  | home => exact .bind (Homing.Pass.start_same like previous) fun _ => .pure _
  | useMillimeters | useInches | absolute | relative =>
    unfold dispatch
    exact setModes_same like _

theorem reply_same (completion : Completion) :
    like.Same (reply completion : PlotterM μ δ (Except Fault Unit)) (reply completion) := by
  cases completion with
  | arrived => exact .pure _
  | homed outcome =>
    cases outcome with
    | error fault => exact .pure _
    | ok c => exact .bind (.modify fun _ _ alike => { alike with calibration := rfl }) fun _ => .pure _

end Gcode
end PenPlotter
