import PenPlotter.Proofs.Gcode
import PenPlotter.Proofs.Homing.Driving

/-! Encoder frames. The position of a motor counts from where it was reset last, so that every reset begins
a new frame. A framed motor counts its resets; nothing that a client dispatches makes one but the first look
at a homing pass. -/

namespace PenPlotter

/-- A motor that counts its frames. A reset that is refused may have been made, so that it counts too. -/
structure Framed (μ : Type) where
  motor : μ
  frame : Nat := 0
  deriving DecidableEq, Repr

namespace Framed

/-- A call to the motor within, after which the frame has the given number. -/
def call (frame : Nat → Nat) (within : Motor.Call μ α) : Motor.Call (Framed μ) α := fun m =>
  match within m.motor with
  | .ok value motor => .ok value ⟨motor, frame m.frame⟩
  | .error error motor => .error error ⟨motor, frame m.frame⟩

instance [Motor μ] : Motor (Framed μ) where
  perform now command := call (if command = .reset then (· + 1) else id) (Motor.perform now command)
  position now := call id (Motor.position now)
  state now := call id (Motor.state now)
  connected m := Motor.connected m.motor

theorem frame_taken (frame : Nat → Nat) (within : Motor.Call μ α) (m : Framed μ) :
    ((call frame within).taken m).2.frame = frame m.frame := by
  unfold Motor.Call.taken call
  cases within m.motor <;> rfl

variable [Motor μ]

/-- Only a command to reset begins a frame. -/
theorem frame_put (ask : Ask) (other : ask ≠ .command .reset) (now : Nat) (m : Framed μ) :
    (ask.put now m).2.frame = m.frame := by
  cases ask with
  | command c =>
    have kept : c ≠ .reset := fun same => other (congrArg _ same)
    exact (frame_taken (if c = .reset then (· + 1) else id) _ m).trans (by rw [if_neg kept]; rfl)
  | position => exact frame_taken id (Motor.position now) m
  | state => exact frame_taken id (Motor.state now) m

theorem frame_attempt {asks : List (Axis × Ask)} (others : ∀ ask ∈ asks, ask.2 ≠ .command .reset) (now : Nat)
    (motors : Axis → Framed μ) (axis : Axis) :
    ((attempt now motors asks).2 axis).frame = (motors axis).frame := by
  induction asks generalizing motors with
  | nil => rfl
  | cons first asks ih =>
    obtain ⟨at_,ask⟩ := first
    have rest := ih (fun ask inside => others ask (List.mem_cons_of_mem _ inside))
    have here : (setAt motors at_ (ask.put now (motors at_)).2 axis).frame = (motors axis).frame := by
      unfold setAt
      split
      next same => rw [same,frame_put ask (others _ List.mem_cons_self)]
      · rfl
    simp only [attempt]
    split
    · exact (rest _).trans here
    · exact here

end Framed

namespace Plotter

variable {μ δ α β : Type}

def frames (p : Plotter (Framed μ) δ) (axis : Axis) : Nat := (p.motor axis).frame

/-- A program leaves the motors in their frames. -/
abbrev KeepsFrames (program : PlotterM (Framed μ) δ α) : Prop := Keeps (fun _ => True) frames program

namespace KeepsFrames

theorem call (axis : Axis) (f : Nat → Motor.Call (Framed μ) α)
    (kept : ∀ now m, ((f now).taken m).2.frame = m.frame) :
    KeepsFrames (call axis f : PlotterM (Framed μ) δ α) := by
  intro now p
  have kept := kept now (p.motor axis)
  refine ⟨?_,fun _ _ _ => trivial⟩
  unfold left Plotter.call frames
  unfold Motor.Call.taken at kept
  funext other
  cases made : f now (p.motor axis) with
  | ok value m | error error m =>
    simp only [made] at kept
    by_cases same : other = axis
    · simpa [same] using kept
    · simp [same]

theorem calibrated : KeepsFrames (calibrated : PlotterM (Framed μ) δ Calibration) := by
  refine .bind .get fun p => ?_
  split
  · exact .pure _
  · exact .fail _ trivial

theorem present [Display δ] (screen : Screen) : KeepsFrames (present screen : PlotterM (Framed μ) δ Unit) :=
  fun _ _ => ⟨rfl,fun _ _ => nofun⟩

theorem takeConfirm [Display δ] : KeepsFrames (takeConfirm : PlotterM (Framed μ) δ Bool) :=
  fun _ _ => ⟨rfl,fun _ _ => nofun⟩

variable [Motor μ]

theorem command (axis : Axis) (c : Motor.Command) (other : c ≠ .reset) :
    KeepsFrames (command axis c : PlotterM (Framed μ) δ Unit) :=
  call axis _ fun now m => Framed.frame_put (.command c) (by simpa using other) now m

theorem readRaw (axis : Axis) : KeepsFrames (readRaw axis : PlotterM (Framed μ) δ Raw) :=
  call axis _ fun now m => Framed.frame_put .position (by simp) now m

theorem readNormalized (axis : Axis) :
    KeepsFrames (readNormalized axis : PlotterM (Framed μ) δ Normalized) :=
  .bind calibrated fun _ => .bind (readRaw axis) fun _ => .pure _

end KeepsFrames
end Plotter

variable {μ δ : Type} [Motor μ]

section Gcode

theorem Gcode.coordinate_frames (axis : Axis) (value : Float) :
    Plotter.KeepsFrames (coordinate axis value : PlotterM (Framed μ) δ Raw) := by
  refine .bind Plotter.KeepsFrames.calibrated fun c => .bind .get fun p => ?_
  dsimp only
  split
  · exact .bind (.bind Plotter.KeepsFrames.calibrated fun _ =>
      .bind (Plotter.KeepsFrames.readNormalized axis) fun _ => .pure _) fun _ => .pure _
  · exact .bind (.pure _) fun _ => .pure _

theorem Gcode.targets_frames (x y z : Option Float) :
    Plotter.KeepsFrames (targets x y z : PlotterM (Framed μ) δ Targets) := by
  have each (axis : Axis) (value : Option Float) :
      Plotter.KeepsFrames (coordinate? axis value : PlotterM (Framed μ) δ (Option Raw)) := by
    cases value with
    | none => exact .pure _
    | some value => exact .map _ (coordinate_frames axis value)
  exact .bind (each _ _) fun _ => .bind (each _ _) fun _ => .bind (each _ _) fun _ => .pure _

theorem Targets.start_frames (targets : Targets) :
    Plotter.KeepsFrames (targets.start : PlotterM (Framed μ) δ Unit) := by
  refine .bind .get fun p => .forM ?_
  rintro ⟨axis,target⟩ _
  refine .forM ?_
  intro command inside
  exact Plotter.KeepsFrames.command axis command (by rintro rfl; simp [launch] at inside)

omit [Motor μ] in
theorem Gcode.reply_frames (completion : Completion) :
    Plotter.KeepsFrames (reply completion : PlotterM (Framed μ) δ (Except Fault Unit)) := by
  cases completion with
  | arrived => exact fun _ _ => ⟨rfl,fun _ _ => nofun⟩
  | homed outcome => cases outcome <;> exact fun _ _ => ⟨rfl,fun _ _ => nofun⟩

variable [Display δ]

theorem Homing.Pass.start_frames (previous : Screen) :
    Plotter.KeepsFrames (start previous : PlotterM (Framed μ) δ Pass) := by
  refine .bind .get fun p => ?_
  split <;> exact .bind (Plotter.KeepsFrames.present _) fun _ => .pure _

/-- To dispatch a command begins no frame, be it `Home`. -/
theorem Gcode.dispatch_frames (previous : Screen) (command : Gcode) :
    Plotter.KeepsFrames (dispatch previous command : PlotterM (Framed μ) δ Dispatched) := by
  cases command with
  | go x y z =>
    refine .bind .get fun p => ?_
    split
    · exact .pure _
    · exact .bind (targets_frames x y z) fun targets => .bind targets.start_frames fun _ => .pure _
  | home => exact .bind (Homing.Pass.start_frames previous) fun _ => .pure _
  | useMillimeters | useInches | absolute | relative => exact fun _ _ => ⟨rfl,fun _ _ => nofun⟩

end Gcode

/-! Looks at operations. -/

namespace Homing

/-- Only the first transition asks for a reset. -/
theorem Phase.Step.resets {phase next : Phase} {seen : Observation} {effects : List Effect}
    (step : phase.Step seen next effects) {axis : Axis}
    (resets : (axis,Ask.command .reset) ∈ effects.flatMap Effect.asks) : phase = .start ∧ seen.confirm = false := by
  cases step with
  | begun unpressed => exact ⟨rfl,unpressed⟩
  | @stalled _ leg => cases leg <;> simp [Effect.asks,afterLeg] at resets
  | _ => simp [Effect.asks] at resets

variable [Display δ]

theorem Phase.asks_no_command (phase : Phase) (now : Nat) (p : Plotter μ δ) (axis : Axis) (c : Motor.Command) :
    (axis,.command c) ∉ phase.asks now p := by
  unfold asks Leg.asks
  split
  · split
    · simp
    · split
      · split <;> simp
      · simp
  · simp

/-- At its first look a pass resets the motors, unless it is cancelled there. -/
def Pass.begins (pass : Pass) (now : Nat) (p : Plotter μ δ) : Prop :=
  pass.phase = .start ∧ p.confirmed now = false

namespace Pass

theorem begins_of_asks {pass : Pass} {now : Nat} {p : Plotter μ δ} {axis : Axis}
    (resets : (axis,Ask.command .reset) ∈ pass.asks now p) : pass.begins now p := by
  unfold asks at resets
  rcases List.mem_append.mp resets with read | asked
  · exact absurd read (pass.phase.asks_no_command now p axis _)
  cases looked : observe pass.phase now p with
  | error => simp [looked] at asked
  | ok seen between =>
    obtain rfl := observe_ok looked
    simp only [looked] at asked
    cases stepped : pass.phase.next (pass.phase.sight now p) with
    | error => simp [stepped] at asked
    | ok made =>
      simp only [stepped] at asked
      exact (Phase.next_eq_ok.mp stepped).resets asked

theorem poll_frames (pass : Pass) {now : Nat} {p : Plotter (Framed μ) δ} (onward : ¬ pass.begins now p) :
    (Plotter.left pass.poll now p).frames = p.frames := by
  have others : ∀ ask ∈ pass.asks now p, ask.2 ≠ .command .reset := by
    rintro ⟨axis,ask⟩ inside rfl
    exact onward (begins_of_asks inside)
  funext axis
  unfold Plotter.frames
  rw [(pass.poll_asks now p).1]
  exact Framed.frame_attempt others now p.motor axis

end Pass
end Homing

theorem Targets.poll_frames [Display δ] (targets : Targets) :
    Plotter.KeepsFrames (targets.poll : PlotterM (Framed μ) δ (Progress Targets Unit)) := by
  have reached (goals : List (Axis × Raw)) :
      Plotter.KeepsFrames (reached goals : PlotterM (Framed μ) δ Bool) := by
    induction goals with
    | nil => exact .pure _
    | cons goal goals ih =>
      refine .bind (Plotter.KeepsFrames.readRaw _) fun here => ?_
      split
      · exact ih
      · exact .pure _
  refine .bind Plotter.KeepsFrames.takeConfirm fun confirm => ?_
  split
  · exact .pure _
  refine .bind (reached _) fun there => ?_
  split
  · exact .pure _
  · exact .bind .get fun _ => .pure _

namespace Operation

variable [Display δ]

def begins (now : Nat) (p : Plotter μ δ) : Operation → Prop
  | .homing pass => pass.begins now p
  | .move _ => False

/-- A look leaves the motors in their frames unless a homing pass begins there. -/
theorem poll_frames (operation : Operation) {now : Nat} {p : Plotter (Framed μ) δ}
    (onward : ¬ operation.begins now p) : (Plotter.left operation.poll now p).frames = p.frames := by
  cases operation with
  | homing pass => rw [left_homing,pass.poll_frames onward]
  | move targets =>
    rw [left_move]
    exact (targets.poll_frames now p).1

end Operation
end PenPlotter
