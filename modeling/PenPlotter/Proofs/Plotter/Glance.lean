import PenPlotter.Proofs.Motor.Build

/-! Programs that only look. They may bring simulated motors up to date and change nothing else, and on motors
that are plugged in they do not break off. -/

namespace PenPlotter

open Motor

namespace Plotter

variable {R δ α β : Type} [Scalar R] {now : Nat} {p p' : Plotter (Simulated R) δ}

def Connected (p : Plotter (Simulated R) δ) : Prop := ∀ axis, (p.motor axis).connected = true

/-- The plotter apart from its motors. -/
def apart (p : Plotter μ δ) : Plotter Unit δ := { p with tool := (), x := (), y := () }

/-- A plotter that differs from another one only in motors that were brought up to date. -/
structure Glanced (now : Nat) (p p' : Plotter (Simulated R) δ) : Prop where
  motor : ∀ axis, p'.motor axis = p.motor axis ∨ p'.motor axis = (p.motor axis).advance now
  apart : p'.apart = p.apart

namespace Glanced

theorem refl (now : Nat) (p : Plotter (Simulated R) δ) : Glanced now p p := ⟨fun _ => .inl rfl,rfl⟩

theorem trans {p'' : Plotter (Simulated R) δ} (first : Glanced now p p') (second : Glanced now p' p'') :
    Glanced now p p'' where
  motor axis := by
    rcases second.motor axis with same | up <;> rcases first.motor axis with before | before
    · exact .inl (same.trans before)
    · exact .inr (same.trans before)
    · exact .inr (up.trans (by rw [before]))
    · exact .inr (up.trans (by rw [before,Simulated.advance_advance]))
  apart := second.apart.trans first.apart

theorem setMotor (p : Plotter (Simulated R) δ) (axis : Axis) (now : Nat) :
    Glanced now p (p.setMotor axis ((p.motor axis).advance now)) where
  motor other := by
    by_cases same : other = axis
    · subst same
      simp
    · simp [same]
  apart := by cases axis <;> rfl

theorem display (glanced : Glanced now p p') : p'.display = p.display :=
  (congrArg Plotter.display glanced.apart :)

theorem calibration (glanced : Glanced now p p') : p'.calibration = p.calibration :=
  (congrArg Plotter.calibration glanced.apart :)

theorem modes (glanced : Glanced now p p') : p'.modes = p.modes :=
  (congrArg Plotter.modes glanced.apart :)

theorem motion (glanced : Glanced now p p') : p'.motion = p.motion :=
  (congrArg Plotter.motion glanced.apart :)

theorem steps (glanced : Glanced now p p') : p'.steps = p.steps :=
  (congrArg Plotter.steps glanced.apart :)

theorem build (glanced : Glanced now p p') (axis : Axis) : (p'.motor axis).build = (p.motor axis).build := by
  rcases glanced.motor axis with same | up
  · rw [same]
  · rw [up,Simulated.advance_build]

theorem connected (glanced : Glanced now p p') (connected : p.Connected) : p'.Connected :=
  fun axis => (congrArg Simulated.Build.connected (glanced.build axis)).trans (connected axis)

end Glanced

/-- A program does nothing but look at the motors, whether it finishes or breaks off. -/
def Glances (program : PlotterM (Simulated R) δ α) : Prop := ∀ now p, Glanced now p (left program now p)

namespace Glances

variable {program : PlotterM (Simulated R) δ α} {rest : α → PlotterM (Simulated R) δ β}

theorem of_ok (glances : Glances program) {value : α} (ran : program now p = .ok value p') : Glanced now p p' := by
  simpa [left,ran] using glances now p

theorem pure (value : α) : Glances (pure value : PlotterM (Simulated R) δ α) := fun now p => .refl now p

theorem get : Glances (get : PlotterM (Simulated R) δ (Plotter (Simulated R) δ)) := fun now p => .refl now p

theorem fail (fault : Fault) : Glances (fail fault : PlotterM (Simulated R) δ α) := fun now p => .refl now p

theorem bind (first : Glances program) (second : ∀ value, Glances (rest value)) : Glances (program >>= rest) := by
  intro now p
  have before := first now p
  simp only [left,bind_apply] at before ⊢
  cases ran : program now p with
  | error reason between => simpa [ran] using before
  | ok value between =>
    simp only [ran] at before
    exact before.trans (second value now between)

theorem calibrated : Glances (calibrated : PlotterM (Simulated R) δ Calibration) := by
  refine .bind .get fun p => ?_
  split
  · exact .pure _
  · exact .fail _

/-- A call that tells something and leaves the motor up to date, or is refused. -/
theorem call (axis : Axis) (f : Nat → Motor.Call (Simulated R) α)
    (looks : ∀ now m, ((f now).taken m).2 = m ∨ ((f now).taken m).2 = m.advance now) :
    Glances (call axis f : PlotterM (Simulated R) δ α) := by
  intro now p
  have looks := looks now (p.motor axis)
  unfold left Plotter.call
  unfold Motor.Call.taken at looks
  have same : p.setMotor axis (p.motor axis) = p := by cases axis <;> rfl
  cases made : f now (p.motor axis) with
  | ok value m | error error m =>
    simp only [made] at looks ⊢
    rcases looks with rfl | rfl
    · rw [same]
      exact .refl now p
    · exact .setMotor p axis now

theorem readRaw (axis : Axis) : Glances (readRaw axis : PlotterM (Simulated R) δ Raw) := by
  refine call axis _ fun now m => ?_
  cases connected : m.connected <;>
    simp [Motor.Call.taken,Motor.position,Simulated.position,connected]

theorem readNormalized (axis : Axis) : Glances (readNormalized axis : PlotterM (Simulated R) δ Normalized) :=
  .bind calibrated fun _ => .bind (readRaw axis) fun _ => .pure _

theorem statusLine : Glances (statusLine : PlotterM (Simulated R) δ String) := by
  refine .bind .get fun p => ?_
  dsimp only
  split
  · exact .bind (readNormalized _) fun _ => .bind (readNormalized _) fun _ =>
      .bind (readNormalized _) fun _ => .pure _
  · exact .pure _

end Glances

section Reading

variable {c : Calibration}

theorem readRaw_connected {axis : Axis} (connected : (p.motor axis).connected = true) :
    readRaw axis now p =
      .ok ((p.motor axis).advance now).encoder (p.setMotor axis ((p.motor axis).advance now)) := by
  simp [readRaw,call,Motor.position,Simulated.position,connected]

theorem readNormalized_connected {axis : Axis} (known : p.calibration = some c)
    (connected : (p.motor axis).connected = true) :
    readNormalized axis now p = .ok (c.toNormalized axis ((p.motor axis).advance now).encoder)
      (p.setMotor axis ((p.motor axis).advance now)) := by
  simp only [readNormalized,bind_apply,calibrated_apply known,readRaw_connected connected]
  rfl

/-- On a plotter whose motors are plugged in if it is calibrated the status line can be told. -/
theorem statusLine_connected (now : Nat) (connected : p.calibration.isSome = true → p.Connected) :
    ∃ line p', statusLine now p = .ok line p' := by
  unfold statusLine
  simp only [bind_apply,get_apply]
  cases known : p.calibration with
  | none => exact ⟨_,_,rfl⟩
  | some c =>
    have connected := connected (by simp [known])
    have read {q : Plotter (Simulated R) δ} (axis : Axis) (glanced : Glanced now p q) :
        ∃ n q', readNormalized axis now q = .ok n q' ∧ Glanced now p q' :=
      ⟨_,_,readNormalized_connected (glanced.calibration.trans known) (glanced.connected connected axis),
        glanced.trans (.setMotor q axis now)⟩
    obtain ⟨tool,q,readTool,glanced⟩ := read .tool (.refl now p)
    obtain ⟨x,q',readX,glanced⟩ := read .x glanced
    obtain ⟨y,q'',readY,_⟩ := read .y glanced
    simp only [Option.isSome_some,↓reduceIte,bind_apply,readTool,readX,readY]
    exact ⟨_,_,rfl⟩

end Reading

end Plotter
end PenPlotter
