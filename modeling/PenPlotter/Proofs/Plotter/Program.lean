import PenPlotter.Plotter

/-! Programs on a plotter: how they run, what they leave and why they can break off. A view of a plotter
is `Aside` when neither motors nor screens show in it, so that no motor call and no screen changes it. -/

namespace PenPlotter

def Failure.OfDevice (reason : Failure) : Prop :=
  ∃ error, reason = .report (.ofFault (.ofDevice error))

def Failure.OfRange (reason : Failure) : Prop := ∃ overflow, reason = .overflow overflow

/-! A program that reads something, keeps a state and can break off. -/

section Steps

variable {ρ ε σ α β : Type} {r : ρ} {s s' : σ}

theorem bind_apply (program : ReaderT ρ (EStateM ε σ) α) (rest : α → ReaderT ρ (EStateM ε σ) β) :
    (program >>= rest) r s =
      match program r s with
      | .ok value s => rest value r s
      | .error reason s => .error reason s := by
  simp only [bind,ReaderT.bind,EStateM.bind]
  cases program r s <;> rfl

theorem bind_eq_ok {program : ReaderT ρ (EStateM ε σ) α} {rest : α → ReaderT ρ (EStateM ε σ) β}
    {result : β} :
    (program >>= rest) r s = .ok result s' ↔
      ∃ value between, program r s = .ok value between ∧ rest value r between = .ok result s' := by
  rw [bind_apply]
  cases program r s with
  | ok value between =>
    constructor
    · exact fun ran => ⟨value,between,rfl,ran⟩
    · rintro ⟨_,_,made,ran⟩
      cases made
      exact ran
  | error reason between => simp

theorem bind_eq_error {program : ReaderT ρ (EStateM ε σ) α} {rest : α → ReaderT ρ (EStateM ε σ) β} {reason : ε} :
    (program >>= rest) r s = .error reason s' ↔
      program r s = .error reason s' ∨
        ∃ value between, program r s = .ok value between ∧ rest value r between = .error reason s' := by
  rw [bind_apply]
  cases program r s with
  | error => simp
  | ok value between =>
    constructor
    · exact fun broken => .inr ⟨value,between,rfl,broken⟩
    · rintro (⟨⟨⟩⟩ | ⟨_,_,made,broken⟩)
      cases made
      exact broken

end Steps

namespace Plotter

variable {μ δ α β γ : Type}

@[simp] theorem pure_apply (value : α) (now : Nat) (p : Plotter μ δ) :
    (pure value : PlotterM μ δ α) now p = .ok value p := rfl

@[simp] theorem get_apply (now : Nat) (p : Plotter μ δ) :
    (get : PlotterM μ δ (Plotter μ δ)) now p = .ok p p := rfl

@[simp] theorem modify_apply (f : Plotter μ δ → Plotter μ δ) (now : Nat) (p : Plotter μ δ) :
    (modify f : PlotterM μ δ PUnit) now p = .ok () (f p) := rfl

theorem calibrated_apply {now : Nat} {p : Plotter μ δ} {c : Calibration} (known : p.calibration = some c) :
    (calibrated : PlotterM μ δ Calibration) now p = .ok c p := by
  simp [calibrated,bind_apply,known]

@[simp] theorem checked_ok (value : α) (now : Nat) (p : Plotter μ δ) :
    (checked (.ok value) : PlotterM μ δ α) now p = .ok value p := rfl

section Confirm

variable [Display δ]

/-- Whether a look at an instant takes a confirm. -/
def confirmed (now : Nat) (p : Plotter μ δ) : Bool := (Display.takeConfirm now p.display).1

/-- The plotter once it was asked for a confirm. -/
def asked (now : Nat) (p : Plotter μ δ) : Plotter μ δ :=
  { p with display := (Display.takeConfirm now p.display).2 }

@[simp] theorem motor_asked (now : Nat) (p : Plotter μ δ) : (p.asked now).motor = p.motor := rfl

theorem takeConfirm_apply (now : Nat) (p : Plotter μ δ) :
    (takeConfirm : PlotterM μ δ Bool) now p = .ok (p.confirmed now) (p.asked now) := rfl

end Confirm

/-- The plotter that a program leaves, whether it finishes or breaks off. -/
def left (program : PlotterM μ δ α) (now : Nat) (p : Plotter μ δ) : Plotter μ δ :=
  match program now p with
  | .ok _ p | .error _ p => p

/-- A view shows what is given on the plotter that a program leaves, and the program breaks off only for
some reasons. -/
def Yields (reasons : Failure → Prop) (view : Plotter μ δ → γ) (given : Nat → Plotter μ δ → γ)
    (program : PlotterM μ δ α) : Prop :=
  ∀ now p, view (left program now p) = given now p ∧
    ∀ reason p', program now p = .error reason p' → reasons reason

abbrev Keeps (reasons : Failure → Prop) (view : Plotter μ δ → γ) (program : PlotterM μ δ α) : Prop :=
  Yields reasons view (fun _ => view) program

structure Aside [Display δ] (view : Plotter μ δ → γ) : Prop where
  motor : ∀ p axis m, view (p.setMotor axis m) = view p
  present : ∀ (p : Plotter μ δ) screen,
    view { p with display := Display.present screen p.display } = view p
  retext : ∀ (p : Plotter μ δ) text,
    view { p with display := Display.retext text p.display } = view p

theorem Aside.motion [Display δ] : Aside (Plotter.motion : Plotter μ δ → Motion) where
  motor _ axis _ := by cases axis <;> rfl
  present _ _ := rfl
  retext _ _ := rfl

theorem Aside.calibration [Display δ] :
    Aside (Plotter.calibration : Plotter μ δ → Option Calibration) where
  motor _ axis _ := by cases axis <;> rfl
  present _ _ := rfl
  retext _ _ := rfl

namespace Yields

variable {reasons : Failure → Prop} {view : Plotter μ δ → γ} {given : Nat → Plotter μ δ → γ}
variable {program : PlotterM μ δ α} {rest : α → PlotterM μ δ β} {now : Nat} {p p' : Plotter μ δ}

theorem of_ok (yields : Yields reasons view given program) {value : α} (ran : program now p = .ok value p') :
    view p' = given now p := by
  simpa [left,ran] using (yields now p).1

theorem of_error (yields : Yields reasons view given program) {reason : Failure}
    (ran : program now p = .error reason p') : view p' = given now p := by
  simpa [left,ran] using (yields now p).1

theorem reason (yields : Yields reasons view given program) {reason : Failure}
    (ran : program now p = .error reason p') : reasons reason :=
  (yields now p).2 reason p' ran

theorem finished (value : Nat → Plotter μ δ → α) (after : Nat → Plotter μ δ → Plotter μ δ)
    (ran : ∀ now p, program now p = .ok (value now p) (after now p)) :
    Yields reasons view (fun now p => view (after now p)) program := by
  intro now p
  simp [left,ran]

theorem imp {weaker : Failure → Prop} (yields : Yields reasons view given program)
    (weaken : ∀ reason, reasons reason → weaker reason) : Yields weaker view given program :=
  fun now p => ⟨(yields now p).1,fun reason p' ran => weaken reason ((yields now p).2 reason p' ran)⟩

theorem bind (first : Yields reasons view given program) (second : ∀ value, Keeps reasons view (rest value)) :
    Yields reasons view given (program >>= rest) := by
  intro now p
  simp only [left,bind_apply]
  cases ran : program now p with
  | error reason between =>
    refine ⟨first.of_error ran,?_⟩
    rintro _ _ ⟨⟩
    exact first.reason ran
  | ok value between =>
    obtain ⟨kept,why⟩ := second value now between
    exact ⟨kept.trans (first.of_ok ran),why⟩

theorem pure (value : α) : Keeps reasons view (pure value) := finished _ _ fun _ _ => rfl

theorem get : Keeps reasons view (get : PlotterM μ δ (Plotter μ δ)) := finished _ _ fun _ _ => rfl

theorem map (f : α → β) (yields : Yields reasons view given program) :
    Yields reasons view given (f <$> program) := by
  rw [map_eq_pure_bind]
  exact yields.bind fun value => .pure _

theorem forM {step : α → PlotterM μ δ PUnit} {values : List α}
    (each : ∀ value ∈ values, Keeps reasons view (step value)) : Keeps reasons view (List.forM values step) := by
  induction values with
  | nil => exact .pure _
  | cons value values ih =>
    exact .bind (each value (by simp)) fun _ => ih fun v inside => each v (by simp [inside])

theorem foldlM {step : β → α → PlotterM μ δ β} (each : ∀ result value, Keeps reasons view (step result value))
    (values : List α) (start : β) : Keeps reasons view (values.foldlM step start) := by
  induction values generalizing start with
  | nil => exact .pure _
  | cons value values ih => exact .bind (each start value) fun result => ih result

theorem fail (fault : Fault) (why : reasons (.report (.ofFault fault))) :
    Keeps reasons view (fail fault : PlotterM μ δ α) :=
  fun _ _ => ⟨rfl,fun _ _ ran => by cases ran; exact why⟩

theorem checked (value : Except Overflow α) :
    Keeps Failure.OfRange view (checked value : PlotterM μ δ α) := by
  intro now p
  cases value with
  | ok value => exact ⟨rfl,fun _ _ => nofun⟩
  | error overflow => exact ⟨rfl,fun _ _ ran => by cases ran; exact ⟨overflow,rfl⟩⟩

theorem takeConfirm [Display δ] :
    Yields reasons view (fun now p => view (p.asked now)) (takeConfirm : PlotterM μ δ Bool) :=
  finished Plotter.confirmed Plotter.asked fun _ _ => rfl

variable [Display δ] (aside : Aside view)
include aside

theorem call (axis : Axis) (f : Nat → Motor.Call μ α) : Keeps Failure.OfDevice view (call axis f) := by
  intro now p
  unfold left Plotter.call
  cases f now (p.motor axis) with
  | ok value m => exact ⟨aside.motor ..,fun _ _ => nofun⟩
  | error error m => exact ⟨aside.motor ..,fun _ _ ran => by cases ran; exact ⟨error,rfl⟩⟩

theorem command [Motor μ] (axis : Axis) (c : Motor.Command) :
    Keeps Failure.OfDevice view (command axis c) :=
  call aside axis _

theorem present (screen : Screen) : Keeps reasons view (present screen : PlotterM μ δ Unit) :=
  fun _ p => ⟨aside.present p screen,fun _ _ => nofun⟩

theorem retext (text : String) : Keeps reasons view (retext text : PlotterM μ δ Unit) :=
  fun _ p => ⟨aside.retext p text,fun _ _ => nofun⟩

end Yields

end Plotter
end PenPlotter
