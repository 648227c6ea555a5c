import PenPlotter.Proofs.Plotter.Likeness

/-! Plotters under watch. A motor or a display that is watched does what it does anyway, and all that passes between
it and the plotter is written down. Plotters that are alike are still alike when they are watched, and so the same is
written down of both. -/

namespace PenPlotter

/-- What passes between a plotter and one of its motors: a call and the answer to it. -/
inductive Exchange where
  | command (command : Motor.Command) (answer : Except DeviceError Unit)
  | position (answer : Except DeviceError Raw)
  | state (answer : Except DeviceError Motor.State)

/-- What passes between a plotter and its display. -/
inductive Showing where
  | presented (screen : Screen)
  | retexted (text : String)
  | polled (confirmed : Bool)

structure Watched (σ τ : Type) where
  device : σ
  record : List τ := []

namespace Watched

variable {μ ν δ ε α : Type}

/-- A call that is written down with its answer. -/
def call (entry : Except DeviceError α → Exchange) (call : Motor.Call μ α) : Motor.Call (Watched μ Exchange) α :=
  fun w =>
    match call w.device with
    | .ok value device => .ok value ⟨device, w.record ++ [entry (.ok value)]⟩
    | .error error device => .error error ⟨device, w.record ++ [entry (.error error)]⟩

instance [Motor μ] : Motor (Watched μ Exchange) where
  perform now command := call (.command command) (Motor.perform now command)
  position now := call .position (Motor.position now)
  state now := call .state (Motor.state now)
  connected w := Motor.connected w.device

instance [Display δ] : Display (Watched δ Showing) where
  present screen w := ⟨Display.present screen w.device, w.record ++ [.presented screen]⟩
  retext text w := ⟨Display.retext text w.device, w.record ++ [.retexted text]⟩
  takeConfirm now w :=
    let (confirmed, device) := Display.takeConfirm now w.device
    (confirmed, ⟨device, w.record ++ [.polled confirmed]⟩)

theorem call_unwatched (entry : Except DeviceError α → Exchange) (f : Motor.Call μ α) (w : Watched μ Exchange) :
    Agree (fun w m => w.device = m) (call entry f w) (f w.device) := by
  unfold call
  cases f w.device with
  | ok value m => exact .ok value rfl
  | error error m => exact .error error rfl

/-- Calls that agree do so when they are watched, and the same is written down of both. -/
theorem call_agrees {like : μ → ν → Prop} (entry : Except DeviceError α → Exchange) {f : Motor.Call μ α}
    {g : Motor.Call ν α} {w : Watched μ Exchange} {v : Watched ν Exchange}
    (agree : Agree like (f w.device) (g v.device)) (same : w.record = v.record) :
    Agree (fun w v => like w.device v.device ∧ w.record = v.record) (call entry f w) (call entry g v) := by
  unfold call
  generalize f w.device = made,g v.device = made' at agree
  cases agree with
  | ok value alike => exact .ok value ⟨alike,by rw [same]⟩
  | error error alike => exact .error error ⟨alike,by rw [same]⟩

end Watched

/-- A plotter all of whose devices are watched from now on. -/
def Plotter.watched (p : Plotter μ δ) : Plotter (Watched μ Exchange) (Watched δ Showing) :=
  { p with tool := ⟨p.tool, []⟩, x := ⟨p.x, []⟩, y := ⟨p.y, []⟩, display := ⟨p.display, []⟩ }

namespace Likeness

variable {μ ν δ ε : Type} [Motor μ] [Motor ν] [Display δ] [Display ε]

/-- A device under watch is like the device itself. -/
def unwatched (μ δ : Type) [Motor μ] [Display δ] (now : Nat) :
    Likeness (Watched μ Exchange) μ (Watched δ Showing) δ now where
  motor w m := w.device = m
  aimed w m := w.device = m
  display w d := w.device = d
  motor_of_aimed same := same
  connected same := congrArg Motor.connected same
  free _ same := same ▸ Watched.call_unwatched ..
  hold same := same ▸ Watched.call_unwatched ..
  aim _ same := same ▸ Watched.call_unwatched ..
  run same := same ▸ Watched.call_unwatched ..
  position same := same ▸ Watched.call_unwatched ..
  state same := same ▸ Watched.call_unwatched ..
  present screen same := congrArg (Display.present screen) same
  retext text same := congrArg (Display.retext text) same
  takeConfirm same := by subst same; exact ⟨rfl,rfl⟩

/-- Devices that are alike, and of which the same was written down. -/
def watched {now : Nat} (like : Likeness μ ν δ ε now) :
    Likeness (Watched μ Exchange) (Watched ν Exchange) (Watched δ Showing) (Watched ε Showing) now where
  motor w v := like.motor w.device v.device ∧ w.record = v.record
  aimed w v := like.aimed w.device v.device ∧ w.record = v.record
  display d e := like.display d.device e.device ∧ d.record = e.record
  motor_of_aimed same := ⟨like.motor_of_aimed same.1,same.2⟩
  connected same := like.connected same.1
  free free same := Watched.call_agrees _ (like.free free same.1) same.2
  hold same := Watched.call_agrees _ (like.hold same.1) same.2
  aim aims same := Watched.call_agrees _ (like.aim aims same.1) same.2
  run same := Watched.call_agrees _ (like.run same.1) same.2
  position same := Watched.call_agrees _ (like.position same.1) same.2
  state same := Watched.call_agrees _ (like.state same.1) same.2
  present screen same := ⟨like.present screen same.1,congrArg (· ++ [Showing.presented screen]) same.2⟩
  retext text same := ⟨like.retext text same.1,congrArg (· ++ [Showing.retexted text]) same.2⟩
  takeConfirm := by
    rintro d e ⟨alike,same⟩
    obtain ⟨answer,after⟩ := like.takeConfirm alike
    exact ⟨answer,after,by simp only [Display.takeConfirm,same,answer]⟩

theorem watched_unwatched (p : Plotter μ δ) (now : Nat) : (unwatched μ δ now).Alike p.watched p where
  motor axis := by cases axis <;> rfl
  display := rfl
  calibration := rfl
  modes := rfl
  motion := rfl
  steps := rfl

/-- Plotters that are alike are still alike once they are watched. -/
theorem Alike.watched {now : Nat} {like : Likeness μ ν δ ε now} {p : Plotter μ δ} {q : Plotter ν ε}
    (alike : like.Alike p q) : like.watched.Alike p.watched q.watched where
  motor axis := by
    have same := alike.motor axis
    cases axis <;> exact ⟨same,rfl⟩
  display := ⟨alike.display,rfl⟩
  calibration := alike.calibration
  modes := alike.modes
  motion := alike.motion
  steps := alike.steps

end Likeness
end PenPlotter
