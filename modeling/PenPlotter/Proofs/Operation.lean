import PenPlotter.Errand
import PenPlotter.Proofs.Homing.Look

/-! One look at an operation. It is dropped, completes, goes on or breaks off, and a confirm decides
which of these is possible. -/

namespace PenPlotter

/-- A calibration that comes from what was read at the stalls of the six legs, one for each limit. -/
structure Calibration.ReadFrom (c : Calibration) (readings : List (Homing.Leg × Raw)) : Prop where
  legs : readings.map Prod.fst = Homing.Leg.all
  limits : ∀ limit, ∃ leg stalledAt, (leg,stalledAt) ∈ readings ∧ leg.limit = limit ∧
    (c.get limit).ticks = stalledAt.ticks + leg.compensation

theorem Homing.Pass.Measured.readFrom {pass : Homing.Pass} {readings : List (Homing.Leg × Raw)}
    (measured : pass.Measured readings) (whole : pass.phase.done = Homing.Leg.all) :
    pass.recorded.ReadFrom readings where
  legs := measured.legs.trans whole
  limits limit := by
    obtain ⟨leg,rfl⟩ := Homing.Leg.limit_surjective limit
    have inside := leg.mem_all
    rw [← whole,← measured.legs] at inside
    obtain ⟨⟨_,stalledAt⟩,read,rfl⟩ := List.mem_map.mp inside
    exact ⟨_,stalledAt,read,rfl,measured.limits _ _ read⟩

namespace Targets

variable {μ δ : Type} [Motor μ]

variable [Display δ]

theorem poll_confirmed (targets : Targets) {now : Nat} {p : Plotter μ δ}
    (pressed : p.confirmed now = true) :
    targets.poll now p = .ok .dropped (p.asked now) := by
  unfold poll
  simp only [bind_apply,Plotter.takeConfirm_apply,pressed,↓reduceIte]
  rfl

theorem reached_keeps {view : Plotter μ δ → γ} (aside : Plotter.Aside view) (goals : List (Axis × Raw)) :
    Plotter.Keeps Failure.OfDevice view (reached goals : PlotterM μ δ Bool) := by
  induction goals with
  | nil => exact .pure _
  | cons goal goals ih =>
    refine .bind (.call aside _ _) ?_
    intro here
    split
    · exact ih
    · exact .pure _

theorem poll_yields {view : Plotter μ δ → γ} (aside : Plotter.Aside view) (targets : Targets) :
    Plotter.Yields Failure.OfDevice view (fun now p => view (p.asked now))
      (targets.poll : PlotterM μ δ (Progress Targets Unit)) := by
  refine .bind .takeConfirm ?_
  intro confirm
  split
  · exact .pure _
  refine .bind (reached_keeps aside _) ?_
  intro there
  split
  · exact .pure _
  · exact .bind .get fun _ => .pure _

theorem poll_dropped {targets : Targets} {now : Nat} {p p' : Plotter μ δ}
    (ran : targets.poll now p = .ok .dropped p') : p.confirmed now = true := by
  cases pressed : p.confirmed now with
  | true => rfl
  | false =>
    unfold poll at ran
    simp only [bind_apply,Plotter.takeConfirm_apply,pressed,Bool.false_eq_true,↓reduceIte] at ran
    cases looked : reached targets.toList now (p.asked now) with
    | error => simp [looked] at ran
    | ok there q =>
      cases there <;> simp [looked,bind_apply] at ran

end Targets

namespace Operation

def isHoming : Operation → Bool
  | .homing _ => true
  | .move _ => false

/-- An operation under way, with what was read at the stalls that it has seen. -/
def Measured (readings : List (Homing.Leg × Raw)) : Operation → Prop
  | .homing pass => pass.Measured readings
  | .move _ => readings = []

variable {μ δ : Type} [Motor μ] [Display δ]

def stall? (now : Nat) (p : Plotter μ δ) : Operation → Option (Homing.Leg × Raw)
  | .homing pass => pass.phase.stall? now p
  | .move _ => none

theorem poll_yields {view : Plotter μ δ → γ} (aside : Plotter.Aside view) (operation : Operation) :
    Plotter.Yields (fun reason => reason.OfDevice ∨ reason.OfRange) view (fun now p => view (p.asked now))
      (operation.poll : PlotterM μ δ (Progress Operation Completion)) := by
  cases operation with
  | homing pass =>
    refine .bind (pass.poll_yields aside) ?_
    intro made
    cases made <;> exact .pure _
  | move targets =>
    refine .bind ((targets.poll_yields aside).imp fun _ => .inl) ?_
    intro made
    cases made <;> exact .pure _

def ofPass : Progress Homing.Pass (Except Fault Calibration) → Progress Operation Completion
  | .again delay pass => .again delay (.homing pass)
  | .done outcome => .done (.homed outcome)
  | .dropped => .dropped

def ofMove : Progress Targets Unit → Progress Operation Completion
  | .again delay targets => .again delay (.move targets)
  | .done () => .done .arrived
  | .dropped => .dropped

theorem poll_homing (pass : Homing.Pass) (now : Nat) (p : Plotter μ δ) :
    (homing pass).poll now p =
      match pass.poll now p with
      | .ok made p => .ok (ofPass made) p
      | .error reason p => .error reason p := by
  simp only [poll,bind_apply]
  cases pass.poll now p with
  | error => rfl
  | ok made => cases made <;> rfl

theorem poll_move (targets : Targets) (now : Nat) (p : Plotter μ δ) :
    (move targets).poll now p =
      match targets.poll now p with
      | .ok made p => .ok (ofMove made) p
      | .error reason p => .error reason p := by
  simp only [poll,bind_apply]
  cases targets.poll now p with
  | error => rfl
  | ok made => cases made <;> rfl

theorem left_homing (pass : Homing.Pass) (now : Nat) (p : Plotter μ δ) :
    Plotter.left (homing pass).poll now p = Plotter.left pass.poll now p := by
  unfold Plotter.left
  rw [poll_homing]
  cases pass.poll now p <;> rfl

theorem left_move (targets : Targets) (now : Nat) (p : Plotter μ δ) :
    Plotter.left (move targets).poll now p = Plotter.left targets.poll now p := by
  unfold Plotter.left
  rw [poll_move]
  cases targets.poll now p <;> rfl

/-- What a look has come to: a move was dropped at a confirm, the operation has completed, or it goes
on with one more reading if a stall was seen. -/
inductive Looked (readings : List (Homing.Leg × Raw)) (operation : Operation) (now : Nat)
    (p : Plotter μ δ) : Progress Operation Completion → Prop where
  | dropped {targets : Targets} : p.confirmed now = true → operation = .move targets →
      Looked readings operation now p .dropped
  | homed {c : Calibration} {pass : Homing.Pass} :
      c.ReadFrom (readings ++ (operation.stall? now p).toList) → operation = .homing pass →
      Looked readings operation now p (.done (.homed (.ok c)))
  | failed {fault : Fault} {pass : Homing.Pass} : operation = .homing pass →
      Looked readings operation now p (.done (.homed (.error fault)))
  | arrived {targets : Targets} : p.confirmed now = false → operation = .move targets →
      Looked readings operation now p (.done .arrived)
  | again {delay : Nat} {next : Operation} : p.confirmed now = false → next.isHoming = operation.isHoming →
      next.Measured (readings ++ (operation.stall? now p).toList) →
      Looked readings operation now p (.again delay next)

variable {readings : List (Homing.Leg × Raw)} {operation : Operation} {now : Nat} {p p' : Plotter μ δ}

theorem poll_confirmed (measured : operation.Measured readings) (pressed : p.confirmed now = true) :
    ∃ made p', operation.poll now p = .ok made p' := by
  cases operation with
  | homing pass =>
    obtain ⟨outcome,p',ended⟩ := pass.poll_confirmed measured.alive pressed
    exact ⟨_,_,by rw [poll_homing,ended]⟩
  | move targets => exact ⟨_,_,by rw [poll_move,targets.poll_confirmed pressed]⟩

theorem poll_ok (measured : operation.Measured readings) {made : Progress Operation Completion}
    (ran : operation.poll now p = .ok made p') : Looked readings operation now p made := by
  cases operation with
  | homing pass =>
    rw [poll_homing] at ran
    cases looked : pass.poll now p with
    | error => simp [looked] at ran
    | ok progress q =>
      simp only [looked] at ran
      cases ran
      rcases measured.look looked with ⟨fault,rfl⟩ | ⟨rfl,closing⟩ | ⟨delay,next,rfl,after⟩
      · exact .failed rfl
      · have unwatched : (homing pass).stall? now p = none := by
          simp [stall?,Homing.Phase.stall?,closing,Homing.Phase.activeLeg?]
        refine .homed ?_ rfl
        rw [unwatched,Option.toList_none,List.append_nil]
        exact Homing.Pass.Measured.readFrom measured (by rw [closing]; rfl)
      · refine .again ?_ rfl after
        cases pressed : p.confirmed now with
        | false => rfl
        | true =>
          obtain ⟨outcome,r,ended⟩ := pass.poll_confirmed measured.alive pressed
          simp [looked] at ended
  | move targets =>
    rw [poll_move] at ran
    cases pressed : p.confirmed now with
    | true =>
      rw [targets.poll_confirmed pressed] at ran
      cases ran
      exact .dropped pressed rfl
    | false =>
      cases looked : targets.poll now p with
      | error => simp [looked] at ran
      | ok progress q =>
        simp only [looked] at ran
        cases ran
        cases progress with
        | dropped => simp [Targets.poll_dropped looked] at pressed
        | done => exact .arrived pressed rfl
        | again delay next => exact .again pressed rfl (by rw [show readings = [] from measured]; rfl)

/-- Only a pass that has ended leaves an outcome of homing. -/
theorem poll_homed {outcome : Except Fault Calibration}
    (ran : operation.poll now p = .ok (.done (.homed outcome)) p') :
    ∃ pass, operation = .homing pass ∧ pass.poll now p = .ok (.done outcome) p' := by
  cases operation with
  | homing pass =>
    rw [poll_homing] at ran
    cases looked : pass.poll now p with
    | error => simp [looked] at ran
    | ok made q =>
      cases made with
      | again | dropped => simp [looked,ofPass] at ran
      | done outcome =>
        simp only [looked] at ran
        cases ran
        exact ⟨pass,rfl,looked⟩
  | move targets =>
    rw [poll_move] at ran
    cases looked : targets.poll now p with
    | error => simp [looked] at ran
    | ok made q => cases made <;> simp [looked,ofMove] at ran

end Operation

/-- An errand looks at its operation and then submits itself, finishes or does nothing. -/
theorem Errand.perform_apply {α μ δ χ κ : Type} [Motor μ] [Display δ] (task : Errand κ → α)
    (finish : κ → Completion → DeskM α μ δ χ Unit) (errand : Errand κ) (moment : Moment)
    (draft : Draft α (Desk μ δ χ)) :
    errand.perform task finish moment draft =
      let left (plotter : Plotter μ δ) := { draft with context := { draft.context with plotter } }
      match errand.operation.poll moment.now draft.context.plotter with
      | .error reason plotter => .error reason (left plotter)
      | .ok (.again delay operation) plotter =>
        Action.submit (task { errand with operation }) delay 0 moment (left plotter)
      | .ok (.done completion) plotter => finish errand.next completion moment (left plotter)
      | .ok .dropped plotter => .ok () (left plotter) := by
  simp only [perform,bind_apply,Desk.onPlotter]
  cases errand.operation.poll moment.now draft.context.plotter with
  | error => rfl
  | ok made => cases made <;> rfl

end PenPlotter
