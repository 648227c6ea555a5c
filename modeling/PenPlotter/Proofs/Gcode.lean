import PenPlotter.Gcode
import PenPlotter.Proofs.Operation

/-! What a command begins. It starts an operation of its own kind that has seen nothing yet, and the
calibration stays as it was until a completed homing pass is turned into a reply. -/

namespace PenPlotter

namespace Homing.Pass

variable {μ δ : Type} [Motor μ] [Display δ]

theorem start_keeps {view : Plotter μ δ → γ} (aside : Plotter.Aside view) (previous : Screen) :
    Plotter.Keeps reasons view (start previous : PlotterM μ δ Pass) := by
  refine .bind .get ?_
  intro p
  split <;> exact .bind (.present aside _) fun _ => .pure _

end Homing.Pass

theorem Targets.start_keeps {μ δ : Type} [Motor μ] [Display δ] {view : Plotter μ δ → γ}
    (aside : Plotter.Aside view) (targets : Targets) :
    Plotter.Keeps Failure.OfDevice view (targets.start : PlotterM μ δ Unit) := by
  refine .bind .get fun p => .forM ?_
  rintro ⟨axis,target⟩ _
  exact .forM fun command _ => .command aside axis command

namespace Gcode

def isHome : Gcode → Bool
  | .home => true
  | _ => false

/-- The calibration that a completion leaves. -/
def replied (before : Option Calibration) : Completion → Option Calibration
  | .homed (.ok c) => some c
  | _ => before

theorem reply_ok (completion : Completion) (now : Nat) (p : Plotter μ δ) :
    ∃ told p', (reply completion : PlotterM μ δ (Except Fault Unit)) now p = .ok told p' ∧
      p'.calibration = replied p.calibration completion := by
  cases completion with
  | arrived => exact ⟨_,_,rfl,rfl⟩
  | homed outcome => cases outcome <;> exact ⟨_,_,rfl,rfl⟩

variable {μ δ : Type} [Motor μ] [Display δ]

section Keeps

variable {view : Plotter μ δ → γ} (aside : Plotter.Aside view)
include aside

theorem coordinate_keeps (axis : Axis) (value : Float) :
    Plotter.Keeps (fun _ => True) view (coordinate axis value : PlotterM μ δ Raw) := by
  have calibrated : Plotter.Keeps (fun _ => True) view (Plotter.calibrated : PlotterM μ δ Calibration) := by
    refine .bind .get ?_
    intro p
    split
    · exact .pure _
    · exact .fail _ trivial
  refine .bind calibrated fun c => .bind .get fun p => ?_
  dsimp only
  split
  · have read : Plotter.Keeps (fun _ => True) view (Plotter.readRaw axis : PlotterM μ δ Raw) :=
      (Plotter.Yields.call aside axis _).imp fun _ _ => trivial
    have here : Plotter.Keeps (fun _ => True) view (Plotter.readNormalized axis : PlotterM μ δ Normalized) :=
      .bind calibrated fun _ => .bind read fun _ => .pure _
    exact .bind (.bind calibrated fun _ => .bind here fun _ => .pure _) fun _ => .pure _
  · exact .bind (.pure _) fun _ => .pure _

theorem targets_keeps (x y z : Option Float) :
    Plotter.Keeps (fun _ => True) view (targets x y z : PlotterM μ δ Targets) := by
  have each (axis : Axis) (value : Option Float) :
      Plotter.Keeps (fun _ => True) view (coordinate? axis value : PlotterM μ δ (Option Raw)) := by
    cases value with
    | none => exact .pure _
    | some value => exact .map _ (coordinate_keeps aside axis value)
  exact .bind (each _ _) fun _ => .bind (each _ _) fun _ => .bind (each _ _) fun _ => .pure _

end Keeps

theorem dispatch_keeps (previous : Screen) (command : Gcode) :
    Plotter.Keeps (fun _ => True) Plotter.calibration
      (dispatch previous command : PlotterM μ δ Dispatched) := by
  cases command with
  | go x y z =>
    refine .bind .get ?_
    intro p
    split
    · exact .pure _
    · exact .bind (targets_keeps .calibration x y z) fun targets =>
        .bind ((targets.start_keeps .calibration).imp fun _ _ => trivial) fun _ => .pure _
  | home => exact .bind (Homing.Pass.start_keeps .calibration previous) fun _ => .pure _
  | useMillimeters | useInches | absolute | relative => exact fun _ _ => ⟨rfl,fun _ _ => nofun⟩

theorem dispatch_started {previous : Screen} {command : Gcode} {now : Nat} {p p' : Plotter μ δ}
    {operation : Operation} (ran : dispatch previous command now p = .ok (.started operation) p') :
    operation.Measured [] ∧ operation.isHoming = command.isHome := by
  cases command with
  | go x y z =>
    unfold dispatch at ran
    obtain ⟨q,_,_,ran⟩ := bind_eq_ok.mp ran
    split at ran
    · cases ran
    · obtain ⟨targets,_,_,ran⟩ := bind_eq_ok.mp ran
      obtain ⟨_,_,_,ran⟩ := bind_eq_ok.mp ran
      cases ran
      exact ⟨rfl,rfl⟩
  | home =>
    unfold dispatch at ran
    obtain ⟨pass,_,started,ran⟩ := bind_eq_ok.mp ran
    cases ran
    exact ⟨Homing.Pass.start_ok started,rfl⟩
  | useMillimeters | useInches | absolute | relative => cases ran

section Targets

variable {now : Nat} {p p' : Plotter μ δ} {c : Calibration}

omit [Display δ] in
theorem coordinate_ok {axis : Axis} {value : Float} {raw : Raw} (known : p.calibration = some c)
    (ran : coordinate axis value now p = .ok raw p') : ∃ steps, raw = c.toRaw axis steps := by
  unfold coordinate at ran
  obtain ⟨found,_,read,ran⟩ := bind_eq_ok.mp ran
  have same : found = c := by
    unfold Plotter.calibrated at read
    simp only [bind_apply,Plotter.get_apply,known] at read
    cases read
    rfl
  obtain ⟨_,_,_,ran⟩ := bind_eq_ok.mp ran
  dsimp only at ran
  split at ran
  all_goals
    obtain ⟨steps,_,_,ran⟩ := bind_eq_ok.mp ran
    cases ran
    exact ⟨steps,by rw [same]⟩

theorem coordinate?_ok {axis : Axis} {value : Option Float} {raw : Option Raw} (known : p.calibration = some c)
    (ran : coordinate? axis value now p = .ok raw p') :
    p'.calibration = some c ∧ ∀ target, raw = some target → ∃ steps, target = c.toRaw axis steps := by
  cases value with
  | none => cases ran; exact ⟨known,by simp⟩
  | some value =>
    simp only [coordinate?,map_eq_pure_bind] at ran
    obtain ⟨target,_,made,ran⟩ := bind_eq_ok.mp ran
    cases ran
    refine ⟨((coordinate_keeps .calibration axis value).of_ok made).trans known,?_⟩
    rintro _ ⟨⟩
    exact coordinate_ok known made

/-- The targets of a move are positions on the calibrated axes. -/
theorem targets_ok {x y z : Option Float} {goals : Targets} (known : p.calibration = some c)
    (ran : targets x y z now p = .ok goals p') : ∀ goal ∈ goals.toList, ∃ steps, goal.2 = c.toRaw goal.1 steps := by
  unfold targets at ran
  obtain ⟨xGoal,_,made,ran⟩ := bind_eq_ok.mp ran
  obtain ⟨knownX,onX⟩ := coordinate?_ok known made
  obtain ⟨yGoal,_,made,ran⟩ := bind_eq_ok.mp ran
  obtain ⟨knownY,onY⟩ := coordinate?_ok knownX made
  obtain ⟨toolGoal,_,made,ran⟩ := bind_eq_ok.mp ran
  obtain ⟨_,onTool⟩ := coordinate?_ok knownY made
  cases ran
  rintro ⟨axis,target⟩ inside
  simp only [Targets.toList,List.mem_filterMap,List.mem_cons,List.not_mem_nil,or_false] at inside
  obtain ⟨_,rfl | rfl | rfl,found⟩ := inside
  all_goals
    obtain ⟨_,same,made⟩ := Option.map_eq_some_iff.mp found
    cases made
  · exact onX _ same
  · exact onY _ same
  · exact onTool _ same

/-- A move that was begun on a calibrated plotter has the targets that its coordinates mean. -/
theorem targets_of_go {previous : Screen} {x y z : Option Float} {goals : Targets} (known : p.calibration = some c)
    (ran : dispatch previous (.go x y z) now p = .ok (.started (.move goals)) p') :
    ∃ q, targets x y z now p = .ok goals q := by
  unfold dispatch at ran
  obtain ⟨_,_,⟨⟩,ran⟩ := bind_eq_ok.mp ran
  simp only [known,Option.isNone_some,Bool.false_eq_true,↓reduceIte] at ran
  obtain ⟨found,q,made,ran⟩ := bind_eq_ok.mp ran
  obtain ⟨_,_,_,ran⟩ := bind_eq_ok.mp ran
  cases ran
  exact ⟨q,made⟩

theorem go_started {previous : Screen} {x y z : Option Float} {goals : Targets} (known : p.calibration = some c)
    (ran : dispatch previous (.go x y z) now p = .ok (.started (.move goals)) p') :
    ∀ goal ∈ goals.toList, ∃ steps, goal.2 = c.toRaw goal.1 steps := by
  obtain ⟨_,made⟩ := targets_of_go known ran
  exact targets_ok known made

end Targets

end Gcode
end PenPlotter
