import PenPlotter.Proofs.Plotter.Frame
import PenPlotter.Proofs.Plotter.Glance
import PenPlotter.Proofs.Plotter.Targets
import PenPlotter.Proofs.Shop.Endings

/-! Commands and operations on simulated motors that are plugged in: what they make of the motors, and that
nothing but the range of positions breaks them off. -/

namespace PenPlotter

open Motor

variable {R δ α : Type} [Scalar R] {now : Nat} {p p' : Plotter (Simulated R) δ} {c : Calibration}

namespace Plotter

/-- What the motors are built with. -/
def builds (p : Plotter (Simulated R) δ) (axis : Axis) : Simulated.Build R := (p.motor axis).build

omit [Scalar R] in
theorem connected_iff : p.Connected ↔ ∀ axis, (p.builds axis).connected = true := Iff.rfl

theorem Glanced.builds (glanced : Glanced now p p') : p'.builds = p.builds := funext glanced.build

theorem disconnectedAxes_eq_nil : p.disconnectedAxes = [] ↔ p.Connected := by
  unfold disconnectedAxes Connected
  rw [List.filter_eq_nil_iff]
  constructor
  · intro none axis
    simpa [Motor.connected] using none axis axis.mem_all
  · intro connected axis _
    simpa [Motor.connected] using connected axis

end Plotter

open Plotter (Connected Glanced)

namespace Targets

theorem start_connected (targets : Targets) (now : Nat) (connected : p.Connected) :
    ∃ p', targets.start now p = .ok () p' ∧ p'.apart = p.apart ∧
      p'.motor = heeded now p.motor (targets.launches p.motion.goSpeed) := by
  have acceptable : ∀ ask ∈ targets.launches p.motion.goSpeed, ask.2.Acceptable := by
    intro ask inside
    obtain ⟨goal,_,inside⟩ := List.mem_flatMap.mp inside
    obtain ⟨command,which,rfl⟩ := List.mem_map.mp inside
    simp only [launch,List.mem_cons,List.not_mem_nil,or_false] at which
    rcases which with rfl | rfl | rfl | rfl <;> trivial
  have made := attempt_heeded now connected acceptable
  obtain ⟨_,started⟩ := (targets.start_performs now p).answered <| by
    rw [refusal?_eq_none_iff,made]
    exact not_refused_answers _
  rw [made] at started
  exact ⟨_,started,rfl,Plotter.motor_withMotors⟩

/-- Whether every axis of a move is at its target once it is brought up to date. -/
def There (targets : Targets) (now : Nat) (p : Plotter (Simulated R) δ) : Prop :=
  ∀ goal ∈ targets.toList, ((p.motor goal.1).advance now).encoder = goal.2

theorem reached_connected (goals : List (Axis × Raw)) (now : Nat) (connected : p.Connected) :
    ∃ there p', reached goals now p = .ok there p' ∧ Glanced now p p' ∧
      (there = true ↔ ∀ goal ∈ goals, ((p.motor goal.1).advance now).encoder = goal.2) ∧
      (there = true → ∀ goal ∈ goals, (p'.motor goal.1).encoder = goal.2) := by
  induction goals generalizing p with
  | nil => exact ⟨true,p,rfl,.refl now p,by simp,by simp⟩
  | cons goal goals ih =>
    obtain ⟨axis,target⟩ := goal
    simp only [reached,bind_apply,Plotter.readRaw_connected (connected axis)]
    have glanced := Plotter.Glanced.setMotor p axis now
    by_cases here : ((p.motor axis).advance now).encoder = target
    · simp only [here,↓reduceIte]
      obtain ⟨there,p',ran,after,reads,shown⟩ := ih (glanced.connected connected)
      refine ⟨there,p',ran,glanced.trans after,reads.trans ?_,fun all => ?_⟩
      · simp only [List.mem_cons,forall_eq_or_imp,here,true_and]
        refine forall₂_congr fun goal _ => ?_
        rcases glanced.motor goal.1 with same | up
        · rw [same]
        · rw [up,Simulated.advance_advance]
      · simp only [List.mem_cons,forall_eq_or_imp]
        refine ⟨?_,shown all⟩
        rcases after.motor axis with same | up
        · rw [same,Plotter.motor_setMotor_self]
          exact here
        · rw [up,Plotter.motor_setMotor_self,Simulated.advance_advance]
          exact here
    · simp only [here,↓reduceIte]
      exact ⟨false,_,rfl,glanced,by simp [here],fun there => Bool.noConfusion there⟩

variable [Display δ]

/-- A look at a move finds whether all its axes are at their targets. -/
theorem poll_connected (targets : Targets) (connected : p.Connected)
    (unpressed : p.confirmed now = false) :
    ∃ p', Glanced now (p.asked now) p' ∧
      ((targets.poll now p = .ok (.done ()) p' ∧ ∀ goal ∈ targets.toList, (p'.motor goal.1).encoder = goal.2) ∨
        (targets.poll now p = .ok (.again p.motion.goPoll targets) p' ∧ ¬ targets.There now p)) := by
  unfold poll
  simp only [bind_apply,Plotter.takeConfirm_apply,unpressed,Bool.false_eq_true,↓reduceIte]
  obtain ⟨there,p',ran,glanced,reads,shown⟩ :=
    reached_connected (p := p.asked now) targets.toList now (fun axis => connected axis)
  simp only [ran]
  refine ⟨p',glanced,?_⟩
  cases there with
  | true => exact .inl ⟨rfl,shown rfl⟩
  | false =>
    refine .inr ⟨?_,fun there => by simpa using reads.mpr there⟩
    simp only [Bool.false_eq_true,↓reduceIte,bind_apply,Plotter.get_apply]
    rw [glanced.motion]
    rfl

end Targets

namespace Gcode

/-- The normalized position that a coordinate means. -/
def meant (c : Calibration) (now : Nat) (p : Plotter (Simulated R) δ) (axis : Axis) (value : Float) : Normalized :=
  let steps := Position.truncate (value / p.steps.perStep axis p.modes.useMillimeters)
  if p.modes.relativeMoves then
    let here := c.toNormalized axis ((p.motor axis).advance now).encoder
    (here.shift steps.ticks).clamp .zero (c.travel axis) (c.interval axis).zero_le_travel
  else steps

theorem meant_glanced (glanced : Glanced now p p') : meant c now p' = meant c now p := by
  funext axis value
  have read : ((p'.motor axis).advance now).encoder = ((p.motor axis).advance now).encoder := by
    rcases glanced.motor axis with same | up
    · rw [same]
    · rw [up,Simulated.advance_advance]
  unfold meant
  rw [glanced.modes,glanced.steps,read]

theorem coordinate_connected (now : Nat) (known : p.calibration = some c) (connected : p.Connected)
    (axis : Axis) (value : Float) :
    ∃ p', coordinate axis value now p = .ok (c.toRaw axis (meant c now p axis value)) p' ∧ Glanced now p p' := by
  unfold coordinate meant
  simp only [bind_apply,Plotter.calibrated_apply known,Plotter.get_apply]
  cases p.modes.relativeMoves with
  | false => exact ⟨p,rfl,.refl now p⟩
  | true =>
    simp only [↓reduceIte,Plotter.advanceNormalized,bind_apply,Plotter.calibrated_apply known,
      Plotter.readNormalized_connected known (connected axis)]
    exact ⟨_,rfl,.setMotor p axis now⟩

theorem coordinate?_connected (now : Nat) (known : p.calibration = some c) (connected : p.Connected)
    (axis : Axis) (value : Option Float) :
    ∃ p', coordinate? axis value now p = .ok (value.map fun v => c.toRaw axis (meant c now p axis v)) p' ∧
      Glanced now p p' := by
  cases value with
  | none => exact ⟨p,rfl,.refl now p⟩
  | some value =>
    obtain ⟨p',ran,glanced⟩ := coordinate_connected now known connected axis value
    refine ⟨p',?_,glanced⟩
    simp only [coordinate?,map_eq_pure_bind,bind_apply,ran]
    rfl

/-- The targets that the coordinates of a move mean. -/
def aims (c : Calibration) (now : Nat) (p : Plotter (Simulated R) δ) (x y z : Option Float) : Targets where
  x := x.map fun v => c.toRaw .x (meant c now p .x v)
  y := y.map fun v => c.toRaw .y (meant c now p .y v)
  tool := z.map fun v => c.toRaw .tool (meant c now p .tool v)

theorem targets_connected (now : Nat) (known : p.calibration = some c) (connected : p.Connected)
    (x y z : Option Float) :
    ∃ p', targets x y z now p = .ok (aims c now p x y z) p' ∧ Glanced now p p' := by
  obtain ⟨p₁,ranX,toX⟩ := coordinate?_connected now known connected .x x
  obtain ⟨p₂,ranY,toY⟩ :=
    coordinate?_connected now (toX.calibration.trans known) (toX.connected connected) .y y
  have toY := toX.trans toY
  obtain ⟨p₃,ranTool,toTool⟩ :=
    coordinate?_connected now (toY.calibration.trans known) (toY.connected connected) .tool z
  refine ⟨p₃,?_,toY.trans toTool⟩
  rw [meant_glanced toX] at ranY
  rw [meant_glanced toY] at ranTool
  simp only [targets,bind_apply,ranX,ranY,ranTool]
  rfl

variable [Display δ]

/-- A move on a calibrated plotter is started with the targets that its coordinates mean. -/
theorem go_connected (now : Nat) (known : p.calibration = some c) (connected : p.Connected) (previous : Screen)
    (x y z : Option Float) :
    ∃ q p', dispatch previous (.go x y z) now p = .ok (.started (.move (aims c now p x y z))) p' ∧
      Glanced now p q ∧ p'.apart = p.apart ∧
      p'.motor = heeded now q.motor ((aims c now p x y z).launches p.motion.goSpeed) := by
  obtain ⟨q,made,glanced⟩ := targets_connected now known connected x y z
  obtain ⟨p',started,apart,motors⟩ :=
    (aims c now p x y z).start_connected now (glanced.connected connected)
  rw [glanced.motion] at motors
  refine ⟨q,p',?_,glanced,apart.trans glanced.apart,motors⟩
  simp only [dispatch,bind_apply,Plotter.get_apply,known,Option.isNone_some,Bool.false_eq_true,↓reduceIte,made,
    started]
  rfl

end Gcode

namespace Homing

variable [Display δ]

theorem Pass.asks_acceptable (pass : Pass) (now : Nat) (p : Plotter (Simulated R) δ) :
    ∀ ask ∈ pass.asks now p, ask.2.Acceptable := by
  have effects (effect : Effect) : ∀ ask ∈ effect.asks, ask.2.Acceptable := by
    cases effect with
    | resetMotors => decide
    | startLeg leg => cases leg <;> decide
    | stopMotor axis => cases axis <;> decide
    | _ => intro ask inside; simp [Effect.asks] at inside
  rintro ⟨axis,ask⟩ inside
  cases ask with
  | position | state => trivial
  | command command =>
    unfold asks at inside
    rcases List.mem_append.mp inside with read | asked
    · exact absurd read (pass.phase.asks_no_command now p axis command)
    split at asked
    · cases asked
    split at asked
    · cases asked
    · obtain ⟨effect,_,inside⟩ := List.mem_flatMap.mp asked
      exact effects effect _ inside

/-- The motors do all that a look asks of them, so that only an overflow can break it off. -/
theorem Pass.poll_connected (pass : Pass) (now : Nat) (connected : p.Connected) :
    (Plotter.left pass.poll now p).motor = heeded now p.motor (pass.asks now p) ∧
      ∀ reason p', pass.poll now p = .error reason p' → reason.OfRange := by
  obtain ⟨motors,refused⟩ := pass.poll_asks now p
  have answered := attempt_heeded now connected (pass.asks_acceptable now p)
  rw [answered] at motors
  refine ⟨motors,fun reason p' broke => ?_⟩
  refine ((pass.poll_yields .calibration).reason broke).resolve_left fun device => ?_
  obtain ⟨call,inside,no⟩ := refused.mpr ⟨reason,p',broke,device⟩
  rw [calls,answered] at inside
  obtain ⟨_,_,rfl⟩ := List.mem_map.mp inside
  cases no

theorem Phase.refuses_iff {phase : Phase} : phase.refuses = true ↔ ∃ fault, phase = .closing (some fault) := by
  cases phase with
  | closing failure => cases failure <;> simp [refuses]
  | _ => simp [refuses]

/-- A pass that was refused asks nothing of the motors and ends with the reason that it shows. -/
theorem Pass.poll_refuses {μ : Type} [Motor μ] {pass : Pass} {fault : Fault}
    (shown : pass.phase = .closing (some fault)) (now : Nat) (p : Plotter μ δ) :
    (Plotter.left pass.poll now p).motor = p.motor ∧ ∃ made p', pass.poll now p = .ok made p' ∧
      (made = .done (.error fault) ∨ ∃ delay, made = .again delay pass) := by
  obtain ⟨phase,recorded,previous⟩ := pass
  obtain rfl : phase = .closing (some fault) := shown
  unfold Plotter.left poll observe
  simp only [bind_apply,Plotter.takeConfirm_apply,Phase.activeLeg?]
  cases pressed : p.confirmed now with
  | false => exact ⟨rfl,_,_,rfl,.inr ⟨_,rfl⟩⟩
  | true => exact ⟨rfl,_,_,rfl,.inl rfl⟩

end Homing

namespace Plotter

/-- The motors are plugged in if the plotter is calibrated. -/
def Wired (p : Plotter (Simulated R) δ) : Prop := p.calibration.isSome = true → p.Connected

end Plotter

variable [Display δ]

/-- A look at an operation is broken off by an overflow only, unless its motors are not plugged in. -/
theorem Operation.poll_wired {operation : Operation} (now : Nat) (safe : operation.refuses = true ∨ p.Connected) :
    (∀ reason p', operation.poll now p = .error reason p' → reason.OfRange) ∧
      (Plotter.left operation.poll now p).builds = p.builds := by
  cases operation with
  | homing pass =>
    rw [left_homing]
    unfold Plotter.builds
    simp only [poll_homing]
    rcases safe with refused | connected
    · obtain ⟨fault,shown⟩ := Homing.Phase.refuses_iff.mp refused
      obtain ⟨motors,made,p',ran,_⟩ := pass.poll_refuses shown now p
      rw [motors,ran]
      exact ⟨fun _ _ => nofun,rfl⟩
    · obtain ⟨motors,range⟩ := pass.poll_connected now connected
      rw [motors]
      refine ⟨fun reason p' broke => ?_,funext fun axis => heeded_build ..⟩
      cases ran : pass.poll now p with
      | ok => simp [ran] at broke
      | error why q =>
        simp only [ran] at broke
        cases broke
        exact range _ _ ran
  | move targets =>
    have connected : p.Connected := safe.resolve_left (by simp [refuses])
    rw [left_move]
    simp only [poll_move]
    cases pressed : p.confirmed now with
    | true =>
      unfold Plotter.left
      rw [targets.poll_confirmed pressed]
      exact ⟨fun _ _ => nofun,rfl⟩
    | false =>
      obtain ⟨p',glanced,⟨ran,_⟩ | ⟨ran,_⟩⟩ := targets.poll_connected connected pressed
      all_goals
        unfold Plotter.left
        rw [ran]
        exact ⟨fun _ _ => nofun,glanced.builds⟩

/-- Only a pass that was not refused gives a calibration. -/
theorem Operation.homed_accepted {operation : Operation} {c : Calibration}
    (ran : operation.poll now p = .ok (.done (.homed (.ok c))) p') : operation.refuses = false := by
  cases operation with
  | move targets => rfl
  | homing pass =>
    cases refused : pass.phase.refuses with
    | false => exact refused
    | true =>
      obtain ⟨fault,shown⟩ := Homing.Phase.refuses_iff.mp refused
      obtain ⟨_,made,q,looked,ended⟩ := pass.poll_refuses shown now p
      rw [poll_homing,looked] at ran
      rcases ended with rfl | ⟨delay,rfl⟩ <;> simp [ofPass] at ran

/-- A command is always begun, and it starts nothing that its motors would refuse. -/
theorem Gcode.dispatch_wired (now : Nat) (wired : p.Wired) (previous : Screen) (command : Gcode) :
    ∃ made p', dispatch previous command now p = .ok made p' ∧ p'.builds = p.builds ∧
      ∀ operation, made = .started operation → operation.refuses = true ∨ p.Connected := by
  cases command with
  | useMillimeters | useInches | absolute | relative => exact ⟨_,_,rfl,rfl,fun _ => nofun⟩
  | home =>
    simp only [dispatch,bind_apply,Homing.Pass.start,Plotter.get_apply]
    cases missing : p.disconnectedAxes with
    | nil => exact ⟨_,_,rfl,rfl,fun _ _ => .inr (Plotter.disconnectedAxes_eq_nil.mp missing)⟩
    | cons first rest =>
      refine ⟨_,_,rfl,rfl,?_⟩
      rintro _ ⟨⟩
      exact .inl rfl
  | go x y z =>
    cases known : p.calibration with
    | none =>
      simp only [dispatch,bind_apply,Plotter.get_apply,known]
      exact ⟨_,_,rfl,rfl,fun _ => nofun⟩
    | some c =>
      have connected := wired (by simp [known])
      obtain ⟨q,p',ran,glanced,_,motors⟩ := go_connected now known connected previous x y z
      refine ⟨_,p',ran,?_,fun _ _ => .inr connected⟩
      rw [← glanced.builds]
      exact funext fun axis => by simp [Plotter.builds,motors]

end PenPlotter
