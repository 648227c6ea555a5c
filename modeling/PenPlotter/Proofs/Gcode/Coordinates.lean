import PenPlotter.Proofs.Decimal.Truncation
import PenPlotter.Proofs.Gcode
import PenPlotter.Proofs.Plotter.Advance

/-! What the coordinates of a move mean. Each is cut to whole steps and clamped to the calibrated scale, in relative
mode after it was added to what its axis reads. Relative moves that are carried out one after the other add up on the
scale, and nothing is lost from one to the next. -/

namespace PenPlotter.Gcode

variable {μ δ : Type}

/-- The coordinate of an axis, if it has one. -/
def along (x y z : Option Float) : Axis → Option Float
  | .x => x
  | .y => y
  | .tool => z

/-- The whole steps in a coordinate, which is given in the unit of the plotter. -/
def steps (p : Plotter μ δ) (axis : Axis) (value : Float) : Int :=
  let lengths := if p.modes.useMillimeters then p.steps.millimeters else p.steps.inches
  (value / lengths.get axis).toModel.toInt32.toInt

theorem ticks_steps (p : Plotter μ δ) (axis : Axis) (value : Float) :
    (Position.truncate (value / p.steps.perStep axis p.modes.useMillimeters) : Normalized).ticks =
      steps p axis value :=
  Position.ticks_truncate _

/-- The raw position that a coordinate means while its axis reads `here`. -/
def aim (c : Calibration) (p : Plotter μ δ) (axis : Axis) (here : Raw) (value : Float) : Raw :=
  c.toRaw axis <|
    let i := c.interval axis
    let steps : Normalized := .truncate (value / p.steps.perStep axis p.modes.useMillimeters)
    if p.modes.relativeMoves then
      ((c.toNormalized axis here).shift steps.ticks).clamp .zero i.travel i.zero_le_travel
    else steps

variable {c : Calibration} {axis : Axis} {here : Raw}

/-- On a scale that is not too long for a position, no bound but its two ends shows. -/
theorem ticks_aim (fits : (c.interval axis).distance ≤ maxTicks) (p : Plotter μ δ) (here : Raw) (value : Float) :
    (c.toNormalized axis (aim c p axis here value)).ticks =
      max 0 (min ((if p.modes.relativeMoves then (c.toNormalized axis here).ticks else 0) + steps p axis value)
        (c.interval axis).distance) := by
  have whole : (c.interval axis).travel.ticks = (c.interval axis).distance := Interval.ticks_travel fits
  have none : (Position.zero : Normalized).ticks = 0 := rfl
  unfold aim Calibration.toRaw
  rw [Calibration.toNormalized,Interval.ticks_toNormalized_toRaw fits,← ticks_steps]
  cases p.modes.relativeMoves with
  | false => simp
  | true =>
    simp only [↓reduceIte]
    rw [Position.ticks_clamp,Position.shift,Position.ticks_saturate,whole,none]
    unfold minTicks maxTicks at *
    omega

theorem aim_holds (c : Calibration) (p : Plotter μ δ) (axis : Axis) (here : Raw) (value : Float) :
    (c.interval axis).Holds (aim c p axis here value) :=
  Interval.toRaw_holds _ _

/-- What has to be read for a coordinate: in relative mode where its axis is. -/
def reading (modes : Modes) (axis : Axis) (value : Option Float) : List (Axis × Ask) :=
  if modes.relativeMoves && value.isSome then [(axis, .position)] else []

theorem reading_none (modes : Modes) (axis : Axis) : reading modes axis none = [] := by simp [reading]

theorem mem_reading {modes : Modes} {value : Option Float} {ask : Axis × Ask} :
    ask ∈ reading modes axis value ↔ ask = (axis,.position) ∧ modes.relativeMoves = true ∧ value.isSome = true := by
  rw [reading,← Bool.and_eq_true]
  split
  next needed => exact List.mem_singleton.trans (and_iff_left needed).symm
  next none => exact iff_of_false List.not_mem_nil fun asked => none asked.2

/-- What has to be read for the coordinates of a move. -/
def reads (modes : Modes) (x y z : Option Float) : List (Axis × Ask) :=
  reading modes .x x ++ (reading modes .y y ++ reading modes .tool z)

variable [Motor μ] {now : Nat} {p p' : Plotter μ δ} (known : p.calibration = some c)
include known

theorem coordinate_performs (axis : Axis) (value : Float) :
    Plotter.Performs (reading p.modes axis (some value)) (coordinate axis value) now p := by
  refine .ok_bind (Plotter.calibrated_apply known) (.ok_bind (Plotter.get_apply now p) ?_)
  unfold reading
  cases p.modes.relativeMoves with
  | false => exact .of_ok rfl
  | true =>
    refine Plotter.Performs.bind_ok ?_ fun _ _ => ⟨_,rfl⟩
    refine .ok_bind (Plotter.calibrated_apply known) (Plotter.Performs.bind_ok ?_ fun _ _ => ⟨_,rfl⟩)
    refine .ok_bind (Plotter.calibrated_apply known) ?_
    exact (Plotter.Performs.readRaw axis).bind_ok fun _ _ => ⟨_,rfl⟩

/-- A coordinate on an axis that can be read is a raw position. -/
theorem coordinate_apply (reads : p.Reads now axis here) (value : Float) :
    ∃ p', coordinate axis value now p = .ok (aim c p axis here value) p' := by
  obtain ⟨m,told⟩ := reads
  unfold coordinate aim
  simp only [bind_apply,Plotter.calibrated_apply known,Plotter.get_apply]
  cases p.modes.relativeMoves with
  | false => exact ⟨p,rfl⟩
  | true =>
    simp only [↓reduceIte,bind_apply,Plotter.advanceNormalized_apply known told]
    exact ⟨_,rfl⟩

theorem coordinate?_performs (axis : Axis) (value : Option Float) :
    Plotter.Performs (reading p.modes axis value) (coordinate? axis value) now p := by
  cases value with
  | none =>
    rw [reading_none]
    exact .of_ok rfl
  | some value =>
    simp only [coordinate?,map_eq_pure_bind]
    exact (coordinate_performs known axis value).bind_ok fun _ _ => ⟨_,rfl⟩

theorem targets_performs (x y z : Option Float) :
    Plotter.Performs (reads p.modes x y z) (targets x y z) now p :=
  (coordinate?_performs known .x x).bind fun _ _ =>
    Plotter.Performs.bind (coordinate?_performs (p := p.withMotors _) known .y y) fun _ _ =>
      (coordinate?_performs (p := (p.withMotors _).withMotors _) known .tool z).bind_ok fun _ _ => ⟨_,rfl⟩

/-- What a coordinate comes to, and that the other axes are left alone. -/
theorem coordinate?_found {value : Option Float} {target : Option Raw}
    (ran : coordinate? axis value now p = .ok target p') :
    (∃ motors, p' = p.withMotors motors ∧ ∀ other ≠ axis, motors other = p.motor other) ∧
      target.isSome = value.isSome ∧
      ∀ here, p.Reads now axis here → target = value.map (aim c p axis here) := by
  obtain ⟨_,left⟩ := (coordinate?_performs known axis value).left ran
  refine ⟨⟨_,left,fun other different => attempt_untouched fun call made => ?_⟩,?_,?_⟩
  · obtain ⟨asked,_⟩ := mem_reading.mp (mem_attempt made)
    have same : call.axis = axis := congrArg Prod.fst asked
    rw [same]
    exact different.symm
  · cases value with
    | none => cases ran; rfl
    | some value =>
      simp only [coordinate?,map_eq_pure_bind] at ran
      obtain ⟨_,_,_,ran⟩ := bind_eq_ok.mp ran
      cases ran
      rfl
  · intro here reads
    cases value with
    | none => cases ran; rfl
    | some value =>
      obtain ⟨q,made⟩ := coordinate_apply known reads value
      simp only [coordinate?,map_eq_pure_bind,bind_apply,made] at ran
      cases ran
      rfl

/-- Each axis of a move gets the target that its coordinate means. -/
theorem targets_found {x y z : Option Float} {goals : Targets} (ran : targets x y z now p = .ok goals p') (axis : Axis) :
    (goals.on axis).isSome = (along x y z axis).isSome ∧
      ∀ here, p.Reads now axis here → goals.on axis = (along x y z axis).map (aim c p axis here) := by
  unfold targets at ran
  obtain ⟨onX,_,made,ran⟩ := bind_eq_ok.mp ran
  obtain ⟨⟨first,rfl,keptX⟩,presentX,meantX⟩ := coordinate?_found known made
  obtain ⟨onY,_,made,ran⟩ := bind_eq_ok.mp ran
  obtain ⟨⟨second,rfl,keptY⟩,presentY,meantY⟩ := coordinate?_found (p := p.withMotors first) known made
  obtain ⟨onTool,_,made,ran⟩ := bind_eq_ok.mp ran
  obtain ⟨_,presentTool,meantTool⟩ := coordinate?_found (p := (p.withMotors first).withMotors second) known made
  cases ran
  cases axis with
  | x => exact ⟨presentX,meantX⟩
  | y =>
    have same : (p.withMotors first).motor .y = p.motor .y := by
      rw [Plotter.motor_withMotors,keptX .y (by decide)]
    exact ⟨presentY,fun here reads => meantY here ((Plotter.reads_of_motor_eq same).mpr reads)⟩
  | tool =>
    have same : ((p.withMotors first).withMotors second).motor .tool = p.motor .tool := by
      rw [Plotter.motor_withMotors,keptY .tool (by decide),Plotter.motor_withMotors,keptX .tool (by decide)]
    exact ⟨presentTool,fun here reads => meantTool here ((Plotter.reads_of_motor_eq same).mpr reads)⟩

omit known

/-- A relative move that was carried out, with the plotters on which it was begun and at last found to be over. -/
structure Stride (μ δ : Type) where
  x : Option Float := none
  y : Option Float := none
  z : Option Float := none
  previous : Screen
  start : Nat
  before : Plotter μ δ
  targets : Targets
  finish : Nat
  after : Plotter μ δ

namespace Stride

/-- The whole steps that a move is to make along an axis. -/
def steps (s : Stride μ δ) (axis : Axis) : Int :=
  match along s.x s.y s.z axis with
  | some value => Gcode.steps s.before axis value
  | none => 0

/-- A move takes an axis from where it reads at the beginning to where it reads when the move is over. An axis without
a coordinate stays where it is. -/
structure Takes [Display δ] (c : Calibration) (axis : Axis) (s : Stride μ δ) (here there : Raw) : Prop where
  calibrated : s.before.calibration = some c
  relative : s.before.modes.relativeMoves = true
  departs : s.before.Reads s.start axis here
  begins : ∃ p', dispatch s.previous (.go s.x s.y s.z) s.start s.before = .ok (.started (.move s.targets)) p'
  ends : ∃ p', s.targets.poll s.finish s.after = .ok (.done ()) p'
  arrives : s.after.Reads s.finish axis there
  rests : along s.x s.y s.z axis = none → there = here

theorem Takes.ticks [Display δ] {s : Stride μ δ} {there : Raw} (takes : s.Takes c axis here there)
    (fits : (c.interval axis).distance ≤ maxTicks) :
    (c.toNormalized axis there).ticks =
      max 0 (min ((c.toNormalized axis here).ticks + s.steps axis) (c.interval axis).distance) := by
  obtain ⟨_,begun⟩ := takes.begins
  obtain ⟨_,ended⟩ := takes.ends
  obtain ⟨_,made⟩ := targets_of_go takes.calibrated begun
  obtain ⟨_,meant⟩ := targets_found takes.calibrated made axis
  have goal := meant here takes.departs
  unfold steps
  cases given : along s.x s.y s.z axis with
  | none =>
    have within := Interval.ticks_toNormalized fits here
    rw [takes.rests given,Calibration.toNormalized]
    dsimp only
    split at within <;> omega
  | some value =>
    rw [given,Option.map_some] at goal
    rcases Targets.poll_ok ended with ⟨_,⟨⟩⟩ | ⟨_,found,_⟩ | ⟨_,_,⟨⟩⟩
    have arrived := takes.arrives.unique (found axis _ goal)
    rw [arrived,ticks_aim fits,takes.relative,if_pos rfl]

end Stride

/-- Relative moves that take an axis from one place to another, each of them from where the one before has ended. -/
inductive Strides [Display δ] (c : Calibration) (axis : Axis) : Raw → List (Stride μ δ) → Raw → Prop where
  | rest {here : Raw} : Strides c axis here [] here
  | step {here there last : Raw} {s : Stride μ δ} {more : List (Stride μ δ)} :
      s.Takes c axis here there → Strides c axis there more last → Strides c axis here (s :: more) last

theorem Strides.ticks [Display δ] {strides : List (Stride μ δ)} {last : Raw} (went : Strides c axis here strides last)
    (fits : (c.interval axis).distance ≤ maxTicks) :
    (c.toNormalized axis last).ticks =
      strides.foldl (fun n s => max 0 (min (n + s.steps axis) (c.interval axis).distance))
        (c.toNormalized axis here).ticks := by
  induction went with
  | rest => rfl
  | step takes _ ih => rw [List.foldl_cons,← takes.ticks fits,ih]

/-- A coordinate means a place on the calibrated interval: as many whole steps from zero, or in relative mode from
where the axis reads, as it is long, clamped to the scale. Relative moves that are carried out one after the other
lead to the sum that is clamped after each of them. -/
theorem coordinate_means_clamped_sum [Display δ] (c : Calibration) (axis : Axis) :
    (∀ (now : Nat) (p : Plotter μ δ) (here : Raw) (value : Float), p.calibration = some c → p.Reads now axis here →
      ∃ target p', coordinate axis value now p = .ok target p' ∧ (c.interval axis).Holds target ∧
        ((c.interval axis).distance ≤ maxTicks →
          (c.toNormalized axis target).ticks =
            let lengths := if p.modes.useMillimeters then p.steps.millimeters else p.steps.inches
            let steps := (value / lengths.get axis).toModel.toInt32.toInt
            if p.modes.relativeMoves then
              max 0 (min ((c.toNormalized axis here).ticks + steps) (c.interval axis).distance)
            else max 0 (min steps (c.interval axis).distance))) ∧
      ∀ (here last : Raw) (strides : List (Stride μ δ)), Strides c axis here strides last →
        (c.interval axis).distance ≤ maxTicks →
        (c.toNormalized axis last).ticks =
          strides.foldl (fun n s => max 0 (min (n + s.steps axis) (c.interval axis).distance))
            (c.toNormalized axis here).ticks := by
  constructor
  · intro now p here value known reads
    obtain ⟨p',ran⟩ := coordinate_apply known reads value
    refine ⟨_,p',ran,aim_holds c p axis here value,fun fits => ?_⟩
    rw [ticks_aim fits]
    cases p.modes.relativeMoves with
    | true => rfl
    | false => exact congrArg (fun n => max 0 (min n (c.interval axis).distance)) (Int.zero_add _)
  · exact fun _ _ _ went fits => went.ticks fits

/-- A scale of 2000 steps on which x counts down. -/
def downward : Calibration := { xMin := .saturate 100, xMax := .saturate (-1900) }

/-- A homed plotter in relative mode whose motor along x reads a position. -/
def placed (here : Raw) : Plotter Motor.Recorded Journal where
  tool := {}
  x := { position := here }
  y := {}
  display := {}
  calibration := some downward
  modes := { relativeMoves := true }

/-- A move along x from a position. -/
def hop (here : Raw) (value : Float) : Stride Motor.Recorded Journal :=
  let target := aim downward (placed here) .x here value
  { x := some value, previous := .menu "main menu", start := 0, before := placed here, targets := { x := some target }
    finish := milliseconds 200, after := placed target }

theorem hop_takes (here : Raw) (value : Float) :
    (hop here value).Takes downward .x here (aim downward (placed here) .x here value) where
  calibrated := rfl
  relative := rfl
  departs := ⟨_,rfl⟩
  begins := ⟨_,rfl⟩
  ends := by
    refine Targets.poll_found rfl fun axis target on => ?_
    cases axis <;> cases on
    exact ⟨_,rfl⟩
  arrives := ⟨_,rfl⟩
  rests := nofun

/-- Two moves, of 12.5 millimeters and back by four, the first of them from beyond the end at which the scale begins. -/
theorem hops_are_clamped_sums :
    let far : Raw := { ticks := 5000 }
    let near : Raw := { ticks := -25 }
    let last : Raw := { ticks := 15 }
    (placed far).Reads 0 .x far ∧ Strides downward .x far [hop far 12.5,hop near (-4)] last ∧
      (∃ target p', coordinate .x 12.5 0 (placed far) = .ok target p' ∧ (downward.interval .x).Holds target ∧
        (downward.toNormalized .x target).ticks = 125) ∧
      (downward.toNormalized .x last).ticks = 85 := by
  intro far near last
  have fits : (downward.interval .x).distance ≤ maxTicks := by decide
  have reads : (placed far).Reads 0 .x far := ⟨_,rfl⟩
  have first : aim downward (placed far) .x far 12.5 = near := by decide +kernel
  have second : aim downward (placed near) .x near (-4) = last := by decide +kernel
  have went : Strides downward .x far [hop far 12.5,hop near (-4)] last :=
    .step (first ▸ hop_takes far 12.5) (.step (second ▸ hop_takes near (-4)) .rest)
  have forth : (hop far 12.5).steps .x = 125 := by decide +kernel
  have back : (hop near (-4)).steps .x = -40 := by decide +kernel
  obtain ⟨each,row⟩ := coordinate_means_clamped_sum (μ := Motor.Recorded) (δ := Journal) downward .x
  obtain ⟨target,p',ran,holds,meant⟩ := each 0 (placed far) far 12.5 rfl reads
  have sum := row far last _ went fits
  rw [List.foldl_cons,List.foldl_cons,forth,back] at sum
  exact ⟨reads,went,⟨target,p',ran,holds,(meant fits).trans (by decide +kernel)⟩,sum.trans (by decide)⟩

end PenPlotter.Gcode
