import PenPlotter.Proofs.Display.Quiet
import PenPlotter.Proofs.Gcode.Coordinates
import PenPlotter.Proofs.Motor.Exact
import PenPlotter.Proofs.Plotter.Connected

/-! A move on simulated motors. Once it is started every axis with a target heads for it, and the others rest where
they are. What is read at the targets stays so, and if the targets are within the travels they are read in the end. -/

namespace PenPlotter

open Motor

/-- Where a coordinate asks an axis to be, in normalized steps: no bound but the ends of the scale shows. -/
theorem Gcode.ticks_meant {R δ : Type} [Scalar R] {c : Calibration} {axis : Axis}
    (fits : (c.interval axis).distance ≤ maxTicks) (now : Nat) (p : Plotter (Simulated R) δ) (value : Float) :
    (c.toNormalized axis (c.toRaw axis (meant c now p axis value))).ticks =
      let here := c.toNormalized axis ((p.motor axis).advance now).encoder
      max 0 (min ((if p.modes.relativeMoves then here.ticks else 0) + steps p axis value) (c.interval axis).distance) :=
  ticks_aim fits p ((p.motor axis).advance now).encoder value

namespace Targets

theorem on_aims {R δ : Type} [Scalar R] (c : Calibration) (now : Nat) (p : Plotter (Simulated R) δ)
    (x y z : Option Float) (axis : Axis) :
    (Gcode.aims c now p x y z).on axis =
      (Gcode.along x y z axis).map fun value => c.toRaw axis (Gcode.meant c now p axis value) := by
  cases axis <;> rfl

theorem heeded_launches {R : Type} [Scalar R] (t : Targets) (now : Nat) (motors : Axis → Simulated R) (speed : Int)
    (axis : Axis) :
    heeded now motors (t.launches speed) axis =
      match t.on axis with
      | none => motors axis
      | some target => Ask.heed now (Ask.heed now (Ask.heed now (Ask.heed now (motors axis)
          (.command (.stopAction .hold))) (.command (.speed speed))) (.command (.target target)))
          (.command .runToTarget) := by
  obtain ⟨x,y,tool⟩ := t
  cases axis <;> cases x <;> cases y <;> cases tool <;> simp [heeded,launches,toList,launch,on]

/-- Every axis with a target heads for it, and every other one rests at its place. -/
structure Steered {δ : Type} (targets : Targets) (machine : Machine) (places : Axis → Rat)
    (p : Plotter (Simulated Rat) δ) : Prop where
  heads : ∀ axis target, targets.on axis = some target →
    Simulated.Heads (machine.travel axis) target (p.motor axis)
  rests : ∀ axis, targets.on axis = none →
    Simulated.Rests (machine.travel axis) (p.motor axis) ∧ (p.motor axis).carriage = places axis

/-- Every axis with a target reads it. -/
def Reached {δ : Type} (targets : Targets) (p : Plotter (Simulated Rat) δ) : Prop :=
  ∀ axis target, targets.on axis = some target → (p.motor axis).encoder = target

namespace Steered

variable {δ : Type} {targets : Targets} {machine : Machine} {places : Axis → Rat} {p p' : Plotter (Simulated Rat) δ}
variable {now : Nat}

theorem connected (steered : targets.Steered machine places p) : p.Connected := by
  intro axis
  cases on : targets.on axis with
  | none => exact (steered.rests axis on).1.connected
  | some target => exact (steered.heads axis target on).connected

theorem glanced (steered : targets.Steered machine places p) (glanced : Plotter.Glanced now p p') :
    targets.Steered machine places p' where
  heads axis target on := by
    have heads := steered.heads axis target on
    rcases glanced.motor axis with same | up
    · rw [same]; exact heads
    · rw [up]; exact (heads.advance now).1
  rests axis on := by
    obtain ⟨rests,place⟩ := steered.rests axis on
    rcases glanced.motor axis with same | up
    · rw [same]; exact ⟨rests,place⟩
    · rw [up,Simulated.advance_idle rests.drive]; exact ⟨{ rests with },place⟩

/-- What is read at its target stays there. -/
theorem reached_glanced (steered : targets.Steered machine places p) (reached : targets.Reached p)
    (glanced : Plotter.Glanced now p p') : targets.Reached p' := by
  intro axis target on
  rcases glanced.motor axis with same | up
  · rw [same]; exact reached axis target on
  · rw [up]; exact (steered.heads axis target on).encoder_advance (reached axis target on) now

/-- What an axis without a target reads is what is read at its place. -/
theorem encoder_resting (steered : targets.Steered machine places p) {axis : Axis} (on : targets.on axis = none) :
    ((p.motor axis).advance now).encoder = (machine.travel axis).reading (places axis) := by
  obtain ⟨rests,place⟩ := steered.rests axis on
  rw [(rests.advance now).encoder,Simulated.advance_idle rests.drive,place]

end Steered

/-- Steered motors that are at their targets at a deadline, if these are in reach. -/
structure Bound {δ : Type} (targets : Targets) (machine : Machine) (places : Axis → Rat) (deadline : Nat)
    (p : Plotter (Simulated Rat) δ) : Prop extends Steered targets machine places p where
  arrives : ∀ axis target, targets.on axis = some target →
    Simulated.Arrives (machine.travel axis) target deadline (p.motor axis)

namespace Bound

variable {δ : Type} {targets : Targets} {machine : Machine} {places : Axis → Rat} {p p' : Plotter (Simulated Rat) δ}
variable {now deadline : Nat}

/-- Motors that have just been told to move are at their targets some time. -/
theorem of_steered (steered : targets.Steered machine places p)
    (moves : ∀ axis target, targets.on axis = some target →
      (p.motor axis).drive = .toTarget ∧ (p.motor axis).speed ≠ 0) :
    ∃ deadline, targets.Bound machine places deadline p := by
  have each (axis : Axis) : ∃ deadline, ∀ target, targets.on axis = some target →
      Simulated.Arrives (machine.travel axis) target deadline (p.motor axis) := by
    cases on : targets.on axis with
    | none => exact ⟨0,fun _ found => by cases found⟩
    | some target =>
      obtain ⟨running,fast⟩ := moves axis target on
      obtain ⟨deadline,arrives⟩ := Simulated.Arrives.of_heads (steered.heads axis target on) running fast
      exact ⟨deadline,by rintro _ ⟨⟩; exact arrives⟩
  choose deadline arrives using each
  refine ⟨max (deadline .x) (max (deadline .y) (deadline .tool)),steered,fun axis target on => ?_⟩
  exact (arrives axis target on).later (by cases axis <;> omega)

variable (within : ∀ axis target, targets.on axis = some target → (machine.travel axis).Reaches target)
include within

theorem glanced (bound : targets.Bound machine places deadline p) (glanced : Plotter.Glanced now p p') :
    targets.Bound machine places deadline p' where
  toSteered := bound.toSteered.glanced glanced
  arrives axis target on := by
    obtain ⟨lower,upper⟩ := (within axis target on).goal
    have arrives := bound.arrives axis target on
    rcases glanced.motor axis with same | up
    · rw [same]; exact arrives
    · rw [up]; exact arrives.advance lower upper now

/-- From the deadline on a move is found to be over. -/
theorem there (bound : targets.Bound machine places deadline p) (late : deadline ≤ now) : targets.There now p := by
  rintro ⟨axis,target⟩ inside
  have on := mem_toList.mp inside
  obtain ⟨lower,upper⟩ := (within axis target on).goal
  exact (bound.arrives axis target on).encoder lower upper late

/-- A look that nobody disturbs finds the move over, or it comes before the deadline. -/
theorem look {p : Plotter (Simulated Rat) Panel} (bound : targets.Bound machine places deadline p)
    (quiet : p.display.Quiet false) (now : Nat) :
    ∃ p', targets.Bound machine places deadline p' ∧ p'.display.Quiet false ∧ p'.motion = p.motion ∧
      (targets.poll now p = .ok (.done ()) p' ∨
        targets.poll now p = .ok (.again p.motion.goPoll targets) p' ∧ now < deadline) := by
  obtain ⟨unpressed,asked⟩ := quiet.takeConfirm now
  obtain ⟨p',glanced,found⟩ := targets.poll_connected bound.connected unpressed
  have same : targets.Bound machine places deadline (p.asked now) := ⟨⟨bound.heads,bound.rests⟩,bound.arrives⟩
  have quiet' : p'.display.Quiet false := by
    rw [glanced.display]
    exact asked
  refine ⟨p',same.glanced within glanced,quiet',glanced.motion,?_⟩
  rcases found with ⟨ran,_⟩ | ⟨ran,short⟩
  · exact .inl ran
  · exact .inr ⟨ran,Nat.lt_of_not_le fun late => short (bound.there within late)⟩

end Bound

/-- Motors at rest that are told to move are steered. -/
theorem steered_launches {δ : Type} {targets : Targets} {machine : Machine} {p q : Plotter (Simulated Rat) δ}
    {now : Nat} {speed : Int} (rests : ∀ axis, Simulated.Rests (machine.travel axis) (q.motor axis))
    (motors : p.motor = heeded now q.motor (targets.launches speed)) :
    targets.Steered machine (fun axis => (q.motor axis).carriage) p ∧
      ∀ axis target, targets.on axis = some target → p.motor axis = (q.motor axis).aimed speed target now := by
  have aimed (axis : Axis) (target : Raw) (on : targets.on axis = some target) :
      p.motor axis = (q.motor axis).aimed speed target now := by
    rw [motors,heeded_launches,on]
    exact (rests axis).aim speed target now
  refine ⟨⟨fun axis target on => ?_,fun axis on => ?_⟩,aimed⟩
  · rw [aimed axis target on]
    exact (rests axis).aimed speed target now
  · rw [motors,heeded_launches,on]
    exact ⟨rests axis,rfl⟩

end Targets
end PenPlotter
