import PenPlotter.Proofs.Homing.Survey

/-! When a pass asks for its next look. It does so after the time between two looks, unless a leg was started. The
time that a leg is given may be none at all, but a motor that was set going at an instant is not found stalled at the
same instant, so that the look after that waits. -/

namespace PenPlotter

open Motor

variable {R δ : Type} [Scalar R] {now : Nat}

namespace Motor.Simulated

variable {m : Simulated R}

/-- A motor that was set going at an instant and has not moved since. -/
structure Launched (now : Nat) (m : Simulated R) : Prop where
  updated : m.updated = now
  drive : m.drive = .direct
  unstalled : m.stalled = false

end Motor.Simulated

namespace Homing

theorem launched_startLeg (now : Nat) (motors : Axis → Simulated R) (leg : Leg) :
    (heeded now motors (Effect.asks (.startLeg leg)) leg.axis).Launched now := by
  rw [heeded_startLeg,if_pos rfl]
  exact ⟨Simulated.advance_updated _ now,rfl,rfl⟩

namespace Pass

variable [Display δ] {p p' : Plotter (Simulated R) δ} {pass next : Pass} {delay : Nat}

/-- The next look waits, unless a motor was set going. -/
theorem poll_paced (safe : pass.phase.refuses = true ∨ p.Connected)
    (ran : pass.poll now p = .ok (.again delay next) p') :
    delay = p.motion.homingPoll ∨ ∃ leg, next.phase = .running leg ∧ (p'.motor leg.axis).Launched now := by
  obtain ⟨phase,effects,step,made,asked⟩ := asks_of_ok ran
  obtain ⟨waits,rfl,going⟩ := progress_eq_again made.symm
  rcases step.starts with none | ⟨before,leg,rfl,rfl,_⟩
  · exact .inl (waits.trans (Tally.delay_addAll none ..))
  · right
    have connected : p.Connected := by
      refine safe.resolve_left fun refused => ?_
      obtain ⟨fault,shown⟩ := Phase.refuses_iff.mp refused
      rw [shown] at step
      cases step
    have motors := (pass.poll_connected now connected).1
    unfold Plotter.left at motors
    rw [ran,asked,List.flatMap_append,← List.append_assoc,heeded_append] at motors
    refine ⟨leg,rfl,?_⟩
    rw [show p'.motor = _ from motors,List.flatMap_singleton]
    exact launched_startLeg ..

/-- At the instant at which its motor was set going a leg is only watched, unless it is cancelled. -/
theorem poll_launched {leg : Leg} {made : Progress Pass (Except Fault Calibration)}
    (running : pass.phase = .running leg) (connected : p.Connected) (launched : (p.motor leg.axis).Launched now)
    (ran : pass.poll now p = .ok made p') :
    made = .done (.error .homingCancelled) ∨ ∃ next, made = .again p.motion.homingPoll next := by
  obtain ⟨phase,effects,step,rfl,_⟩ := asks_of_ok ran
  have unstalled : (Phase.running leg).stall? now p = none := by
    have told : Motor.state now (p.motor leg.axis) = .ok (p.motor leg.axis).report (p.motor leg.axis) := by
      simp [Motor.state,Simulated.state,connected leg.axis,Simulated.advance_of_updated launched.updated]
    simp [Phase.stall?,Phase.activeLeg?,told,isStalled_report _ launched.drive,launched.unstalled]
  rw [running] at step
  cases step with
  | ended terminal => cases terminal
  | cancelled => exact .inl rfl
  | watched => exact .inr ⟨_,rfl⟩
  | stalled _ seen => simp [Phase.sight,unstalled] at seen

end Pass
end Homing
end PenPlotter
