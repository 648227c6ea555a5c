import PenPlotter.Proofs.Homing.Driving
import PenPlotter.Proofs.Plotter.Asking

/-! How a leg is watched. The look that starts it puts off the next one by the time that a motor is given to get moving,
and each look at it that finds it running by the time between two looks. Every look at it that takes no confirm asks for
the state of its motor. -/

namespace PenPlotter.Homing

theorem Effect.starts_of_duty {effect : Effect} {axis : Axis} {percent : Int}
    (asked : (axis,.command (.dutyCycle percent)) ∈ effect.asks) :
    ∃ leg : Leg, effect = .startLeg leg ∧ leg.axis = axis ∧ leg.duty = percent := by
  cases effect with
  | startLeg leg => exact ⟨leg,rfl,by simp_all [asks]⟩
  | _ => simp [asks] at asked

/-- A leg that is run is not behind the pass. -/
theorem Phase.not_mem_done (leg : Leg) : leg ∉ (running leg).done := by
  cases leg <;> decide

namespace Pass

variable {μ δ : Type} [Motor μ] [Display δ] {pass next : Pass} {now delay : Nat} {p p' : Plotter μ δ} {leg : Leg}

/-- A look after which a pass goes on and in which a leg was started leads to where it is watched, after a while. -/
theorem again_of_started (ran : pass.poll now p = .ok (.again delay next) p')
    (started : answers (Effect.asks (.startLeg leg)) <:+: pass.calls now p) :
    next.phase = .running leg ∧ delay = p.motion.spinUp := by
  obtain ⟨phase,effects,step,made,asked⟩ := asks_of_ok ran
  obtain ⟨rfl,rfl,_⟩ := progress_eq_again made.symm
  have setUp : (⟨leg.axis,.command (.dutyCycle leg.duty),true⟩ : Called) ∈ pass.calls now p :=
    started.subset (by simp [answers,Effect.asks])
  have inside : Effect.startLeg leg ∈ effects := by
    have own := mem_attempt setUp
    rw [asked] at own
    rcases List.mem_append.mp own with read | listed
    · have command : (⟨leg.axis,.command (.dutyCycle leg.duty),true⟩ : Called) ∈
          (answers (pass.phase.asks now p)).filter Called.isCommand :=
        List.mem_filter.mpr ⟨List.mem_map.mpr ⟨_,read,rfl⟩,rfl⟩
      rw [(pass.phase.asks_reads now p).2] at command
      cases command
    · obtain ⟨effect,member,own⟩ := List.mem_flatMap.mp listed
      obtain ⟨other,rfl,axis,duty⟩ := Effect.starts_of_duty own
      exact Leg.eq_of_duty axis duty ▸ member
  rcases step.starts with none | ⟨before,other,rfl,rfl,none⟩
  · exact absurd inside (none leg)
  · rcases List.mem_append.mp inside with early | last
    · exact absurd early (none leg)
    · cases List.mem_singleton.mp last
      exact ⟨rfl,by simp [Tally.addAll,List.foldl_append,Tally.add]⟩

/-- A look at a leg lets it be watched, after the time between two looks, or it leaves the leg behind. -/
theorem again_of_watched (ran : pass.poll now p = .ok (.again delay next) p') (running : pass.phase = .running leg) :
    (next.phase = .running leg ∧ delay = p.motion.homingPoll) ∨ leg ∈ next.phase.done := by
  obtain ⟨phase,effects,step,made⟩ := poll_ok ran
  obtain ⟨rfl,rfl,going⟩ := progress_eq_again made.symm
  rw [running] at step
  cases step with
  | ended terminal => cases terminal
  | cancelled => cases going
  | watched => exact .inl ⟨rfl,rfl⟩
  | stalled =>
    right
    rw [Phase.done_afterLeg]
    simp

/-- A leg that is behind a pass stays behind it. -/
theorem done_again (ran : pass.poll now p = .ok (.again delay next) p') : pass.phase.done <+: next.phase.done := by
  obtain ⟨phase,effects,step,made⟩ := poll_ok ran
  obtain ⟨rfl,rfl,going⟩ := progress_eq_again made.symm
  rcases step.stall going with ⟨_,_,same⟩ | ⟨_,_,_,_,_,_,done⟩
  · exact same ▸ List.prefix_rfl
  · rw [done]
    exact List.prefix_append ..

/-- A look at a leg that takes no confirm asks for the state of its motor. -/
theorem state_asked (running : pass.phase = .running leg) (unpressed : p.confirmed now = false) :
    ∃ answered, ⟨leg.axis,.state,answered⟩ ∈ pass.calls now p := by
  have first : ∃ later, pass.asks now p = (leg.axis,.state) :: later := by
    unfold asks Phase.asks
    simp only [running,Phase.activeLeg?,unpressed,Bool.false_eq_true,↓reduceIte]
    exact ⟨_,rfl⟩
  obtain ⟨later,asked⟩ := first
  unfold calls
  rw [asked]
  exact attempt_head ..

end Pass
end PenPlotter.Homing
