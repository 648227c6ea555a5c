import PenPlotter.Proofs.Display.Quiet
import PenPlotter.Proofs.Homing.Survey

/-! A survey that nobody disturbs. Nothing breaks it off: what is found at the end of a travel can be moved inwards
by the ticks that its leg asks for. Every look leads on, except that a leg is waited for until its motor stalls, and
when the results were shown the pass is over. -/

namespace PenPlotter

open Motor

namespace Homing

variable {R : Type} [Scalar R] {machine : Machine} {now : Nat}

/-- A limit lies inwards from the end of the travel at which its leg stalls. -/
theorem Leg.inwards (leg : Leg) :
    (0 < leg.duty ∧ -350 ≤ leg.compensation ∧ leg.compensation ≤ 0) ∨
      (leg.duty < 0 ∧ 0 ≤ leg.compensation ∧ leg.compensation ≤ 350) := by
  cases leg <;> decide

/-- As a travel holds its start, what is found at an end of it can be moved inwards. -/
theorem Leg.compensate_found {leg : Leg} (sound : (machine.travel leg.axis).Sound) :
    ∃ position, leg.compensate (machine.found leg) = .ok position := by
  have above := sound.above
  have below := sound.below
  have range : minTicks ≤ (machine.found leg).ticks + leg.compensation ∧
      (machine.found leg).ticks + leg.compensation ≤ maxTicks := by
    unfold Machine.found Travel.found Travel.stop
    rw [Position.ticks_saturate]
    simp only [minTicks,maxTicks]
    rcases leg.inwards with ⟨up,_,_⟩ | ⟨down,_,_⟩
    · rw [if_pos up]
      omega
    · rw [if_neg (by omega)]
      omega
  exact ⟨⟨_,range.1,range.2⟩,Leg.compensate_eq_ok.mpr rfl⟩

section Look

variable {δ : Type} [Display δ] {p p' : Plotter (Simulated R) δ} {pass : Pass}

theorem Phase.sight_unwatched {phase : Phase} (unwatched : phase.activeLeg? = none) :
    phase.sight now p = ⟨p.confirmed now,none⟩ := by
  simp [sight,stall?,unwatched]

theorem Phase.Drives.next_exists [Scalar.Lawful R] {phase : Phase} (sound : ∀ axis, (machine.travel axis).Sound)
    (drives : phase.Drives machine p.motor) (now : Nat) : ∃ made, phase.next (phase.sight now p) = .ok made := by
  cases phase with
  | running leg =>
    cases pressed : p.confirmed now with
    | true => exact ⟨(.failed,[.restoreScreen,.fail .homingCancelled]),by simp [Phase.sight,pressed,Phase.next]⟩
    | false =>
      rcases (drives.look pressed).1 with ⟨none,_⟩ | ⟨some,_⟩
      · exact ⟨(.running leg,[]),by simp [Phase.sight,pressed,none,Phase.next]⟩
      · obtain ⟨position,compensated⟩ := Leg.compensate_found (sound leg.axis)
        exact ⟨_,by simp only [Phase.sight,pressed,some,Option.map_some,Phase.next_stalled,compensated]; rfl⟩
  | _ => exact Phase.next_exists _ _ (by rw [Phase.sight_unwatched rfl]; simp)

/-- Only a transition that leaves the range of positions makes a look overflow. -/
theorem Pass.poll_range {reason : Failure} (ran : pass.poll now p = .error reason p') (range : reason.OfRange) :
    ∃ overflow, pass.phase.next (pass.phase.sight now p) = .error overflow := by
  have never : ¬ reason.OfDevice := by
    obtain ⟨_,rfl⟩ := range
    rintro ⟨_,⟨⟩⟩
  rw [poll_apply] at ran
  cases looked : observe pass.phase now p with
  | error =>
    simp only [looked] at ran
    cases ran
    exact absurd ((observe_yields .calibration pass.phase).reason looked) never
  | ok seen q =>
    obtain rfl := observe_ok looked
    simp only [looked] at ran
    cases stepped : pass.phase.next (pass.phase.sight now p) with
    | error overflow => exact ⟨overflow,rfl⟩
    | ok made =>
      simp only [stepped] at ran
      have carried := carry_asks pass made.1 made.2 now q
      simp only [ran] at carried
      exact absurd carried.2.2 never

/-- A look at a survey is not broken off. -/
theorem Surveys.poll_exists [Scalar.Lawful R] (sound : ∀ axis, (machine.travel axis).Sound)
    (surveys : Surveys machine pass p) (now : Nat) : ∃ made p', pass.poll now p = .ok made p' := by
  cases ran : pass.poll now p with
  | ok made p' => exact ⟨made,p',rfl⟩
  | error reason p' =>
    obtain ⟨overflow,stuck⟩ := Pass.poll_range ran ((pass.poll_connected now surveys.connected).2 _ _ ran)
    obtain ⟨made,next⟩ := surveys.drives.next_exists sound now
    rw [stuck] at next
    cases next

end Look

/-- How many phases are still to come. -/
def Phase.left (phase : Phase) : Nat :=
  match phase with
  | .start => 10
  | .running .toolDown => 3
  | .running leg => 10 - leg.step
  | .beforeToolDown => 4
  | .recorded => 2
  | .closing none => 1
  | _ => 0

theorem Phase.refuses_of_closing {shown : Option Fault} (silent : (closing shown).reports = false) :
    (closing shown).refuses = true := by
  cases shown with
  | none => cases silent
  | some fault => rfl

section Step

variable {phase next : Phase} {seen : Observation} {effects : List Effect}

/-- Only the results that were shown end a pass whose button nobody presses. -/
theorem Phase.Step.going (step : phase.Step seen next effects) (alive : phase.isTerminal = false)
    (unpressed : seen.confirm = phase.reports) (accepted : phase.refuses = false) (unshown : phase ≠ .closing none) :
    next.isTerminal = false ∧ ∀ effect ∈ effects, effect.isEnding = false := by
  rcases step.ending alive with ⟨terminal,_⟩ | going
  · cases step with
    | ended terminal => simp [alive] at terminal
    | dismissed => exact absurd rfl unshown
    | refused => cases accepted
    | cancelled possible confirmed =>
      rw [confirmed] at unpressed
      cases phase with
      | closing => cases possible
      | _ => cases unpressed
    | @stalled _ leg => cases leg <;> cases terminal
    | _ => cases terminal
  · exact going

/-- A transition that goes on leads to a later phase, unless a leg is waited for. -/
theorem Phase.Step.leads (step : phase.Step seen next effects) (going : next.isTerminal = false)
    (unpressed : seen.confirm = phase.reports) (accepted : phase.refuses = false) :
    next.left < phase.left ∨ ∃ leg, phase = .running leg ∧ next = .running leg ∧ effects = [] := by
  cases step with
  | ended terminal => simp [going] at terminal
  | dismissed | refused | cancelled => cases going
  | waited unconfirmed => cases (Phase.refuses_of_closing (unpressed.symm.trans unconfirmed)).symm.trans accepted
  | @stalled _ leg => left; cases leg <;> decide
  | @watched leg => exact .inr ⟨leg,rfl,rfl,rfl⟩
  | begun | lowered | reported => left; decide

end Step

theorem Pass.progress_going {pass : Pass} {phase : Phase} {effects : List Effect} (going : phase.isTerminal = false)
    (none : ∀ effect ∈ effects, effect.isEnding = false) (motion : Motion) :
    ∃ next, pass.progress motion phase effects =
        .again (Tally.addAll motion.spinUp ⟨pass.recorded,motion.homingPoll,.none⟩ effects).delay next ∧
      next.phase = phase ∧ next.previous = pass.previous := by
  unfold progress
  simp only [(addAll_going none motion.spinUp ⟨pass.recorded,motion.homingPoll,.none⟩).1,going]
  exact ⟨_,rfl,rfl,rfl⟩

theorem Pass.poll_dismissed {μ δ : Type} [Motor μ] [Display δ] {pass : Pass} {p : Plotter μ δ}
    (shown : pass.phase = .closing none) (pressed : p.confirmed now = true) :
    pass.poll now p = .ok (.done (.ok pass.recorded))
      { p.asked now with display := Display.present pass.previous (p.asked now).display } := by
  obtain ⟨phase,recorded,previous⟩ := pass
  obtain rfl := shown
  unfold poll
  simp only [bind_apply,observe_confirmed _ pressed]
  rfl

/-- A survey on a plotter whose button nobody presses. -/
structure Undisturbed (machine : Machine) (pass : Pass) (p : Plotter (Simulated R) Panel) : Prop
    extends Surveys machine pass p where
  quiet : p.display.Quiet pass.phase.reports
  accepted : pass.phase.refuses = false

namespace Undisturbed

variable [Scalar.Lawful R] {p : Plotter (Simulated R) Panel} {pass : Pass}

/-- A look leads on to a later phase, waits for the stall of a leg or ends the survey with a calibration that fits. -/
theorem look (sound : ∀ axis, (machine.travel axis).Sound) (survey : Undisturbed machine pass p) (now : Nat) :
    (∃ delay next p', pass.poll now p = .ok (.again delay next) p' ∧ Undisturbed machine next p' ∧
        next.previous = pass.previous ∧
        (next.phase.left < pass.phase.left ∨ ∃ leg, pass.phase = .running leg ∧ next.phase = .running leg ∧
          delay = p.motion.homingPoll ∧ p'.motor leg.axis = (p.motor leg.axis).advance now)) ∨
      ∃ c p', pass.poll now p = .ok (.done (.ok c)) p' ∧ c.Fits machine ∧
        (∀ axis, Simulated.Rests (machine.travel axis) (p'.motor axis)) ∧ p'.display.Quiet pass.previous.isReport := by
  obtain ⟨pressed,asked⟩ := survey.quiet.takeConfirm now
  by_cases shown : pass.phase = .closing none
  · right
    have dismissed := Pass.poll_dismissed shown (pressed.trans (by rw [shown]; rfl))
    obtain ⟨fits,rests⟩ := survey.toSurveys.look dismissed
    exact ⟨_,_,dismissed,fits,rests,asked.present pass.previous⟩
  · left
    obtain ⟨_,measured,_⟩ := survey.measured
    obtain ⟨made,p',ran⟩ := survey.poll_exists sound now
    obtain ⟨phase,effects,step,rfl,asks⟩ := Pass.asks_of_ok ran
    obtain ⟨going,none⟩ := step.going measured.alive pressed survey.accepted shown
    obtain ⟨next,goes,same,previous⟩ := pass.progress_going going none p.motion
    rw [goes] at ran
    have accepted := (step.refuses going).trans survey.accepted
    refine ⟨_,next,p',ran,?_,previous,?_⟩
    · exact { survey.toSurveys.look ran with quiet := Pass.poll_quiet survey.quiet ran, accepted := same ▸ accepted }
    · rw [same]
      refine (step.leads going pressed survey.accepted).imp_right ?_
      rintro ⟨leg,running,later,rfl⟩
      have motors := (pass.poll_connected now survey.connected).1
      unfold Plotter.left at motors
      rw [ran,asks,List.flatMap_nil,List.append_nil,running] at motors
      have drives := survey.drives
      rw [running] at drives pressed
      have moved := (drives.look pressed).2 leg.axis
      rw [if_pos rfl,← motors] at moved
      exact ⟨leg,running,later,rfl,moved⟩

end Undisturbed

end Homing
end PenPlotter
