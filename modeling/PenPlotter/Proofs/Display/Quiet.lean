import PenPlotter.Display.Panel
import PenPlotter.Proofs.Display.Presses
import PenPlotter.Proofs.Homing.Calls

/-! A panel whose button nobody presses. It confirms nothing but finished reports, each of them once, if it is to
dismiss them by itself. -/

namespace PenPlotter

/-- A property of panels that is kept by screens and texts. It depends on whether a report waits to be dismissed. -/
structure Panel.Lasting (holds : Bool → Panel → Prop) : Prop where
  present : ∀ {pending d}, holds pending d → ∀ screen, holds screen.isReport (Display.present screen d)
  retext : ∀ {pending d}, holds pending d → ∀ text, holds pending (Display.retext text d)

/-- No press is to come, and a report waits to be dismissed or none does. -/
structure Panel.Quiet (pending : Bool) (d : Panel) : Prop where
  presses : d.presses = []
  button : d.console.button = false
  autoDismiss : d.console.autoDismiss = true
  dismissPending : d.console.dismissPending = pending

namespace Panel.Quiet

variable {pending : Bool} {d : Panel}

theorem takeConfirm (quiet : d.Quiet pending) (now : Nat) :
    (d.takeConfirm now).1 = pending ∧ (d.takeConfirm now).2.Quiet false := by
  obtain ⟨⟨out,current,button,detector,autoDismiss,dismissPending,lastStatus⟩,presses⟩ := d
  obtain ⟨rfl,rfl,rfl,rfl⟩ := quiet
  cases dismissPending <;> exact ⟨rfl,⟨rfl,rfl,rfl,rfl⟩⟩

theorem present (quiet : d.Quiet pending) (screen : Screen) :
    (Display.present screen d).Quiet screen.isReport where
  presses := quiet.presses
  button := quiet.button
  autoDismiss := quiet.autoDismiss
  dismissPending := by
    show (d.console.autoDismiss && screen.isReport) = _
    rw [quiet.autoDismiss,Bool.true_and]

theorem retext (quiet : d.Quiet pending) (text : String) : (Display.retext text d).Quiet pending := by
  obtain ⟨out,current,same⟩ := d.console.retext_eq text
  show ({ d with console := d.console.retext text } : Panel).Quiet pending
  rw [same]
  exact ⟨quiet.presses,quiet.button,quiet.autoDismiss,quiet.dismissPending⟩

theorem lasting : Panel.Lasting Panel.Quiet := ⟨present,retext⟩

theorem showStatus (quiet : d.Quiet pending) (line : String) : (d.showStatus line).Quiet pending := by
  obtain ⟨out,lastStatus,same⟩ := d.console.showStatus_eq line
  unfold Panel.showStatus
  rw [same]
  exact ⟨quiet.presses,quiet.button,quiet.autoDismiss,quiet.dismissPending⟩

end Panel.Quiet

namespace Homing

variable {μ : Type} [Motor μ] {pending : Bool} {now : Nat} {p p' : Plotter μ Panel}

/-- An effect after which a report waits to be dismissed. -/
def Effect.reports : Effect → Bool
  | .showResults => true
  | _ => false

section Lasting

variable {holds : Bool → Panel → Prop} (lasting : Panel.Lasting holds)
include lasting

theorem carryOut_lasting {previous : Screen} {tally tally' : Tally} {effect : Effect}
    (before : holds pending p.display) (stays : effect ≠ .restoreScreen)
    (ran : Pass.carryOut previous tally effect now p = .ok tally' p') :
    holds (pending || effect.reports) p'.display := by
  cases effect with
  | restoreScreen => exact absurd rfl stays
  | record | complete | fail => cases ran; simpa [Effect.reports] using before
  | showResults =>
    cases ran
    rw [show (pending || Effect.reports .showResults) = true from Bool.or_true pending]
    exact lasting.present before (.message (Pass.resultsMessage tally.recorded))
  | stopMotor axis =>
    obtain ⟨_,q,made,ran⟩ := bind_eq_ok.mp ran
    cases ran
    rw [(Pass.call_display axis _).of_ok made]
    simpa [Effect.reports] using before
  | resetMotors =>
    obtain ⟨_,q,made,ran⟩ := bind_eq_ok.mp ran
    cases ran
    rw [Plotter.Yields.of_ok (.forM fun axis _ => Pass.call_display axis _) made]
    simpa [Effect.reports] using before
  | startLeg leg =>
    obtain ⟨_,_,one,ran⟩ := bind_eq_ok.mp ran
    obtain ⟨_,_,two,ran⟩ := bind_eq_ok.mp ran
    obtain ⟨_,q,three,ran⟩ := bind_eq_ok.mp ran
    have same := ((Pass.call_display _ _).of_ok three).trans
      (((Pass.call_display _ _).of_ok two).trans ((Pass.call_display _ _).of_ok one))
    cases ran
    simpa [Effect.reports,same] using lasting.retext (same ▸ before : holds pending q.display) leg.progress

theorem carryOutAll_lasting {previous : Screen} {effects : List Effect} {tally tally' : Tally}
    (before : holds pending p.display) (stays : .restoreScreen ∉ effects)
    (ran : effects.foldlM (Pass.carryOut previous) tally now p = .ok tally' p') :
    holds (pending || effects.any Effect.reports) p'.display := by
  induction effects generalizing tally p pending with
  | nil => cases ran; simpa using before
  | cons effect effects ih =>
    simp only [List.mem_cons,not_or] at stays
    obtain ⟨between,q,first,rest⟩ := bind_eq_ok.mp ran
    have after := ih (carryOut_lasting lasting before (Ne.symm stays.1) first) stays.2 rest
    rwa [List.any_cons,← Bool.or_assoc]

end Lasting

/-- Whether the results are shown and wait to be dismissed. -/
def Phase.reports : Phase → Bool
  | .closing none => true
  | _ => false

theorem Phase.reports_iff {phase : Phase} : phase.reports = true ↔ phase = .closing none := by
  cases phase with
  | closing shown => cases shown <;> simp [reports]
  | _ => simp [reports]

/-- A transition that goes on puts back no screen, and shows a report only if the results are. -/
theorem Phase.Step.shows {phase next : Phase} {seen : Observation} {effects : List Effect}
    (step : phase.Step seen next effects) (going : next.isTerminal = false) :
    .restoreScreen ∉ effects ∧ (effects.any Effect.reports = true → next.reports = true) := by
  cases step with
  | ended terminal => simp [going] at terminal
  | dismissed | refused | cancelled => cases going
  | waited => exact ⟨List.not_mem_nil,by simp⟩
  | @stalled _ leg => cases leg <;> simp [afterLeg,Effect.reports]
  | watched => exact ⟨List.not_mem_nil,by simp⟩
  | begun | lowered | reported => exact ⟨by decide,by decide⟩

/-- It does so whenever they are, if they were dismissed by the time they were shown. -/
theorem Phase.Step.reports {phase next : Phase} {seen : Observation} {effects : List Effect}
    (step : phase.Step seen next effects) (going : next.isTerminal = false) (unpressed : seen.confirm = phase.reports) :
    effects.any Effect.reports = next.reports := by
  cases step with
  | ended terminal => simp [going] at terminal
  | dismissed | refused | cancelled => cases going
  | waited unconfirmed => exact unconfirmed.symm.trans unpressed
  | @stalled _ leg => cases leg <;> rfl
  | begun | watched | lowered | reported => rfl

/-- What a look leaves of a pass that goes on: the panel as it was polled, with what the transition has shown. -/
theorem Pass.poll_lasting {holds : Bool → Panel → Prop} (lasting : Panel.Lasting holds) {pass next : Pass} {delay : Nat}
    (asked : holds pending (p.asked now).display) (ran : pass.poll now p = .ok (.again delay next) p') :
    next.previous = pass.previous ∧ ∃ effects, pass.phase.Step (pass.phase.sight now p) next.phase effects ∧
      next.phase.isTerminal = false ∧ holds (pending || effects.any Effect.reports) p'.display := by
  obtain ⟨phase,effects,q,looked,step,carried⟩ := poll_carries ran
  have shown : holds pending q.display := by rwa [(observe_display pass.phase).of_ok looked]
  obtain ⟨made,tally,all⟩ := carry_ok carried
  obtain ⟨_,rfl,going⟩ := progress_eq_again made.symm
  exact ⟨rfl,effects,step,going,carryOutAll_lasting lasting shown (step.shows going).1 all⟩

/-- While nobody presses the button a pass goes on until its results are shown, which are dismissed at once. -/
theorem Pass.poll_quiet {pass next : Pass} {delay : Nat} (quiet : p.display.Quiet pass.phase.reports)
    (ran : pass.poll now p = .ok (.again delay next) p') : p'.display.Quiet next.phase.reports := by
  obtain ⟨pressed,asked⟩ := quiet.takeConfirm now
  obtain ⟨_,effects,step,going,after⟩ := poll_lasting Panel.Quiet.lasting asked ran
  rwa [Bool.false_or,step.reports going pressed] at after

end Homing
end PenPlotter
