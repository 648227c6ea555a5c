import PenPlotter.Proofs.Display.Quiet

/-! A panel whose button is pressed at given instants. Whatever it confirms is a report that waits to be dismissed or
a press that has come by then. -/

namespace PenPlotter

/-- One of the presses has come by now. -/
def PressedBy (presses : List Nat) (now : Nat) : Prop := ∃ press ∈ presses, press ≤ now

theorem PressedBy.later {presses : List Nat} {earlier now : Nat} (pressed : PressedBy presses earlier)
    (later : earlier ≤ now) : PressedBy presses now := by
  obtain ⟨press,given,before⟩ := pressed
  exact ⟨press,given,Nat.le_trans before later⟩

/-- All that a panel will confirm: the given presses, and a report if one may wait to be dismissed. -/
structure Panel.Heard (presses : List Nat) (now : Nat) (pending : Bool) (d : Panel) : Prop where
  given : ∀ press ∈ d.presses, press ∈ presses
  button : d.console.button = true → PressedBy presses now
  dismissPending : d.console.dismissPending = true → pending = true

namespace Panel.Heard

variable {presses : List Nat} {now earlier : Nat} {pending : Bool} {d : Panel}

theorem weaken {other : Bool} (heard : d.Heard presses earlier pending) (later : earlier ≤ now)
    (more : pending = true → other = true) : d.Heard presses now other where
  given := heard.given
  button down := (heard.button down).later later
  dismissPending waits := more (heard.dismissPending waits)

theorem lasting (presses : List Nat) (now : Nat) : Panel.Lasting (Panel.Heard presses now) where
  present {_ d} heard screen := by
    refine ⟨heard.given,heard.button,fun waits => ?_⟩
    have waits : (d.console.autoDismiss && screen.isReport) = true := waits
    exact (Bool.and_eq_true_iff.mp waits).2
  retext {pending d} heard text := by
    obtain ⟨out,current,same⟩ := d.console.retext_eq text
    show ({ d with console := d.console.retext text } : Panel).Heard presses now pending
    rw [same]
    exact ⟨heard.given,heard.button,heard.dismissPending⟩

theorem showStatus (heard : d.Heard presses now pending) (line : String) :
    (d.showStatus line).Heard presses now pending := by
  obtain ⟨out,lastStatus,same⟩ := d.console.showStatus_eq line
  unfold Panel.showStatus
  rw [same]
  exact ⟨heard.given,heard.button,heard.dismissPending⟩

/-- What is confirmed is a report or a press, and afterwards no report waits. -/
theorem takeConfirm (heard : d.Heard presses earlier pending) (later : earlier ≤ now) :
    ((d.takeConfirm now).1 = true → pending = true ∨ PressedBy presses now) ∧
      (d.takeConfirm now).2.Heard presses now false := by
  have down (pressed : (if d.presses.any (· ≤ now) then d.console.press true else d.console).button = true) :
      PressedBy presses now := by
    by_cases come : d.presses.any (· ≤ now) = true
    · obtain ⟨press,given,before⟩ := List.any_eq_true.mp come
      exact ⟨press,heard.given press given,by simpa using before⟩
    · rw [if_neg come] at pressed
      exact (heard.button pressed).later later
  have same : (if d.presses.any (· ≤ now) then d.console.press true else d.console).dismissPending =
      d.console.dismissPending := by split <;> rfl
  have fewer : ∀ press ∈ d.presses.filter (now < ·), press ∈ presses :=
    fun press given => heard.given press (List.mem_filter.mp given).1
  unfold Panel.takeConfirm Console.takeConfirm
  dsimp only
  by_cases waits : d.console.dismissPending = true
  · rw [if_pos (same.trans waits)]
    exact ⟨fun _ => .inl (heard.dismissPending waits),fewer,down,nofun⟩
  · rw [if_neg (by rwa [same])]
    refine ⟨fun pressed => .inr (down (Bool.and_eq_true_iff.mp pressed).1),fewer,nofun,fun still => ?_⟩
    exact absurd (same.symm.trans still) waits

end Panel.Heard

namespace Homing

variable {μ : Type} [Motor μ] {presses : List Nat} {now earlier : Nat} {p p' : Plotter μ Panel}

/-- A pass that goes on shows no report but its results. -/
theorem Pass.poll_heard {pass next : Pass} {delay : Nat} (heard : p.display.Heard presses earlier pass.phase.reports)
    (later : earlier ≤ now) (ran : pass.poll now p = .ok (.again delay next) p') :
    next.previous = pass.previous ∧ p'.display.Heard presses now next.phase.reports := by
  obtain ⟨previous,effects,step,going,after⟩ :=
    poll_lasting (Panel.Heard.lasting presses now) (heard.takeConfirm later).2 ran
  rw [Bool.false_or] at after
  exact ⟨previous,after.weaken (Nat.le_refl now) (step.shows going).2⟩

end Homing
end PenPlotter
