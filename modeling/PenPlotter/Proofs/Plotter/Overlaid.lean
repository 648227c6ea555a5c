import PenPlotter.Display.Panel
import PenPlotter.Proofs.Motor.Poised
import PenPlotter.Proofs.Plotter.Glance
import PenPlotter.Proofs.Plotter.Likeness

/-! Plotters on one of which status lines are printed. Their motors are the same once they are brought up to date, and
their consoles differ in the status lines only, so that no program can tell one plotter from the other. -/

namespace PenPlotter

/-- What a console prints at once. -/
inductive Sheet where
  | screen (screen : Screen)
  | status (line : String)

namespace Sheet

def lines : Sheet → List String
  | .screen shown => Console.layout shown
  | .status line => [line]

def isScreen : Sheet → Bool
  | .screen _ => true
  | .status _ => false

end Sheet

def Writer.sheets (w : Writer) (sheets : List Sheet) : Writer := sheets.foldl (fun w sheet => w.lines sheet.lines) w

namespace Console

variable (c : Console)

/-- The console apart from what it has printed. -/
def hushed : Console := { c with out := {}, lastStatus := none }

theorem present_hushed (screen : Screen) : (c.present screen).hushed = (c.hushed.present screen).hushed := rfl

theorem retext_hushed (text : String) : (c.retext text).hushed = (c.hushed.retext text).hushed := by
  unfold retext
  rw [show c.hushed.current = c.current from rfl]
  split
  · split <;> rfl
  · rfl

theorem takeConfirm_hushed :
    c.takeConfirm.1 = c.hushed.takeConfirm.1 ∧ c.takeConfirm.2.hushed = c.hushed.takeConfirm.2.hushed := by
  unfold takeConfirm
  rw [show c.hushed.dismissPending = c.dismissPending from rfl]
  split <;> exact ⟨rfl,rfl⟩

theorem takeConfirm_out : c.takeConfirm.2.out = c.out := by
  unfold takeConfirm
  split <;> rfl

/-- The sheets that a console prints when the text of its message is replaced. -/
def reprinted (text : String) : List Sheet :=
  match c.current with
  | some (.message m) => if m.text = text then [] else [.screen (.message { m with text })]
  | _ => []

theorem retext_out (text : String) : (c.retext text).out = c.out.sheets (c.reprinted text) := by
  unfold retext reprinted
  rcases c.current with - | message | menu
  · rfl
  · dsimp only
    split <;> rfl
  · rfl

theorem reprinted_screens (text : String) : (c.reprinted text).filter Sheet.isScreen = c.reprinted text := by
  unfold reprinted
  split
  · split <;> rfl
  · rfl

end Console

/-- Panels that differ only in what was printed: on both the same screens, from a writer on, but status lines only on
the first one. -/
structure Panel.Overlaid (out : Writer) (d e : Panel) : Prop where
  hushed : d.console.hushed = e.console.hushed
  presses : d.presses = e.presses
  printed : ∃ sheets, d.console.out = out.sheets sheets ∧ e.console.out = out.sheets (sheets.filter Sheet.isScreen)

namespace Panel.Overlaid

variable {out : Writer} {d e : Panel}

theorem refl (d : Panel) : Overlaid d.console.out d d := ⟨rfl,rfl,[],rfl,rfl⟩

/-- More sheets are printed on one panel, and the screens of them on the other. -/
theorem prints (overlaid : Overlaid out d e) {c c' : Console} (more : List Sheet) (hushed : c.hushed = c'.hushed)
    (left : c.out = d.console.out.sheets more) (right : c'.out = e.console.out.sheets (more.filter Sheet.isScreen)) :
    Overlaid out { d with console := c } { e with console := c' } := by
  obtain ⟨_,presses,sheets,printed,printed'⟩ := overlaid
  refine ⟨hushed,presses,sheets ++ more,?_,?_⟩
  · rw [left,printed,Writer.sheets,Writer.sheets,Writer.sheets,List.foldl_append]
  · rw [right,printed',List.filter_append,Writer.sheets,Writer.sheets,Writer.sheets,List.foldl_append]

theorem present (overlaid : Overlaid out d e) (screen : Screen) :
    Overlaid out (Display.present screen d) (Display.present screen e) := by
  refine overlaid.prints [.screen screen] ?_ rfl rfl
  rw [Console.present_hushed,overlaid.hushed,← Console.present_hushed]

theorem retext (overlaid : Overlaid out d e) (text : String) :
    Overlaid out (Display.retext text d) (Display.retext text e) := by
  have current : e.console.current = d.console.current := (congrArg Console.current overlaid.hushed.symm :)
  have same : e.console.reprinted text = d.console.reprinted text := by
    unfold Console.reprinted
    rw [current]
  refine overlaid.prints (d.console.reprinted text) ?_ (Console.retext_out ..) ?_
  · rw [Console.retext_hushed,overlaid.hushed,← Console.retext_hushed]
  · rw [Console.reprinted_screens,Console.retext_out,same]

theorem takeConfirm (overlaid : Overlaid out d e) (now : Nat) :
    (Display.takeConfirm now d).1 = (Display.takeConfirm now e).1 ∧
      Overlaid out (Display.takeConfirm now d).2 (Display.takeConfirm now e).2 := by
  -- The presses that have come by now are found on both.
  let down (p : Panel) : Console := if p.presses.any (· ≤ now) then p.console.press true else p.console
  have hushed : (down d).hushed = (down e).hushed := by
    simp only [down,overlaid.presses]
    split
    · exact congrArg (Console.press · true) overlaid.hushed
    · exact overlaid.hushed
  have unprinted (p : Panel) : (down p).takeConfirm.2.out = p.console.out := by
    rw [Console.takeConfirm_out]
    simp only [down]
    split <;> rfl
  obtain ⟨answer,after⟩ := (down d).takeConfirm_hushed
  obtain ⟨answer',after'⟩ := (down e).takeConfirm_hushed
  rw [hushed] at answer after
  refine ⟨answer.trans answer'.symm,?_,?_,?_⟩
  · exact after.trans after'.symm
  · exact congrArg (List.filter fun instant => now < instant) overlaid.presses
  · obtain ⟨sheets,printed,printed'⟩ := overlaid.printed
    exact ⟨sheets,(unprinted d).trans printed,(unprinted e).trans printed'⟩

theorem showStatus (overlaid : Overlaid out d e) (line : String) : Overlaid out (d.showStatus line) e := by
  unfold Panel.showStatus Console.showStatus
  split
  · exact overlaid
  · show Overlaid out _ { e with console := e.console }
    exact overlaid.prints [.status line] overlaid.hushed rfl rfl

end Panel.Overlaid

open Motor

/-- Plotters with exact motors, on the first of which status lines are printed. -/
def Likeness.overlaid (out : Writer) (now : Nat) : Likeness (Simulated Rat) (Simulated Rat) Panel Panel now where
  motor := Simulated.Alike now
  aimed := Simulated.Holding now
  display := Panel.Overlaid out
  motor_of_aimed holding := holding.toAlike
  connected alike := alike.connected
  free := Simulated.Alike.free
  hold alike := alike.hold
  aim := Simulated.Holding.aim
  run holding := holding.run
  position alike := alike.position
  state alike := alike.state
  present screen overlaid := overlaid.present screen
  retext text overlaid := overlaid.retext text
  takeConfirm overlaid := overlaid.takeConfirm now

/-- All motors of a plotter can be read at any time from now on. -/
def Plotter.Poised {δ : Type} (now : Nat) (p : Plotter (Simulated Rat) δ) : Prop :=
  ∀ axis, (p.motor axis).Poised now

namespace Likeness.Alike

variable {out : Writer} {now : Nat} {p p' q : Plotter (Simulated Rat) Panel}

theorem overlaid_refl (poised : p.Poised now) : (overlaid p.display.console.out now).Alike p p :=
  ⟨fun axis => .refl (poised axis),.refl p.display,rfl,rfl,rfl,rfl⟩

theorem poised (alike : (overlaid out now).Alike p q) : p.Poised now := fun axis => (alike.motor axis).left

theorem later {later : Nat} (alike : (overlaid out now).Alike p q) (le : now ≤ later) :
    (overlaid out later).Alike p q :=
  { alike with motor := fun axis => (alike.motor axis).later le, display := alike.display }

/-- To look at one plotter now makes no difference. -/
theorem glanced (alike : (overlaid out now).Alike p q) (glanced : Plotter.Glanced now p p') :
    (overlaid out now).Alike p' q where
  motor axis := by
    rcases glanced.motor axis with same | up
    · rw [same]
      exact alike.motor axis
    · rw [up]
      exact (alike.motor axis).advance
  display := glanced.display ▸ alike.display
  calibration := glanced.calibration.trans alike.calibration
  modes := glanced.modes.trans alike.modes
  motion := glanced.motion.trans alike.motion
  steps := glanced.steps.trans alike.steps

theorem showStatus (alike : (overlaid out now).Alike p q) (line : String) :
    (overlaid out now).Alike { p with display := p.display.showStatus line } q :=
  { alike with motor := alike.motor, display := Panel.Overlaid.showStatus alike.display line }

end Likeness.Alike
end PenPlotter
