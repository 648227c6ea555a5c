import PenPlotter.Display.Panel
import PenPlotter.Proofs.Display.Presses

/-! A console whose writer may fail. What is printed, and whether it is, has no effect on anything else: consoles that
differ only in their writers show the same screens, answer the same to every poll and go on to differ in their writers
only. -/

namespace PenPlotter

namespace Console

/-- The console with another writer. -/
def onto (c : Console) (out : Writer) : Console := { c with out }

variable (c : Console) (out : Writer)

theorem press_onto (isDown : Bool) : (c.onto out).press isDown = (c.press isDown).onto out := rfl

theorem present_onto (screen : Screen) :
    (c.onto out).present screen = (c.present screen).onto (out.lines (layout screen)) := rfl

theorem retext_onto (text : String) : ∃ out', (c.onto out).retext text = (c.retext text).onto out' := by
  unfold retext
  rw [show (c.onto out).current = c.current from rfl]
  rcases c.current with - | message | menu
  · exact ⟨_,rfl⟩
  · dsimp only
    split
    · exact ⟨_,rfl⟩
    · exact ⟨_,rfl⟩
  · exact ⟨_,rfl⟩

theorem showStatus_onto (line : String) : ∃ out', (c.onto out).showStatus line = (c.showStatus line).onto out' := by
  unfold showStatus
  rw [show (c.onto out).lastStatus = c.lastStatus from rfl]
  split
  · exact ⟨_,rfl⟩
  · exact ⟨_,rfl⟩

theorem takeConfirm_onto :
    (c.onto out).takeConfirm = (c.takeConfirm.1,c.takeConfirm.2.onto out) := by
  unfold takeConfirm
  rw [show (c.onto out).dismissPending = c.dismissPending from rfl]
  split <;> rfl

theorem meet_onto (event : Event) : ∃ out', (c.onto out).meet event = (c.meet event).onto out' := by
  cases event with
  | press => exact ⟨out,c.press_onto out true⟩
  | present screen => exact ⟨_,c.present_onto out screen⟩
  | retext text => exact c.retext_onto out text
  | showStatus line => exact c.showStatus_onto out line
  | takeConfirm => exact ⟨out,congrArg Prod.snd (c.takeConfirm_onto out)⟩

/-- The screen that is shown after an event, and the answer if it is a poll. -/
def sight (c : Console) (event : Event) : Option Screen × Option Bool :=
  ((c.meet event).current, match event with
    | .takeConfirm => some c.takeConfirm.1
    | .press | .present _ | .retext _ | .showStatus _ => none)

/-- What is seen of a console to which one event happens after the other. -/
def seen (c : Console) : List Event → List (Option Screen × Option Bool)
  | [] => []
  | event :: events => c.sight event :: (c.meet event).seen events

theorem sight_onto (event : Event) : (c.onto out).sight event = c.sight event := by
  obtain ⟨out',after⟩ := c.meet_onto out event
  unfold sight
  rw [after]
  cases event with
  | takeConfirm => rw [takeConfirm_onto]; rfl
  | press | present | retext | showStatus => rfl

theorem seen_onto (events : List Event) : (c.onto out).seen events = c.seen events := by
  induction events generalizing c out with
  | nil => rfl
  | cons event events ih =>
    obtain ⟨out',after⟩ := c.meet_onto out event
    unfold seen
    rw [sight_onto,after,ih]

end Console

namespace Panel

/-- The panel with another writer. -/
def onto (d : Panel) (out : Writer) : Panel := { d with console := d.console.onto out }

variable (d : Panel) (out : Writer)

theorem present_onto (screen : Screen) :
    ∃ out', Display.present screen (d.onto out) = (Display.present screen d).onto out' := ⟨_,rfl⟩

theorem retext_onto (text : String) : ∃ out', Display.retext text (d.onto out) = (Display.retext text d).onto out' := by
  obtain ⟨out',same⟩ := d.console.retext_onto out text
  exact ⟨out',congrArg (fun console => ({ d with console } : Panel)) same⟩

theorem showStatus_onto (line : String) : ∃ out', (d.onto out).showStatus line = (d.showStatus line).onto out' := by
  obtain ⟨out',same⟩ := d.console.showStatus_onto out line
  exact ⟨out',congrArg (fun console => ({ d with console } : Panel)) same⟩

theorem takeConfirm_onto (now : Nat) :
    Display.takeConfirm now (d.onto out) = ((Display.takeConfirm now d).1,(Display.takeConfirm now d).2.onto out) := by
  have polled (c : Console) := c.takeConfirm_onto out
  -- The presses that have come by now are found whatever is printed.
  show takeConfirm now (d.onto out) = _
  unfold takeConfirm
  cases pressed : d.presses.any (· ≤ now) with
  | true =>
    simp only [onto,pressed,↓reduceIte,Console.press_onto,polled]
    simp only [Display.takeConfirm,takeConfirm,pressed,↓reduceIte]
  | false =>
    simp only [onto,pressed,Bool.false_eq_true,↓reduceIte,polled]
    simp only [Display.takeConfirm,takeConfirm,pressed,Bool.false_eq_true,↓reduceIte]

end Panel
end PenPlotter
