import PenPlotter.Display.Console
import PenPlotter.Proofs.History

/-! What a console answers when it is polled for a confirm, told by what has happened to it before. A report that
is to be dismissed by itself is confirmed first, and a poll that does so leaves the button alone. Every other poll
reads the button; a press that it finds is passed over if the poll that has read the button before found one too. -/

namespace PenPlotter.Console

/-- What happens to a console. -/
inductive Event where
  | press
  | present (screen : Screen)
  | retext (text : String)
  | showStatus (line : String)
  | takeConfirm

def meet (c : Console) : Event → Console
  | .press => c.press true
  | .present screen => c.present screen
  | .retext text => c.retext text
  | .showStatus line => c.showStatus line
  | .takeConfirm => c.takeConfirm.2

def meetAll (c : Console) (events : List Event) : Console := events.foldl meet c

variable (autoDismiss : Bool)

/-- The screen presented last is a report that is to be dismissed by itself, and it was not polled since. -/
def Awaits : List Event → Prop :=
  Since (fun _ event => ∃ screen, event = .present screen ∧ (autoDismiss && screen.isReport) = true)
    fun _ event => event ≠ .takeConfirm ∧ ∀ screen, event ≠ .present screen

/-- A poll that reads the button. -/
def Reads (before : List Event) (event : Event) : Prop := event = .takeConfirm ∧ ¬ Awaits autoDismiss before

/-- The button was pressed, and no poll has read it since. -/
def Pressed : List Event → Prop :=
  Since (fun _ event => event = .press) fun before event => ¬ Reads autoDismiss before event

/-- The last poll that has read the button found it pressed. -/
def FoundPressed : List Event → Prop :=
  Since (fun before event => Reads autoDismiss before event ∧ Pressed autoDismiss before)
    fun before event => ¬ Reads autoDismiss before event

/-- What a console remembers of what has happened to it. -/
structure Remembers (events : List Event) (c : Console) : Prop where
  dismisses : c.autoDismiss = autoDismiss
  dismissPending : c.dismissPending = true ↔ Awaits autoDismiss events
  button : c.button = true ↔ Pressed autoDismiss events
  wasDown : c.detector.wasDown = true ↔ FoundPressed autoDismiss events

theorem retext_eq (c : Console) (text : String) : ∃ out current, c.retext text = { c with out, current } := by
  unfold retext
  split
  · split <;> exact ⟨_,_,rfl⟩
  · exact ⟨_,_,rfl⟩

theorem showStatus_eq (c : Console) (line : String) :
    ∃ out lastStatus, c.showStatus line = { c with out, lastStatus } := by
  unfold showStatus
  split <;> exact ⟨_,_,rfl⟩

variable {autoDismiss} {events : List Event} {c : Console}

namespace Remembers

theorem begun (autoDismiss : Bool) (out : Writer) : Remembers autoDismiss [] { out, autoDismiss } := by
  constructor <;> simp [Awaits,Pressed,FoundPressed]

/-- Each event is remembered. -/
theorem meet (remembers : Remembers autoDismiss events c) (event : Event) :
    Remembers autoDismiss (events ++ [event]) (c.meet event) := by
  obtain ⟨auto,pending,pressed,found⟩ := remembers
  cases event with
  | press =>
    refine ⟨auto,?_,?_,?_⟩
    · simpa [Awaits,Since.snoc,Console.meet,Console.press] using pending
    · simp [Pressed,Since.snoc,Console.meet,Console.press]
    · simpa [FoundPressed,Since.snoc,Reads,Console.meet,Console.press] using found
  | present screen =>
    refine ⟨auto,?_,?_,?_⟩
    · simp [Awaits,Since.snoc,Console.meet,Console.present,auto]
    · simpa [Pressed,Since.snoc,Reads,Console.meet,Console.present,print] using pressed
    · simpa [FoundPressed,Since.snoc,Reads,Console.meet,Console.present,print] using found
  | retext text =>
    obtain ⟨out,current,same⟩ := c.retext_eq text
    simp only [Console.meet,same]
    refine ⟨auto,?_,?_,?_⟩
    · simpa [Awaits,Since.snoc] using pending
    · simpa [Pressed,Since.snoc,Reads] using pressed
    · simpa [FoundPressed,Since.snoc,Reads] using found
  | showStatus line =>
    obtain ⟨out,lastStatus,same⟩ := c.showStatus_eq line
    simp only [Console.meet,same]
    refine ⟨auto,?_,?_,?_⟩
    · simpa [Awaits,Since.snoc] using pending
    · simpa [Pressed,Since.snoc,Reads] using pressed
    · simpa [FoundPressed,Since.snoc,Reads] using found
  | takeConfirm =>
    have polled : ¬ Awaits autoDismiss (events ++ [.takeConfirm]) := by simp [Awaits,Since.snoc]
    simp only [Console.meet,Console.takeConfirm]
    by_cases awaits : Awaits autoDismiss events
    · -- The report is dismissed and the button stays as it is.
      rw [if_pos (pending.mpr awaits)]
      refine ⟨auto,by simpa using polled,?_,?_⟩
      · simpa [Pressed,Since.snoc,Reads,awaits] using pressed
      · simpa [FoundPressed,Since.snoc,Reads,awaits] using found
    · rw [if_neg (fun still => awaits (pending.mp still))]
      refine ⟨auto,?_,?_,?_⟩
      · exact iff_of_false (fun still => awaits (pending.mp still)) polled
      · simp [Pressed,Since.snoc,Reads,awaits]
      · simpa [FoundPressed,Since.snoc,Reads,awaits,PressDetector.poll] using pressed

theorem meetAll (remembers : Remembers autoDismiss events c) (more : List Event) :
    Remembers autoDismiss (events ++ more) (c.meetAll more) := by
  induction more generalizing events c with
  | nil => simpa [Console.meetAll] using remembers
  | cons event more ih => simpa [Console.meetAll] using ih (remembers.meet event)

/-- What a poll answers. -/
theorem takeConfirm (remembers : Remembers autoDismiss events c) :
    c.takeConfirm.1 = true ↔
      Awaits autoDismiss events ∨ Pressed autoDismiss events ∧ ¬ FoundPressed autoDismiss events := by
  rw [← remembers.dismissPending,← remembers.button,← remembers.wasDown]
  unfold Console.takeConfirm PressDetector.poll
  cases c.dismissPending <;> simp

end Remembers

/-- A poll confirms if a report awaits to be dismissed by itself. Otherwise it confirms if the button was pressed
since it was last read, unless a press was found when it was last read. -/
theorem takeConfirm_answers (out : Writer) (autoDismiss : Bool) (events : List Event) :
    (meetAll { out, autoDismiss } events).takeConfirm.1 = true ↔
      Awaits autoDismiss events ∨
        ¬ Awaits autoDismiss events ∧ Pressed autoDismiss events ∧ ¬ FoundPressed autoDismiss events := by
  have answers := ((Remembers.begun autoDismiss out).meetAll events).takeConfirm
  rw [List.nil_append] at answers
  by_cases awaits : Awaits autoDismiss events <;> simp [answers,awaits]

/-- Of two presses, each of them read by a poll of its own, the second one is lost. -/
theorem second_press_is_lost :
    ¬ ∀ (out : Writer) (autoDismiss : Bool) (events : List Event),
      (meetAll { out, autoDismiss } events).takeConfirm.1 = true ↔
        Awaits autoDismiss events ∨ ¬ Awaits autoDismiss events ∧ Pressed autoDismiss events := by
  intro claimed
  have unanswered : (meetAll {} [.press,.takeConfirm,.press]).takeConfirm.1 = false := rfl
  have pressed : Pressed false [.press,.takeConfirm,.press] := ⟨[.press,.takeConfirm],.press,[],rfl,rfl,.nil⟩
  have heard := (claimed {} false [.press,.takeConfirm,.press]).mpr (by
    by_cases awaits : Awaits false [.press,.takeConfirm,.press]
    · exact .inl awaits
    · exact .inr ⟨awaits,pressed⟩)
  rw [unanswered] at heard
  cases heard

end PenPlotter.Console
