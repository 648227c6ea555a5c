import PenPlotter.Display.Basic

/-! A display that keeps every screen and every text it was sent, and whose button presses are
counted until they are taken. -/

namespace PenPlotter

structure Journal where
  /-- Screens shown, the last one first and each with the texts it was given since. -/
  screens : List Screen := []
  /-- Texts sent, in order. -/
  texts : List String := []
  /-- Presses of the button that were not taken yet. -/
  presses : Nat := 0
  deriving DecidableEq, Repr

namespace Journal

def current (j : Journal) : Option Screen := j.screens.head?

def press (j : Journal) : Journal := { j with presses := j.presses + 1 }

instance : Display Journal where
  present screen j := { j with screens := screen :: j.screens }
  retext text j :=
    let screens := match j.screens with
      | [] => []
      | screen :: earlier => screen.withText text :: earlier
    { j with screens, texts := j.texts ++ [text] }
  takeConfirm _ j := (0 < j.presses, { j with presses := j.presses - 1 })

end Journal
end PenPlotter
