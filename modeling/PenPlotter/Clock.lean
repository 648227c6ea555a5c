/-! Virtual time. Instants and lengths of time are whole numbers of nanoseconds, and an instant is
counted from the start of the clock. A clock is moved forward only. -/

namespace PenPlotter

def milliseconds (n : Nat) : Nat := n * 1000000

namespace Clock

def sleep (now : Nat) (time : Nat) : Nat := now + time

/-- Sleeps until a deadline, and not at all if it has passed. -/
def sleepUntil (now deadline : Nat) : Nat :=
  if now < deadline then sleep now (deadline - now) else now

theorem sleepUntil_eq_max (now deadline : Nat) : sleepUntil now deadline = max now deadline := by
  unfold sleepUntil sleep
  split <;> omega

/-- Whole milliseconds since an earlier instant, and 0 for a later one. -/
def millisecondsSince (now epoch : Nat) : Nat := (now - epoch) / 1000000

end Clock
end PenPlotter
