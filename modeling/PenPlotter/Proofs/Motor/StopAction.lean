import PenPlotter.Proofs.Motor.Division

/-! A stop action that is chosen while a motor runs. It makes no difference to the motion, and none to where the motor
comes to rest, but a motor that has come to its target meanwhile rests as it was told last. -/

namespace PenPlotter.Motor.Simulated

variable {m n : Simulated Rat} {exact : Prop}

/-- The motor with another stop action. -/
def choosing (m : Simulated Rat) (action : StopAction) : Simulated Rat := m.obey (.stopAction action)

/-- The motor, with nothing said of whether it holds its place. -/
def relaxed (m : Simulated Rat) : Simulated Rat := { m with drive := if m.drive = .holding then .idle else m.drive }

/-- Motors that are the same but for how they rest, and not even that tells them apart where the match is exact. -/
structure Matches (exact : Prop) (m n : Simulated Rat) : Prop where
  relaxed : m.relaxed = n.relaxed
  same : exact → m = n

theorem relaxed_of_ne (moves : m.drive ≠ .holding) : m.relaxed = m := by
  unfold relaxed
  rw [if_neg moves]

theorem relaxed_of_holding (holding : m.drive = .holding) : m.relaxed = { m with drive := .idle } := by
  unfold relaxed
  rw [if_pos holding]

theorem relaxed_resting (m n : Simulated Rat) :
    ({ m with drive := n.resting } : Simulated Rat).relaxed = { m with drive := .idle } := by
  rcases n.resting_cases with rests | rests <;> simp [relaxed,rests]

/-- How a motor rests has nothing to do with its motion. -/
theorem relaxed_advance (m : Simulated Rat) (now : Nat) : (m.relaxed.advance now).relaxed = (m.advance now).relaxed := by
  by_cases holding : m.drive = .holding
  · rw [relaxed_of_holding holding,advance_idle rfl,advance_holding holding]
    simp [relaxed,holding]
  · rw [relaxed_of_ne holding]

/-- Nor has it to do with what the motor obeys. -/
theorem relaxed_obey (m : Simulated Rat) (command : Command) :
    (m.relaxed.obey command).relaxed = (m.obey command).relaxed := by
  by_cases holding : m.drive = .holding
  · rw [relaxed_of_holding holding]
    cases command <;> simp [relaxed,obey,resting,holding]
  · rw [relaxed_of_ne holding]

namespace Matches

theorem of_eq (same : m = n) : Matches exact m n := ⟨congrArg Simulated.relaxed same,fun _ => same⟩

theorem trans {k : Simulated Rat} (first : Matches exact m n) (second : Matches exact n k) : Matches exact m k :=
  ⟨first.relaxed.trans second.relaxed,fun here => (first.same here).trans (second.same here)⟩

theorem symm (matched : Matches exact m n) : Matches exact n m :=
  ⟨matched.relaxed.symm,fun here => (matched.same here).symm⟩

theorem imp {stricter : Prop} (matched : Matches exact m n) (enough : stricter → exact) : Matches stricter m n :=
  ⟨matched.relaxed,fun here => matched.same (enough here)⟩

theorem advance (matched : Matches exact m n) (now : Nat) : Matches exact (m.advance now) (n.advance now) where
  relaxed := by rw [← relaxed_advance,matched.relaxed,relaxed_advance]
  same here := congrArg (Simulated.advance · now) (matched.same here)

theorem dated (matched : Matches exact m n) (now : Nat) : Matches exact (m.dated now) (n.dated now) where
  relaxed := congrArg (Simulated.dated · now) matched.relaxed
  same here := congrArg (Simulated.dated · now) (matched.same here)

theorem obey (matched : Matches exact m n) (command : Command) : Matches exact (m.obey command) (n.obey command) where
  relaxed := by rw [← relaxed_obey,matched.relaxed,relaxed_obey]
  same here := congrArg (Simulated.obey · command) (matched.same here)

theorem build (matched : Matches exact m n) : m.build = n.build :=
  show m.relaxed.build = n.relaxed.build from congrArg Simulated.build matched.relaxed

end Matches

theorem moveTo_choosing (m : Simulated Rat) (action : StopAction) (place : Rat) :
    (m.choosing action).moveTo place = ((m.moveTo place).1.choosing action,(m.moveTo place).2) := by
  unfold moveTo
  dsimp only
  rw [show (m.choosing action).lower = m.lower from rfl,show (m.choosing action).upper = m.upper from rfl]
  cases Scalar.lt place (Scalar.ofInt m.lower.ticks) with
  | true => rfl
  | false => cases Scalar.lt (Scalar.ofInt m.upper.ticks) place <;> rfl

theorem push_choosing (m : Simulated Rat) (action : StopAction) (place : Rat) :
    (m.choosing action).push place = (m.push place).choosing action := by
  unfold push
  rw [moveTo_choosing]
  rcases m.moveTo place with ⟨n,_ | _⟩ <;> rfl

/-- A motor that arrives rests as its stop action says. -/
theorem arrive_choosing (m : Simulated Rat) (action : StopAction) :
    Matches (action = .hold ↔ m.stopAction = .hold) (m.choosing action).arrive (m.arrive.choosing action) := by
  obtain ⟨carriage,stopped,moved⟩ := m.moveTo_eq m.goal
  have chosen := moveTo_choosing m action m.goal
  rw [moved] at chosen
  unfold arrive
  rw [show (m.choosing action).goal = m.goal from rfl,chosen,moved]
  cases stopped with
  | true => exact .of_eq rfl
  | false =>
    let there : Simulated Rat := { m with carriage, stalled := false, stopAction := action }
    have relaxed := (relaxed_resting there there).trans (relaxed_resting there m).symm
    refine ⟨relaxed,fun alike => ?_⟩
    have rests : there.resting = m.resting := by simp [resting,there,alike]
    exact congrArg (fun drive => ({ there with drive } : Simulated Rat)) rests

/-- To choose a stop action makes no difference to a motion but for how it ends at a target. -/
theorem travelFor_choosing (m : Simulated Rat) (action : StopAction) (time : Nat) :
    Matches (m.drive = .toTarget → (action = .hold ↔ m.stopAction = .hold))
      ((m.choosing action).travelFor time) ((m.travelFor time).choosing action) := by
  cases drive : m.drive with
  | idle =>
    apply Matches.of_eq
    rw [travelFor_resting (.inl drive),travelFor_resting (m := m.choosing action) (.inl drive)]
  | holding =>
    apply Matches.of_eq
    rw [travelFor_resting (.inr drive),travelFor_resting (m := m.choosing action) (.inr drive)]
  | direct =>
    apply Matches.of_eq
    rw [travelFor_direct drive,travelFor_direct (m := m.choosing action) drive]
    by_cases still : Scalar.isZero (m.direction * Scalar.ofInt m.duty * m.ticksPerDuty) = true
    · rw [if_pos still]
      exact if_pos still
    · rw [if_neg still]
      exact (if_neg still).trans (push_choosing ..)
  | toTarget =>
    rw [travelFor_toTarget drive,travelFor_toTarget (m := m.choosing action) drive]
    by_cases close : |m.goal - m.carriage| ≤ m.step time
    · rw [if_pos close]
      have arrived := m.arrive_choosing action
      exact (Matches.of_eq (if_pos close)).trans ⟨arrived.relaxed,fun alike => arrived.same (alike rfl)⟩
    · rw [if_neg close]
      exact .of_eq ((if_neg close).trans (push_choosing ..))

theorem advance_choosing (m : Simulated Rat) (action : StopAction) (now : Nat) :
    Matches (m.drive = .toTarget → (action = .hold ↔ m.stopAction = .hold))
      ((m.choosing action).advance now) ((m.advance now).choosing action) := by
  rcases lt_or_ge m.updated now with later | past
  · rw [advance_later later,advance_later (m := m.choosing action) later]
    exact (m.travelFor_choosing action _).dated now
  · rw [advance_past past,advance_past (m := m.choosing action) past]
    exact .of_eq rfl

end PenPlotter.Motor.Simulated
