import PenPlotter.Proofs.Motor.StopAction
import PenPlotter.Proofs.Plotter.Likeness

/-! Exact motors that are the same once they are brought up to date. Nobody can tell them apart: they answer every call
alike, and after it they are the same. A motor that was read on the way is such a motor, too. -/

namespace PenPlotter.Motor.Simulated

variable {m n : Simulated Rat} {now : Nat}

/-! A motion ends within the travel. -/

theorem push_within (ordered : (m.lower.ticks : Rat) ≤ m.upper.ticks) (place : Rat) : (m.push place).Within := by
  rcases lt_or_ge place m.lower.ticks with below | above
  · rw [push_below below]
    exact ⟨le_rfl,ordered⟩
  rcases lt_or_ge (m.upper.ticks : Rat) place with beyond | inside
  · rw [push_above ordered beyond]
    exact ⟨ordered,le_rfl⟩
  · rw [push_inside above inside]
    exact ⟨above,inside⟩

theorem arrive_within (ordered : (m.lower.ticks : Rat) ≤ m.upper.ticks) : m.arrive.Within := by
  rcases lt_or_ge m.goal m.lower.ticks with below | above
  · rw [arrive_below below]
    exact ⟨le_rfl,ordered⟩
  rcases lt_or_ge (m.upper.ticks : Rat) m.goal with beyond | inside
  · rw [arrive_above ordered beyond]
    exact ⟨ordered,le_rfl⟩
  · rw [arrive_inside above inside]
    exact ⟨above,inside⟩

theorem travelFor_within (within : m.Within) (time : Nat) : (m.travelFor time).Within := by
  cases drive : m.drive with
  | idle => rwa [travelFor_resting (.inl drive)]
  | holding => rwa [travelFor_resting (.inr drive)]
  | direct =>
    rw [travelFor_direct drive]
    split
    · exact within
    · exact push_within within.ordered _
  | toTarget =>
    rw [travelFor_toTarget drive]
    split
    · exact arrive_within within.ordered
    · exact push_within within.ordered _

theorem advance_within (within : m.Within) (now : Nat) : (m.advance now).Within := by
  unfold advance
  dsimp only
  split
  · exact within
  · exact travelFor_within (m := { m with updated := now }) within _

/-- A motor does not begin to run to its target by itself. -/
theorem running_of_advance (running : (m.advance now).drive = .toTarget) : m.drive = .toTarget := by
  cases drive : m.drive with
  | toTarget => rfl
  | idle => rw [advance_idle drive] at running; exact absurd (drive.symm.trans running) nofun
  | holding => rw [advance_holding drive] at running; exact absurd (drive.symm.trans running) nofun
  | direct =>
    have direct : (m.advance now).drive = .direct := by
      rcases advance_direct drive now with ⟨same,_⟩ | ⟨_,same⟩
      · rw [same]
        exact drive
      · obtain ⟨_,_,pushed⟩ := ({ m with updated := now } : Simulated Rat).push_eq
          (m.carriage + m.direction * Scalar.ofInt m.duty * m.ticksPerDuty * Scalar.seconds (now - m.updated))
        rw [same,pushed]
        exact drive
    exact absurd (direct.symm.trans running) nofun

/-- A motor that holds its target if it runs there, and has not been looked at later than now. -/
structure Poised (now : Nat) (m : Simulated Rat) : Prop where
  within : m.Within
  past : m.updated ≤ now
  holds : m.drive = .toTarget → m.stopAction = .hold

namespace Poised

theorem later {later : Nat} (poised : Poised now m) (le : now ≤ later) : Poised later m :=
  { poised with past := poised.past.trans le }

theorem advance (poised : Poised now m) : Poised now (m.advance now) where
  within := advance_within poised.within now
  past := (m.advance_updated now).le
  holds running := by
    have hold := poised.holds (running_of_advance running)
    obtain ⟨_,_,_,same⟩ := m.advance_eq now
    rw [same]
    exact hold

/-- A motor obeys what it can obey without being told to hold its target first. -/
theorem obey (poised : Poised now m) {command : Command} (free : command.Free) : Poised now (m.obey command) := by
  cases command with
  | reset | runDirect => exact { poised with holds := nofun }
  | polarity | dutyCycle => exact { poised with }
  | stop =>
    refine { poised with holds := fun running => ?_ }
    rcases m.resting_cases with rests | rests <;> exact absurd (rests.symm.trans running) nofun
  | speed | target | stopAction | runToTarget => exact free.elim

end Poised

/-- Motors that are the same once they are brought up to date. -/
structure Alike (now : Nat) (m n : Simulated Rat) : Prop where
  same : m.advance now = n.advance now
  left : Poised now m
  right : Poised now n

/-- Motors that were told to hold their targets. -/
structure Holding (now : Nat) (m n : Simulated Rat) : Prop extends Alike now m n where
  holds : m.connected = true → m.stopAction = .hold

namespace Alike

theorem refl (poised : Poised now m) : Alike now m m := ⟨rfl,poised,poised⟩

/-- Motors that are the same now are so later on. -/
theorem later {later : Nat} (alike : Alike now m n) (le : now ≤ later) : Alike later m n where
  same := by
    rw [← advance_advance_later alike.left.within alike.left.past le,alike.same,
      advance_advance_later alike.right.within alike.right.past le]
  left := alike.left.later le
  right := alike.right.later le

/-- To be read now makes no difference. -/
theorem advance (alike : Alike now m n) : Alike now (m.advance now) n :=
  ⟨(m.advance_advance now).trans alike.same,alike.left.advance,alike.right⟩

theorem build (alike : Alike now m n) : m.build = n.build := by
  rw [← m.advance_build now,alike.same,advance_build]

theorem connected (alike : Alike now m n) : m.connected = n.connected := congrArg Build.connected alike.build

theorem name (alike : Alike now m n) : m.name = n.name := congrArg Build.name alike.build

theorem refusal (alike : Alike now m n) (command : Command) : m.refusal? command = n.refusal? command :=
  refusal_of_build alike.build command

/-- A call that brings both motors up to date finds them the same. -/
theorem perform {after : Simulated Rat → Simulated Rat → Prop} {command : Command} (alike : Alike now m n)
    (update : needsUpdate command = true) (refused : m.refusal? command ≠ none → after m n)
    (done : m.refusal? command = none → after ((m.advance now).obey command) ((m.advance now).obey command)) :
    Agree after (perform now command m) (Simulated.perform now command n) := by
  unfold Simulated.perform
  rw [← alike.refusal command]
  cases refusal : m.refusal? command with
  | some error => exact .error error (refused (by simp [refusal]))
  | none =>
    simp only [update,↓reduceIte,← alike.same]
    exact .ok () (done refusal)

theorem position (alike : Alike now m n) :
    Agree (Alike now) (Simulated.position now m) (Simulated.position now n) := by
  unfold Simulated.position
  rw [← alike.connected,alike.name,← alike.same]
  split
  · exact .ok _ (.refl alike.left.advance)
  · exact .error _ alike

theorem state (alike : Alike now m n) :
    Agree (Alike now) (Simulated.state now m) (Simulated.state now n) := by
  unfold Simulated.state
  rw [← alike.connected,alike.name,← alike.same]
  split
  · exact .ok _ (.refl alike.left.advance)
  · exact .error _ alike

end Alike

/-- The motor once it was told to hold its target. -/
def held (m : Simulated Rat) : Simulated Rat := m.obey (.stopAction .hold)

/-- A motor that runs nowhere without holding does the same whether it is told to hold or not. -/
theorem Poised.advance_held (poised : Poised now m) : m.held.advance now = (m.advance now).held :=
  (m.advance_choosing .hold now).same fun running => ⟨fun _ => poised.holds running,fun _ => rfl⟩

theorem Alike.hold (alike : Alike now m n) :
    Agree (Holding now) (Simulated.perform now (.stopAction .hold) m) (Simulated.perform now (.stopAction .hold) n) := by
  unfold Simulated.perform refusal?
  rw [← alike.connected,alike.name]
  cases connected : m.connected with
  | false =>
    exact .error _ { alike with holds := fun here => absurd (connected.symm.trans here) nofun }
  | true =>
    refine .ok () { same := ?_, left := ?_, right := ?_, holds := fun _ => rfl }
    · exact alike.left.advance_held.trans ((congrArg held alike.same).trans alike.right.advance_held.symm)
    · exact { alike.left with holds := fun _ => rfl }
    · exact { alike.right with holds := fun _ => rfl }

theorem Alike.free {command : Command} (free : command.Free) (alike : Alike now m n) :
    Agree (Alike now) (Simulated.perform now command m) (Simulated.perform now command n) := by
  refine alike.perform ?_ (fun _ => alike) fun _ => .refl (alike.left.advance.obey free)
  cases command with
  | stopAction => exact free.elim
  | _ => rfl

namespace Holding

theorem aim {command : Command} (aims : command.Aims) (holding : Holding now m n) :
    Agree (Holding now) (Simulated.perform now command m) (Simulated.perform now command n) := by
  have held (connected : m.connected = true) : (m.advance now).stopAction = .hold := by
    obtain ⟨_,_,_,same⟩ := m.advance_eq now
    rw [same]
    exact holding.holds connected
  cases command with
  | speed | target =>
    refine holding.perform rfl (fun _ => holding) fun _ => ?_
    have here (connected : (m.advance now).connected = true) := held ((m.advance_connected now).symm.trans connected)
    exact { toAlike := .refl { holding.left.advance with }, holds := here }
  | _ => exact aims.elim

theorem run (holding : Holding now m n) :
    Agree (Alike now) (Simulated.perform now .runToTarget m) (Simulated.perform now .runToTarget n) := by
  refine holding.perform rfl (fun _ => holding.toAlike) fun accepted => ?_
  have connected : m.connected = true := by
    unfold refusal? at accepted
    by_contra missing
    simp [missing] at accepted
  refine .refl { holding.left.advance with holds := fun _ => ?_ }
  obtain ⟨_,_,_,same⟩ := m.advance_eq now
  rw [same]
  exact holding.holds connected

end Holding

end PenPlotter.Motor.Simulated
