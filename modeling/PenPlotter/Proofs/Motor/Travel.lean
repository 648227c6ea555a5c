import PenPlotter.Proofs.Motor.Build
import PenPlotter.Proofs.Motor.Lawful

/-! Motors within their travel. A motor that rests stays where it is, and one that is driven stalls nowhere but at
the end of the travel to which it is driven. -/

namespace PenPlotter.Motor

/-- A travel that is not empty and holds its start. -/
structure Travel.Sound (travel : Travel) : Prop where
  ordered : travel.lower.ticks < travel.upper.ticks
  above : travel.lower.ticks ≤ travel.start.ticks
  below : travel.start.ticks ≤ travel.upper.ticks

/-- The end of a travel to which a duty cycle drives. -/
def Travel.stop (travel : Travel) (duty : Int) : Physical := if 0 < duty then travel.upper else travel.lower

/-- What the encoder reads at that end if it reads 0 at the start. -/
def Travel.found (travel : Travel) (duty : Int) : Raw := .saturate ((travel.stop duty).ticks - travel.start.ticks)

/-- A position that the encoder can read within the travel if it reads 0 at the start. -/
def Travel.Reaches (travel : Travel) (target : Raw) : Prop :=
  travel.lower.ticks - travel.start.ticks ≤ target.ticks ∧ target.ticks ≤ travel.upper.ticks - travel.start.ticks

namespace Simulated

variable {R : Type} [Scalar R] {travel : Travel} {m : Simulated R} {duty : Int}

/-- A motor that is plugged in, is within its travel and counts from the start of it. -/
structure Placed (travel : Travel) (m : Simulated R) : Prop where
  connected : m.connected = true
  lower : m.lower = travel.lower
  upper : m.upper = travel.upper
  ordered : travel.lower.ticks ≤ travel.upper.ticks
  speed : Scalar.lt (Scalar.ofInt 0) m.ticksPerDuty = true
  zero : m.encoderZero = Scalar.ofInt travel.start.ticks
  above : Scalar.lt m.carriage (Scalar.ofInt travel.lower.ticks) = false
  below : Scalar.lt (Scalar.ofInt travel.upper.ticks) m.carriage = false
  polarity : m.polarity = .normal

/-- A motor that does nothing. -/
structure Rests (travel : Travel) (m : Simulated R) : Prop extends Placed travel m where
  drive : m.drive = .idle
  stopAction : m.stopAction = .coast

/-- A motor that is driven and has not stalled yet. -/
structure Runs (travel : Travel) (duty : Int) (m : Simulated R) : Prop extends Placed travel m where
  drive : m.drive = .direct
  duty : m.duty = duty
  unstalled : m.stalled = false
  stopAction : m.stopAction = .coast

/-- A motor that has stalled at the end of its travel. -/
structure Stopped (travel : Travel) (duty : Int) (m : Simulated R) : Prop extends Placed travel m where
  drive : m.drive = .direct
  stalled : m.stalled = true
  carriage : m.carriage = Scalar.ofInt (travel.stop duty).ticks
  stopAction : m.stopAction = .coast

/-- A motor that was told to run to a target and to hold it. -/
structure Heads (travel : Travel) (target : Raw) (m : Simulated R) : Prop extends Placed travel m where
  drive : m.drive = .toTarget ∨ m.drive = .holding
  aim : m.target = target
  stopAction : m.stopAction = .hold

/-- A motor at rest that was told to run to a target and to hold it. -/
def aimed (m : Simulated R) (speed : Int) (target : Raw) (now : Nat) : Simulated R :=
  { m with drive := .toTarget, stalled := false, updated := now, speed, target, stopAction := .hold }

theorem advance_idle (idle : m.drive = .idle) (now : Nat) : m.advance now = { m with updated := now } := by
  unfold advance travelFor
  simp [idle]

theorem advance_holding (holding : m.drive = .holding) (now : Nat) : m.advance now = { m with updated := now } := by
  unfold advance travelFor
  simp [holding]

theorem advance_direct (direct : m.drive = .direct) (now : Nat) :
    (m.advance now = { m with updated := now } ∧
      (now - m.updated = 0 ∨ Scalar.isZero (m.direction * Scalar.ofInt m.duty * m.ticksPerDuty) = true)) ∨
      0 < now - m.updated ∧
        m.advance now = ({ m with updated := now } : Simulated R).push
          (m.carriage + m.direction * Scalar.ofInt m.duty * m.ticksPerDuty * Scalar.seconds (now - m.updated)) := by
  unfold advance travelFor
  simp only [direct]
  split
  next none => exact .inl ⟨rfl,.inl none⟩
  next later =>
    split
    next still => exact .inl ⟨rfl,.inr still⟩
    · exact .inr ⟨Nat.pos_of_ne_zero later,rfl⟩

/-- Where the carriage is when the encoder reads the target. -/
def goal (m : Simulated R) : R := m.encoderZero + m.direction * Scalar.ofInt m.target.ticks

/-- The ticks that a motor running to a target moves in a length of time, if nothing ends its way. -/
def step (m : Simulated R) (time : Nat) : R := Scalar.ofInt m.speed.natAbs * Scalar.seconds time

theorem advance_toTarget (running : m.drive = .toTarget) (now : Nat) :
    (m.advance now = { m with updated := now } ∧ now - m.updated = 0) ∨
      (Scalar.le (Scalar.abs (m.goal - m.carriage)) (m.step (now - m.updated)) = true ∧
        m.advance now = match ({ m with updated := now } : Simulated R).moveTo m.goal with
          | (m, true) => { m with stalled := true }
          | (m, false) => { m with drive := m.resting, stalled := false }) ∨
      (Scalar.le (Scalar.abs (m.goal - m.carriage)) (m.step (now - m.updated)) = false ∧
        m.advance now = ({ m with updated := now } : Simulated R).push
          (m.carriage + m.step (now - m.updated) * Scalar.sign (m.goal - m.carriage))) := by
  obtain ⟨_,_,_,_,_,_,_,_,_,_,_,_,_,_,_⟩ := m
  obtain rfl := running
  unfold advance travelFor
  dsimp only
  split
  next none => exact .inl ⟨rfl,none⟩
  · right
    split
    next close => exact .inl ⟨close,rfl⟩
    next far => exact .inr ⟨Bool.eq_false_iff.mpr far,rfl⟩

namespace Rests

theorem advance (rests : Rests travel m) (now : Nat) : Rests travel (m.advance now) := by
  rw [advance_idle rests.drive]
  exact { rests with }

/-- A motor that is reset at the start counts from there. -/
theorem reset (rests : Rests travel m) (fresh : m.carriage = Scalar.ofInt travel.start.ticks) (now : Nat) :
    Rests travel (Ask.heed now m (.command .reset)) := by
  unfold Ask.heed
  simp only [needsUpdate,↓reduceIte,advance_idle rests.drive]
  exact { rests with zero := fresh, polarity := rfl, drive := rfl, stopAction := rfl }

theorem heed (rests : Rests travel m) (now : Nat) (command : Command) (update : needsUpdate command = true) :
    Ask.heed now m (.command command) = ({ m with updated := now } : Simulated R).obey command := by
  simp only [Ask.heed,update,↓reduceIte,advance_idle rests.drive]

/-- A motor that is set up and told to run is driven. -/
theorem launch (rests : Rests travel m) (duty : Int) (now : Nat) :
    Runs travel duty (Ask.heed now (Ask.heed now (Ask.heed now m (.command (.polarity .normal)))
      (.command (.dutyCycle duty))) (.command .runDirect)) := by
  have straight : Rests travel (Ask.heed now m (.command (.polarity .normal))) := by
    rw [rests.heed now _ rfl]
    exact { rests with polarity := rfl }
  generalize Ask.heed now m (.command (.polarity .normal)) = m at *
  have set : Rests travel (Ask.heed now m (.command (.dutyCycle duty))) ∧
      (Ask.heed now m (.command (.dutyCycle duty))).duty = duty := by
    rw [straight.heed now _ rfl]
    exact ⟨{ straight with },rfl⟩
  generalize Ask.heed now m (.command (.dutyCycle duty)) = m at *
  rw [set.1.heed now _ rfl]
  exact { set.1 with drive := rfl, duty := set.2, unstalled := rfl }

/-- A motor that is told how to run to a target and to do so. -/
theorem aim (rests : Rests travel m) (speed : Int) (target : Raw) (now : Nat) :
    Ask.heed now (Ask.heed now (Ask.heed now (Ask.heed now m (.command (.stopAction .hold)))
      (.command (.speed speed))) (.command (.target target))) (.command .runToTarget) = m.aimed speed target now := by
  simp only [Ask.heed,needsUpdate,obey,aimed,advance_idle,rests.drive,Bool.false_eq_true,↓reduceIte]

theorem aimed (rests : Rests travel m) (speed : Int) (target : Raw) (now : Nat) :
    Heads travel target (m.aimed speed target now) :=
  { rests with drive := .inl rfl, aim := rfl, stopAction := rfl }

end Rests

theorem Placed.stop (placed : Placed travel m) (coast : m.stopAction = .coast) (current : m.advance now = m) :
    Rests travel (Ask.heed now m (.command .stop)) := by
  unfold Ask.heed
  simp only [needsUpdate,↓reduceIte,current]
  exact { placed with drive := by simp [obey,resting,coast], stopAction := coast }

theorem Stopped.encoder [Scalar.Lawful R] (stopped : Stopped travel duty m) : m.encoder = travel.found duty := by
  unfold Simulated.encoder direction
  rw [stopped.polarity,stopped.carriage,stopped.zero]
  exact Scalar.Lawful.round_difference ..

/-- As time goes by a motor that is driven runs on or stalls at the end of its travel. -/
theorem Runs.advance [Scalar.Lawful R] (runs : Runs travel duty m) (driven : duty ≠ 0) (now : Nat) :
    Runs travel duty (m.advance now) ∨ Stopped travel duty (m.advance now) := by
  rcases advance_direct runs.drive now with ⟨same,_⟩ | ⟨_,same⟩
  · rw [same]
    exact .inl { runs with }
  rw [same]
  generalize time : now - m.updated = elapsed
  have velocity : m.direction = Scalar.ofInt 1 := by
    unfold direction
    rw [runs.polarity]
  rw [velocity,runs.duty]
  have above := fun (up : 0 < duty) => Scalar.Lawful.upward duty m.ticksPerDuty m.carriage
    (Scalar.ofInt travel.lower.ticks) elapsed up runs.speed runs.above
  have below := fun (down : duty < 0) => Scalar.Lawful.downward duty m.ticksPerDuty m.carriage
    (Scalar.ofInt travel.upper.ticks) elapsed down runs.speed runs.below
  have lower : Scalar.lt (Scalar.ofInt travel.upper.ticks : R) (Scalar.ofInt travel.lower.ticks) = false := by
    rw [Scalar.Lawful.lt_ofInt]
    exact decide_eq_false (Int.not_lt.mpr runs.ordered)
  have self (place : Physical) : Scalar.lt (Scalar.ofInt place.ticks : R) (Scalar.ofInt place.ticks) = false := by
    rw [Scalar.Lawful.lt_ofInt]
    simp
  generalize m.carriage + Scalar.ofInt 1 * Scalar.ofInt duty * m.ticksPerDuty * Scalar.seconds elapsed = place at *
  unfold push moveTo
  simp only [runs.lower,runs.upper]
  cases low : Scalar.lt place (Scalar.ofInt travel.lower.ticks) with
  | true =>
    have down : ¬ 0 < duty := fun up => by simp [above up] at low
    simp only [↓reduceIte]
    exact .inr { runs with
      lower := rfl, upper := rfl
      above := self _, below := lower, stalled := rfl, carriage := by simp [Travel.stop,down] }
  | false =>
    simp only [Bool.false_eq_true,↓reduceIte]
    cases high : Scalar.lt (Scalar.ofInt travel.upper.ticks) place with
    | true =>
      have up : 0 < duty := by
        rcases Int.lt_or_gt_of_ne driven with down | up
        · simp [below down] at high
        · exact up
      simp only [↓reduceIte]
      exact .inr { runs with
        lower := rfl, upper := rfl
        above := lower, below := self _, stalled := rfl, carriage := by simp [Travel.stop,up] }
    | false =>
      simp only [Bool.false_eq_true,↓reduceIte]
      exact .inl { runs with lower := rfl, upper := rfl, duty := rfl, above := low, below := high }

end Simulated
end PenPlotter.Motor
