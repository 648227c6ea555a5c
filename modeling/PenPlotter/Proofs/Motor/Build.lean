import PenPlotter.Motor.Simulated
import PenPlotter.Proofs.Homing.Calls

/-! Simulated motors that are plugged in. They answer every call but a duty cycle out of range, and to be read
only brings them up to date. What a motor is built with never changes. -/

namespace PenPlotter

namespace Motor.Simulated

/-- What a motor is built with. -/
structure Build (R : Type) where
  name : String
  lower : Physical
  upper : Physical
  ticksPerDuty : R
  connected : Bool

variable {R : Type}

def build (m : Simulated R) : Build R := ⟨m.name, m.lower, m.upper, m.ticksPerDuty, m.connected⟩

@[simp] theorem obey_build (m : Simulated R) (command : Command) : (m.obey command).build = m.build := by
  cases command <;> rfl

/-- What a motor refuses is a matter of how it is built. -/
theorem refusal_of_build {m n : Simulated R} (same : m.build = n.build) (command : Command) :
    m.refusal? command = n.refusal? command := by
  have connected : m.connected = n.connected := congrArg Build.connected same
  have name : m.name = n.name := congrArg Build.name same
  simp only [refusal?,connected,name]

variable [Scalar R]

theorem moveTo_eq (m : Simulated R) (place : R) :
    ∃ carriage stopped, m.moveTo place = ({ m with carriage },stopped) := by
  unfold moveTo
  dsimp only
  split
  · exact ⟨_,_,rfl⟩
  · split <;> exact ⟨_,_,rfl⟩

theorem push_eq (m : Simulated R) (place : R) :
    ∃ carriage stalled, m.push place = { m with carriage, stalled } := by
  obtain ⟨carriage,stopped,moved⟩ := m.moveTo_eq place
  unfold push
  rw [moved]
  cases stopped <;> exact ⟨_,_,rfl⟩

theorem travelFor_eq (m : Simulated R) (time : Nat) :
    ∃ carriage drive stalled, m.travelFor time = { m with carriage, drive, stalled } := by
  have pushed (place : R) : ∃ carriage drive stalled, m.push place = { m with carriage, drive, stalled } := by
    obtain ⟨carriage,stalled,pushed⟩ := m.push_eq place
    exact ⟨carriage,m.drive,stalled,pushed⟩
  unfold travelFor
  dsimp only
  split
  · exact ⟨_,_,_,rfl⟩
  · exact ⟨_,_,_,rfl⟩
  · split
    · exact ⟨_,_,_,rfl⟩
    · exact pushed _
  · split
    · obtain ⟨carriage,stopped,moved⟩ := m.moveTo_eq (m.encoderZero + m.direction * Scalar.ofInt m.target.ticks)
      rw [moved]
      cases stopped <;> exact ⟨_,_,_,rfl⟩
    · exact pushed _

/-- To be brought up to date changes nothing but where the carriage is and what the motor is doing. -/
theorem advance_eq (m : Simulated R) (now : Nat) :
    ∃ carriage drive stalled, m.advance now = { m with carriage, drive, stalled, updated := now } := by
  unfold advance
  dsimp only
  split
  · exact ⟨_,_,_,rfl⟩
  · exact travelFor_eq { m with updated := now } _

@[simp] theorem advance_build (m : Simulated R) (now : Nat) : (m.advance now).build = m.build := by
  obtain ⟨_,_,_,same⟩ := m.advance_eq now
  rw [same]
  rfl

@[simp] theorem advance_connected (m : Simulated R) (now : Nat) : (m.advance now).connected = m.connected :=
  congrArg Build.connected (m.advance_build now)

theorem advance_lower (m : Simulated R) (now : Nat) : (m.advance now).lower = m.lower :=
  congrArg Build.lower (m.advance_build now)

theorem advance_upper (m : Simulated R) (now : Nat) : (m.advance now).upper = m.upper :=
  congrArg Build.upper (m.advance_build now)

theorem advance_updated (m : Simulated R) (now : Nat) : (m.advance now).updated = now := by
  obtain ⟨_,_,_,same⟩ := m.advance_eq now
  rw [same]

/-- A motor that is up to date stays as it is. -/
theorem advance_of_updated {m : Simulated R} {now : Nat} (current : m.updated = now) : m.advance now = m := by
  subst current
  simp [advance]

/-- To be brought up to date twice is nothing more. -/
@[simp] theorem advance_advance (m : Simulated R) (now : Nat) : (m.advance now).advance now = m.advance now :=
  advance_of_updated (m.advance_updated now)

end Motor.Simulated

open Motor

namespace Ask

variable {R : Type} [Scalar R] {ask : Ask} {m : Simulated R}

/-- What a motor that is plugged in does not refuse. -/
def Acceptable : Ask → Prop
  | .command (.dutyCycle percent) => -100 ≤ percent ∧ percent ≤ 100
  | _ => True

instance (ask : Ask) : Decidable ask.Acceptable := by
  unfold Acceptable
  split <;> infer_instance

/-- A motor that has done what it was asked. -/
def heed (now : Nat) (m : Simulated R) : Ask → Simulated R
  | .command c => (if Simulated.needsUpdate c then m.advance now else m).obey c
  | .position | .state => m.advance now

@[simp] theorem heed_build (now : Nat) (m : Simulated R) (ask : Ask) : (ask.heed now m).build = m.build := by
  cases ask with
  | command c =>
    unfold heed
    rw [Simulated.obey_build]
    split
    · exact m.advance_build now
    · rfl
  | position | state => exact m.advance_build now

theorem put_heed (now : Nat) (connected : m.connected = true) (acceptable : ask.Acceptable) :
    ask.put now m = (true,ask.heed now m) := by
  cases ask with
  | command c =>
    have none : m.refusal? c = none := by
      cases c with
      | dutyCycle percent =>
        simp only [Acceptable] at acceptable
        simp [Simulated.refusal?,connected,acceptable]
      | _ => simp [Simulated.refusal?,connected]
    simp [put,Motor.Call.taken,Motor.perform,Simulated.perform,none,heed]
  | position => simp [put,Motor.Call.taken,Motor.position,Simulated.position,connected,heed]
  | state => simp [put,Motor.Call.taken,Motor.state,Simulated.state,connected,heed]

end Ask

section Attempt

variable {R : Type} [Scalar R]

/-- A motor of a machine that has done what was asked of it. -/
def heeded (now : Nat) (motors : Axis → Simulated R) (asks : List (Axis × Ask)) (axis : Axis) : Simulated R :=
  asks.foldl (fun m ask => if ask.1 = axis then ask.2.heed now m else m) (motors axis)

@[simp] theorem heeded_build (now : Nat) (motors : Axis → Simulated R) (asks : List (Axis × Ask)) (axis : Axis) :
    (heeded now motors asks axis).build = (motors axis).build := by
  unfold heeded
  generalize motors axis = m
  induction asks generalizing m with
  | nil => rfl
  | cons ask asks ih =>
    rw [List.foldl_cons,ih]
    split
    · exact ask.2.heed_build now m
    · rfl

theorem heeded_append (now : Nat) (motors : Axis → Simulated R) (asks more : List (Axis × Ask)) :
    heeded now motors (asks ++ more) = heeded now (heeded now motors asks) more := by
  funext axis
  simp [heeded]

/-- Motors that are plugged in do all that they are asked. -/
theorem attempt_heeded (now : Nat) {motors : Axis → Simulated R} {asks : List (Axis × Ask)}
    (connected : ∀ axis, (motors axis).connected = true) (acceptable : ∀ ask ∈ asks, ask.2.Acceptable) :
    attempt now motors asks = (answers asks,heeded now motors asks) := by
  induction asks generalizing motors with
  | nil => rfl
  | cons first asks ih =>
    obtain ⟨axis,ask⟩ := first
    have put := ask.put_heed now (connected axis) (acceptable _ List.mem_cons_self)
    have after (other : Axis) : (setAt motors axis (ask.heed now (motors axis)) other).connected = true := by
      unfold setAt
      split
      · exact (congrArg Simulated.Build.connected (ask.heed_build now (motors axis))).trans (connected axis)
      · exact connected other
    simp only [attempt,put,↓reduceIte,ih after fun ask inside => acceptable ask (List.mem_cons_of_mem _ inside)]
    refine Prod.ext rfl (funext fun other => ?_)
    simp only [heeded,List.foldl_cons,setAt]
    by_cases same : other = axis
    · simp [same]
    · simp [same,Ne.symm same]

end Attempt

end PenPlotter
