import PenPlotter.Proofs.Motor.Poised

/-! A simulated motor on trial. It is commanded and read while a clock runs, and every call is answered. A reading is
told by the motor brought up to date; a command that is accepted finds it so, too, unless it chooses a stop action. -/

namespace PenPlotter.Motor

/-- What somebody reads off a motor. -/
inductive Reading where
  | position
  | state
  /-- Where the carriage is, whatever the encoder counts from. -/
  | place
  deriving DecidableEq, Repr

/-- What a call has come to, and the motor that it leaves. -/
def Call.made {μ α : Type} (call : Call μ α) (m : μ) : Except DeviceError α × μ :=
  match call m with
  | .ok value m => (.ok value, m)
  | .error error m => (.error error, m)

structure Trial (R : Type) where
  now : Nat
  motor : Simulated R

namespace Trial

inductive Act where
  | wait (time : Nat)
  | command (command : Command)
  | read (reading : Reading)
  deriving DecidableEq, Repr

inductive Answer where
  | obeyed (made : Except DeviceError Unit)
  | position (made : Except DeviceError Raw)
  | state (made : Except DeviceError State)
  | place (place : Physical)
  deriving DecidableEq

end Trial

namespace Simulated

variable {R : Type} [Scalar R]

def read (now : Nat) (m : Simulated R) : Reading → Trial.Answer × Simulated R
  | .position =>
    let (made, m) := (position now).made m
    (.position made, m)
  | .state =>
    let (made, m) := (state now).made m
    (.state made, m)
  | .place =>
    let (place, m) := m.place now
    (.place place, m)

/-- What a motor that is up to date tells. -/
def tell (m : Simulated R) : Reading → Trial.Answer
  | .position => .position (if m.connected then .ok m.encoder else .error (.disconnected m.name))
  | .state => .state (if m.connected then .ok m.report else .error (.disconnected m.name))
  | .place => .place (.saturate (Scalar.round m.carriage))

/-- A reading brings the motor up to date, unless it is refused. -/
theorem read_eq (now : Nat) (m : Simulated R) (reading : Reading) :
    m.read now reading =
      ((m.advance now).tell reading,if m.connected = true ∨ reading = .place then m.advance now else m) := by
  have name : (m.advance now).name = m.name := congrArg Build.name (m.advance_build now)
  cases reading with
  | place => simp [read,place,tell]
  | position | state =>
    cases here : m.connected <;> simp [read,Call.made,position,state,tell,name,here]

/-- A command that is refused leaves the motor alone. -/
theorem perform_made (now : Nat) (m : Simulated R) (command : Command) :
    (perform now command).made m =
      match m.refusal? command with
      | some error => (.error error,m)
      | none => (.ok (),(if needsUpdate command then m.advance now else m).obey command) := by
  unfold Call.made perform
  cases m.refusal? command <;> rfl

theorem obey_within {m : Simulated Rat} (within : m.Within) (command : Command) : (m.obey command).Within := by
  cases command <;> exact within

/-- At power-on a motor is within its travel and has not stalled. -/
theorem powerOn_within {travel : Travel} (ordered : travel.lower ≤ travel.upper) (name : String) (ticksPerDuty : Rat)
    (connected : Bool) (now : Nat) :
    ∃ m, powerOn name travel ticksPerDuty connected now = .ok m ∧ m.Within ∧ m.updated = now ∧ m.stalled = false ∧
      m.build = ⟨name,travel.lower,travel.upper,ticksPerDuty,connected⟩ := by
  have place := Position.ticks_clamp travel.start travel.lower travel.upper ordered
  have ends : travel.lower.ticks ≤ travel.upper.ticks := ordered
  have above : travel.lower.ticks ≤ (travel.start.clamp travel.lower travel.upper ordered).ticks := by omega
  have below : (travel.start.clamp travel.lower travel.upper ordered).ticks ≤ travel.upper.ticks := by omega
  exact ⟨_,dif_pos ordered,⟨Int.cast_le.mpr above,Int.cast_le.mpr below⟩,rfl,rfl,rfl⟩

end Simulated

namespace Trial

variable {R : Type} [Scalar R]

/-- To let time pass is not answered. -/
def act (t : Trial R) : Act → Option Answer × Trial R
  | .wait time => (none, { t with now := t.now + time })
  | .command command =>
    let (made, motor) := (Simulated.perform t.now command).made t.motor
    (some (.obeyed made), { t with motor })
  | .read reading =>
    let (answer, motor) := t.motor.read t.now reading
    (some answer, { t with motor })

theorem act_read (t : Trial R) (reading : Reading) :
    t.act (.read reading) = (some ((t.motor.advance t.now).tell reading),{ t with
      motor := if t.motor.connected = true ∨ reading = .place then t.motor.advance t.now else t.motor }) := by
  simp only [act,Simulated.read_eq]

theorem act_command (t : Trial R) (command : Command) :
    t.act (.command command) =
      match t.motor.refusal? command with
      | some error => (some (.obeyed (.error error)),t)
      | none => (some (.obeyed (.ok ())),{ t with
        motor := (if Simulated.needsUpdate command then t.motor.advance t.now else t.motor).obey command }) := by
  simp only [act,Simulated.perform_made]
  cases t.motor.refusal? command <;> rfl

/-- What is answered to a row of acts. -/
def answers (t : Trial R) : List Act → List Answer
  | [] => []
  | act :: rest => (t.act act).1.toList ++ answers (t.act act).2 rest

/-- The trial after a row of acts. -/
def after (t : Trial R) (acts : List Act) : Trial R := acts.foldl (fun t act => (t.act act).2) t

theorem after_snoc (t : Trial R) (acts : List Act) (act : Act) :
    t.after (acts ++ [act]) = ((t.after acts).act act).2 := by
  simp [after]

/-- What is kept when a motor is brought up to date, and when it obeys, is kept by an act. -/
theorem act_keeps (holds : Simulated R → Prop) (advance : ∀ m now, holds m → holds (m.advance now))
    (obey : ∀ m command, holds m → holds (m.obey command)) {t : Trial R} (start : holds t.motor) (act : Act) :
    holds (t.act act).2.motor := by
  cases act with
  | wait => exact start
  | read reading =>
    rw [act_read]
    dsimp only
    split
    · exact advance _ _ start
    · exact start
  | command command =>
    rw [act_command]
    cases t.motor.refusal? command with
    | some error => exact start
    | none =>
      apply obey
      split
      · exact advance _ _ start
      · exact start

/-- It is kept by a row of acts, too. -/
theorem after_keeps (holds : Simulated R → Prop) (advance : ∀ m now, holds m → holds (m.advance now))
    (obey : ∀ m command, holds m → holds (m.obey command)) {t : Trial R} (start : holds t.motor) (acts : List Act) :
    holds (t.after acts).motor := by
  induction acts using List.reverseRecOn with
  | nil => exact start
  | append_singleton acts act ih =>
    rw [after_snoc]
    exact act_keeps holds advance obey ih act

theorem after_build (t : Trial R) (acts : List Act) : (t.after acts).motor.build = t.motor.build :=
  after_keeps (fun m => m.build = t.motor.build) (fun m now same => (m.advance_build now).trans same)
    (fun m command same => (m.obey_build command).trans same) rfl acts

theorem after_within {t : Trial Rat} (within : t.motor.Within) (acts : List Act) : (t.after acts).motor.Within :=
  after_keeps Simulated.Within (fun _ now within => Simulated.advance_within within now)
    (fun _ command within => Simulated.obey_within within command) within acts

end Trial

/-- A travel of a hundred ticks to either side of the start. -/
def shortTravel : Travel := { lower := ⟨-100,by decide,by decide⟩, upper := ⟨100,by decide,by decide⟩ }

end PenPlotter.Motor
