import PenPlotter.Proofs.Session.FirstHome

/-! How a session begins with settings that were found valid. It begins indeed, and its motors rest at the starts
of their travels. -/

namespace PenPlotter

open Motor

namespace Settings

/-- What valid settings have for a session. -/
structure Sound (settings : Settings) : Prop where
  goSpeed : 0 < settings.motion.goSpeed
  goPoll : 0 < settings.motion.goPoll
  homingPoll : 0 < settings.motion.homingPoll
  ticksPerDuty : isPositive settings.machine.ticksPerDuty = true
  travel : ∀ axis, (settings.machine.travel axis).Sound

theorem demand_eq_nil {condition : Bool} {flaw : Flaw} : demand condition flaw = [] ↔ condition = true := by
  cases condition <;> simp [demand]

theorem travelFlaws_eq_nil {axis : Axis} {travel : Travel} : travelFlaws axis travel = [] ↔ travel.Sound := by
  simp only [travelFlaws,List.append_eq_nil_iff,demand_eq_nil,decide_eq_true_eq,Bool.and_eq_true,Position.lt_def,
    Position.le_def]
  exact ⟨fun ⟨ordered,above,below⟩ => ⟨ordered,above,below⟩,fun sound => ⟨sound.ordered,sound.above,sound.below⟩⟩

theorem sound_of_validate {settings : Settings} (valid : settings.validate = .ok ()) : settings.Sound := by
  have none := settings.validate_eq_ok_iff.mp valid
  simp only [flaws,List.append_eq_nil_iff,demand_eq_nil,decide_eq_true_eq,List.flatMap_eq_nil_iff,
    travelFlaws_eq_nil] at none
  obtain ⟨⟨⟨⟨⟨⟨⟨⟨goSpeed,goPoll⟩,homingPoll⟩,_⟩,_⟩,_⟩,ticksPerDuty⟩,travel⟩,_⟩ := none
  exact ⟨goSpeed,goPoll,homingPoll,ticksPerDuty,fun axis => travel axis axis.mem_all⟩

end Settings

variable {R : Type} [Scalar R] {settings : Settings} {presses : List Nat} {out : Writer}

/-- A motor of a machine at power-on. -/
def Machine.motor (machine : Machine) (axis : Axis) : Simulated R where
  name := axis.label
  lower := (machine.travel axis).lower
  upper := (machine.travel axis).upper
  ticksPerDuty := Scalar.ofFloat machine.ticksPerDuty
  connected := machine.isConnected axis
  carriage := Scalar.ofInt (machine.travel axis).start.ticks
  encoderZero := Scalar.ofInt (machine.travel axis).start.ticks
  updated := 0

namespace Session

theorem powerOn_eq_motor {machine : Machine} {axis : Axis} (sound : (machine.travel axis).Sound) :
    powerOn machine axis = .ok (machine.motor axis : Simulated R) := by
  have ordered : (machine.travel axis).lower ≤ (machine.travel axis).upper := Int.le_of_lt sound.ordered
  have kept : ((machine.travel axis).start.clamp _ _ ordered).ticks = (machine.travel axis).start.ticks := by
    have above := sound.above
    have below := sound.below
    rw [Position.ticks_clamp]
    omega
  simp only [powerOn,Simulated.powerOn,ordered,↓reduceDIte,kept]
  rfl

/-- The session that begins with valid settings. -/
def opening (settings : Settings) (presses : List Nat) (out : Writer) : Session R where
  plotter := {
    tool := settings.machine.motor .tool
    x := settings.machine.motor .x
    y := settings.machine.motor .y
    motion := settings.motion
    steps := settings.steps
    display := { console := Console.present mainMenu { out, autoDismiss := settings.autoDismiss }, presses } }

theorem start_eq_opening (valid : settings.validate = .ok ()) :
    start settings presses out = .ok (opening settings presses out : Session R) := by
  have sound := (Settings.sound_of_validate valid).travel
  simp only [start,powerOn_eq_motor (sound _)]
  rfl

theorem eq_opening {first : Session R} (valid : settings.validate = .ok ())
    (started : start settings presses out = .ok first) : first = opening settings presses out := by
  simpa [start_eq_opening valid,eq_comm] using started

theorem motor_opening (axis : Axis) :
    (opening settings presses out : Session R).plotter.motor axis = settings.machine.motor axis := by
  cases axis <;> rfl

theorem rests_motor [Scalar.Lawful R] (sound : settings.Sound) (connected : settings.machine.disconnected = [])
    (axis : Axis) :
    Simulated.Rests (settings.machine.travel axis) (settings.machine.motor axis : Simulated R) where
  connected := by simp [Machine.motor,Machine.isConnected,connected]
  lower := rfl
  upper := rfl
  ordered := Int.le_of_lt (sound.travel axis).ordered
  speed := Scalar.Lawful.ofFloat_pos _ sound.ticksPerDuty
  zero := rfl
  above := (Scalar.Lawful.lt_ofInt ..).trans (decide_eq_false (Int.not_lt.mpr (sound.travel axis).above))
  below := (Scalar.Lawful.lt_ofInt ..).trans (decide_eq_false (Int.not_lt.mpr (sound.travel axis).below))
  polarity := rfl
  drive := rfl
  stopAction := rfl

theorem fresh_opening [Scalar.Lawful R] (sound : settings.Sound) (connected : settings.machine.disconnected = []) :
    Fresh settings.machine (opening settings presses out : Session R).plotter where
  calibration := rfl
  rests axis := by
    rw [motor_opening]
    exact rests_motor sound connected axis
  carriage axis := by rw [motor_opening]; rfl

/-- Whenever the first homing pass of a session succeeds, what it stores tells the mechanics of the machine. -/
theorem homed_of_firstHome [Scalar.Lawful R] (valid : settings.validate = .ok ())
    (connected : settings.machine.disconnected = []) {first s : Session R} {log : List (Entry R)}
    (started : start settings presses out = .ok first) (lived : Lived first log s) {now : Nat}
    {homed : Plotter (Simulated R) Panel} (replied : firstHome log = .replied (.ok ()) now homed) :
    ∃ c, Homed settings.machine c homed := by
  obtain rfl := eq_opening valid started
  have charted := lived.charted (start_settled started).1 (fresh_opening (Settings.sound_of_validate valid) connected)
  unfold Charted at charted
  rw [replied] at charted
  exact charted rfl

end Session
end PenPlotter
