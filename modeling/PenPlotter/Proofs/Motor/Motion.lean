import Mathlib.Data.Sign.Basic
import PenPlotter.Proofs.Motor.Stalls

/-! The law of motion of a simulated motor. However the time is divided by readings, a motor that is driven goes as far
as its velocity takes it and one that runs to a target goes straight there, and both stop at an end of the travel that
is in the way. A motor that has come to its target rests there for good. -/

namespace PenPlotter.Motor

namespace Simulated

variable {m : Simulated Rat} {place : Rat}

/-- The place within the travel that is nearest to a place. -/
def nearest (m : Simulated Rat) (place : Rat) : Rat := max m.lower.ticks (min place m.upper.ticks)

/-- An end of the travel is in the way to a place. -/
def Bars (m : Simulated Rat) (place : Rat) : Prop := place < m.lower.ticks ∨ m.upper.ticks < place

instance (m : Simulated Rat) (place : Rat) : Decidable (m.Bars place) := inferInstanceAs (Decidable (_ ∨ _))

/-- The velocity of a motor that is driven, negative if it runs downward. -/
def signedVelocity (m : Simulated Rat) : Rat := m.direction * m.duty * m.ticksPerDuty

/-- A motor that runs to its target for a length of time comes there, if nothing is in the way. -/
def Near (m : Simulated Rat) (time : Nat) : Prop := |m.goal - m.carriage| ≤ m.step time

instance (m : Simulated Rat) (time : Nat) : Decidable (m.Near time) := inferInstanceAs (Decidable (_ ≤ _))

/-- Where it comes in that time, if nothing is in the way. -/
def headed (m : Simulated Rat) (time : Nat) : Rat :=
  if m.Near time then m.goal
  else m.carriage + SignType.sign (m.goal - m.carriage) * m.step time

/-- What such a motor then tells of its state. -/
def headedState (m : Simulated Rat) (time : Nat) : State :=
  if m.Bars (m.headed time) then .runningStalled
  else if m.Near time then (if m.stopAction = .hold then .holding else .idle)
  else .running

theorem near_iff {time : Nat} : m.Near time ↔ |m.goal - m.carriage| ≤ m.step time := Iff.rfl

theorem Near.later {time later : Nat} (near : m.Near time) (le : time ≤ later) : m.Near later :=
  le_trans (near_iff.mp near) (m.step_mono le)

theorem not_bars_iff : ¬ m.Bars place ↔ (m.lower.ticks : Rat) ≤ place ∧ place ≤ m.upper.ticks := by
  rw [Bars,not_or,not_lt,not_lt]

theorem nearest_of_not_bars (free : ¬ m.Bars place) : m.nearest place = place := by
  obtain ⟨lower,upper⟩ := not_bars_iff.mp free
  rw [nearest,min_eq_left upper,max_eq_right lower]

theorem nearest_below (ordered : (m.lower.ticks : Rat) ≤ m.upper.ticks) (below : place < m.lower.ticks) :
    m.nearest place = m.lower.ticks := by
  rw [nearest,min_eq_left (below.le.trans ordered),max_eq_left below.le]

theorem nearest_beyond (ordered : (m.lower.ticks : Rat) ≤ m.upper.ticks) (beyond : m.upper.ticks < place) :
    m.nearest place = m.upper.ticks := by
  rw [nearest,min_eq_right beyond.le,max_eq_right ordered]

/-- A motor that has not stalled comes as near to a place as the travel lets it, and stalls if that is not quite there. -/
theorem push_nearest (ordered : (m.lower.ticks : Rat) ≤ m.upper.ticks) (unstalled : m.stalled = false) :
    m.push place = { m with carriage := m.nearest place, stalled := decide (m.Bars place) } := by
  by_cases barred : m.Bars place
  · rw [decide_eq_true barred]
    rcases barred with below | beyond
    · rw [push_below below,nearest_below ordered below]
    · rw [push_above ordered beyond,nearest_beyond ordered beyond]
  · obtain ⟨lower,upper⟩ := not_bars_iff.mp barred
    rw [push_inside lower upper,decide_eq_false barred,nearest_of_not_bars barred,← unstalled]

theorem arrive_nearest (ordered : (m.lower.ticks : Rat) ≤ m.upper.ticks) :
    m.arrive = if m.Bars m.goal then { m with carriage := m.nearest m.goal, stalled := true }
      else { m with carriage := m.goal, drive := m.resting, stalled := false } := by
  by_cases barred : m.Bars m.goal
  · rw [if_pos barred]
    rcases barred with below | beyond
    · rw [arrive_below below,nearest_below ordered below]
    · rw [arrive_above ordered beyond,nearest_beyond ordered beyond]
  · obtain ⟨lower,upper⟩ := not_bars_iff.mp barred
    rw [if_neg barred,arrive_inside lower upper]

/-- A motor that was just told to run at its duty cycle, after a length of time. -/
theorem travelFor_driven (within : m.Within) (driven : m.drive = .direct) (unstalled : m.stalled = false) (time : Nat) :
    let place := m.carriage + m.signedVelocity * Scalar.seconds time
    m.travelFor time = { m with carriage := m.nearest place, stalled := decide (m.Bars place) } := by
  intro place
  rw [travelFor_direct driven]
  by_cases still : m.signedVelocity = 0
  · have here : place = m.carriage := by
      show m.carriage + m.signedVelocity * _ = _
      rw [still,zero_mul,add_zero]
    have free := not_bars_iff.mpr within
    rw [here,nearest_of_not_bars free,decide_eq_false free,← unstalled]
    exact if_pos (beq_iff_eq.mpr still)
  · have moves : ¬ Scalar.isZero (m.direction * Scalar.ofInt m.duty * m.ticksPerDuty) = true :=
      fun zero => still (beq_iff_eq.mp zero)
    rw [if_neg moves]
    exact push_nearest within.ordered unstalled

theorem exact_sign {way : Rat} (far : way ≠ 0) : Scalar.sign way = SignType.sign way := by
  rcases lt_or_gt_of_ne far with down | up
  · rw [exact_sign_neg down,sign_neg down]
    rfl
  · rw [exact_sign_pos up,sign_pos up]
    rfl

/-- A motor that was just told to run to its target, after a length of time. -/
theorem travelFor_headed (within : m.Within) (running : m.drive = .toTarget) (unstalled : m.stalled = false)
    (time : Nat) :
    m.travelFor time = { m with
      carriage := m.nearest (m.headed time)
      stalled := decide (m.Bars (m.headed time))
      drive := if m.Near time ∧ ¬ m.Bars m.goal then m.resting else m.drive } := by
  rw [travelFor_toTarget running]
  by_cases near : m.Near time
  · have headed : m.headed time = m.goal := if_pos near
    rw [headed,if_pos (near_iff.mp near),arrive_nearest within.ordered]
    by_cases barred : m.Bars m.goal
    · rw [if_pos barred,if_neg (fun free => free.2 barred),decide_eq_true barred]
    · rw [if_neg barred,if_pos ⟨near,barred⟩,decide_eq_false barred,nearest_of_not_bars barred]
  · have far : m.goal - m.carriage ≠ 0 := by
      intro there
      apply near
      rw [near_iff,there,abs_zero]
      exact m.step_nonneg time
    have headed : m.headed time = m.carriage + m.step time * Scalar.sign (m.goal - m.carriage) := by
      rw [exact_sign far,mul_comm]
      exact if_neg near
    rw [if_neg (mt near_iff.mpr near),if_neg (fun free => near free.1),headed]
    exact push_nearest within.ordered unstalled

theorem report_driven (within : m.Within) (driven : m.drive = .direct) (unstalled : m.stalled = false) (time : Nat) :
    (m.travelFor time).report =
      if m.Bars (m.carriage + m.signedVelocity * Scalar.seconds time) then .runningStalled else .running := by
  rw [travelFor_driven within driven unstalled]
  simp [report,driven]

theorem report_headed (within : m.Within) (running : m.drive = .toTarget) (unstalled : m.stalled = false) (time : Nat) :
    (m.travelFor time).report = m.headedState time := by
  rw [travelFor_headed within running unstalled,headedState]
  by_cases near : m.Near time
  · have headed : m.headed time = m.goal := if_pos near
    rw [headed]
    by_cases barred : m.Bars m.goal
    · simp [report,near,barred,running]
    · by_cases hold : m.stopAction = .hold <;> simp [report,resting,near,barred,hold]
  · by_cases barred : m.Bars (m.headed time) <;> simp [report,near,barred,running]

/-- At its goal a motor reads its target. -/
theorem encoder_goal (there : m.carriage = m.goal) : m.encoder = m.target := by
  have low := m.target.min_le
  have high := m.target.le_max
  have square : m.direction * m.direction = 1 := by
    rw [direction]
    cases m.polarity with
    | normal => show ((1 : Int) : Rat) * ((1 : Int) : Rat) = 1; norm_num
    | inversed => show ((-1 : Int) : Rat) * ((-1 : Int) : Rat) = 1; norm_num
  have way : m.direction * (m.carriage - m.encoderZero) = (m.target.ticks : Rat) := by
    rw [there]
    show m.direction * (m.encoderZero + m.direction * (m.target.ticks : Rat) - m.encoderZero) = _
    rw [add_sub_cancel_left,← mul_assoc,square,one_mul]
  have whole : Scalar.round (m.direction * (m.carriage - m.encoderZero)) = m.target.ticks := by
    rw [way]
    show (Position.saturate (roundAwayFromZero (m.target.ticks : Rat)) : Physical).ticks = _
    rw [roundAwayFromZero_intCast]
    exact Position.saturate_of_mem low high
  apply Position.ext
  rw [encoder,whole]
  exact Position.saturate_of_mem low high

end Simulated

namespace Trial

variable {t s : Trial Rat} {acts more : List Act}

def Act.IsCommand : Act → Prop
  | .command _ => True
  | _ => False

/-- A trial in which some time has passed since another one, in which the motor may have been read but was not commanded. -/
structure Watched (t s : Trial Rat) : Prop where
  now : t.now ≤ s.now
  build : s.motor.build = t.motor.build
  within : s.motor.Within
  past : s.motor.updated ≤ s.now
  same : ∀ later, s.now ≤ later → s.motor.advance later = t.motor.advance later

namespace Watched

theorem refl (within : t.motor.Within) (past : t.motor.updated ≤ t.now) : Watched t t :=
  ⟨le_rfl,rfl,within,past,fun _ _ => rfl⟩

theorem act (watched : Watched t s) {act : Act} (undisturbed : ¬ act.IsCommand) : Watched t (s.act act).2 := by
  cases act with
  | command => exact absurd trivial undisturbed
  | wait time =>
    exact { watched with
      now := watched.now.trans (Nat.le_add_right _ _)
      past := watched.past.trans (Nat.le_add_right _ _)
      same := fun later after => watched.same later (le_trans (Nat.le_add_right _ _) after) }
  | read reading =>
    rw [act_read]
    by_cases reads : s.motor.connected = true ∨ reading = .place
    · rw [if_pos reads]
      exact {
        now := watched.now
        build := (s.motor.advance_build s.now).trans watched.build
        within := Simulated.advance_within watched.within s.now
        past := (s.motor.advance_updated s.now).le
        same := fun later after =>
          (Simulated.advance_advance_later watched.within watched.past after).trans (watched.same later after) }
    · rw [if_neg reads]
      exact { watched with }

theorem after (watched : Watched t s) (undisturbed : ∀ act ∈ acts, ¬ act.IsCommand) : Watched t (s.after acts) := by
  induction acts using List.reverseRecOn with
  | nil => exact watched
  | append_singleton acts act ih =>
    rw [after_snoc]
    exact (ih fun other inside => undisturbed other (List.mem_append_left _ inside)).act
      (undisturbed act (List.mem_append_right _ List.mem_cons_self))

/-- What is read at last is what the motor has come to that was left alone. -/
theorem told (watched : Watched t s) (connected : t.motor.connected = true) :
    let m := t.motor.advance s.now
    (s.act (.read .position)).1 = some (.position (.ok m.encoder)) ∧
      (s.act (.read .state)).1 = some (.state (.ok m.report)) ∧
      (s.act (.read .place)).1 = some (.place (.saturate (Scalar.round m.carriage))) := by
  simp [act_read,watched.same s.now le_rfl,Simulated.tell,connected]

end Watched

theorem act_accepted {command : Command} (accepted : t.motor.refusal? command = none)
    (update : Simulated.needsUpdate command = true) :
    (t.act (.command command)).2 = { t with motor := (t.motor.advance t.now).obey command } := by
  rw [act_command,accepted,update]
  rfl

/-- A trial whose motor was just told to run. -/
structure Begun (t : Trial Rat) (drive : Drive) : Prop where
  connected : t.motor.connected = true
  within : t.motor.Within
  drive : t.motor.drive = drive
  unstalled : t.motor.stalled = false
  current : t.motor.updated = t.now

theorem begun_after (connected : t.motor.connected = true) (within : t.motor.Within) :
    Begun (t.act (.command .runDirect)).2 .direct ∧ Begun (t.act (.command .runToTarget)).2 .toTarget := by
  have accepted (command : Command) (plain : ∀ percent, command ≠ .dutyCycle percent) :
      t.motor.refusal? command = none := by
    cases command <;> simp_all [Simulated.refusal?]
  have plugged := (t.motor.advance_connected t.now).trans connected
  have inside := Simulated.advance_within within t.now
  have current := t.motor.advance_updated t.now
  constructor
  · rw [act_accepted (accepted .runDirect (by simp)) rfl]
    exact ⟨plugged,inside,rfl,rfl,current⟩
  · rw [act_accepted (accepted .runToTarget (by simp)) rfl]
    exact ⟨plugged,inside,rfl,rfl,current⟩

namespace Begun

variable {drive : Drive}

theorem watched (begun : Begun t drive) (undisturbed : ∀ act ∈ acts, ¬ act.IsCommand) : Watched t (t.after acts) :=
  (Watched.refl begun.within begun.current.le).after undisturbed

/-- What is told later of a motor that was told to run. -/
theorem told (begun : Begun t drive) (undisturbed : ∀ act ∈ acts, ¬ act.IsCommand) (later : t.now < (t.after acts).now) :
    let last := t.after acts
    let m := t.motor.travelFor (last.now - t.now)
    (last.motor.advance last.now).carriage = m.carriage ∧
      (last.act (.read .position)).1 = some (.position (.ok m.encoder)) ∧
      (last.act (.read .state)).1 = some (.state (.ok m.report)) ∧
      (last.act (.read .place)).1 = some (.place (.saturate (Scalar.round m.carriage))) := by
  have watched := begun.watched undisturbed
  have moved := Simulated.advance_later (m := t.motor) (begun.current.le.trans_lt later)
  rw [begun.current] at moved
  have told := watched.told begun.connected
  have carriage := congrArg Simulated.carriage (watched.same _ le_rfl)
  rw [moved] at told carriage
  exact ⟨carriage,told⟩

theorem driven (begun : Begun t .direct) (undisturbed : ∀ act ∈ acts, ¬ act.IsCommand)
    (later : t.now < (t.after acts).now) :
    let last := t.after acts
    let m := t.motor
    let place := m.carriage + m.signedVelocity * Scalar.seconds (last.now - t.now)
    (last.motor.advance last.now).carriage = m.nearest place ∧
      (last.act (.read .place)).1 = some (.place (.saturate (Scalar.round (m.nearest place)))) ∧
      (last.act (.read .state)).1 = some (.state (.ok (if m.Bars place then .runningStalled else .running))) := by
  intro last m place
  obtain ⟨carriage,_,state,shown⟩ := begun.told undisturbed later
  rw [Simulated.report_driven begun.within begun.drive begun.unstalled] at state
  rw [Simulated.travelFor_driven begun.within begun.drive begun.unstalled] at carriage shown
  exact ⟨carriage,shown,state⟩

/-- Once it has come to its target a motor rests there for good. -/
theorem arrived (begun : Begun t .toTarget) (undisturbed : ∀ act ∈ acts, ¬ act.IsCommand)
    (later : t.now < (t.after acts).now) (free : ¬ t.motor.Bars t.motor.goal)
    (near : t.motor.Near ((t.after acts).now - t.now)) :
    ((t.after acts).act (.read .position)).1 = some (.position (.ok t.motor.target)) ∧
      ((t.after acts).act (.read .state)).1 =
        some (.state (.ok (if t.motor.stopAction = .hold then .holding else .idle))) := by
  obtain ⟨_,position,state,_⟩ := begun.told undisturbed later
  have headed : t.motor.headed ((t.after acts).now - t.now) = t.motor.goal := if_pos near
  constructor
  · have moved := Simulated.travelFor_headed begun.within begun.drive begun.unstalled ((t.after acts).now - t.now)
    have there : (t.motor.travelFor ((t.after acts).now - t.now)).carriage = t.motor.goal := by
      rw [moved,headed]
      exact Simulated.nearest_of_not_bars free
    have read := Simulated.encoder_goal (m := t.motor.travelFor ((t.after acts).now - t.now)) (by
      rw [there,moved]
      rfl)
    rw [position,read,moved]
  · rw [state,Simulated.report_headed begun.within begun.drive begun.unstalled,Simulated.headedState,headed,if_neg free,
      if_pos near]

theorem headed (begun : Begun t .toTarget) (undisturbed : ∀ act ∈ acts, ¬ act.IsCommand)
    (later : t.now < (t.after acts).now) :
    let last := t.after acts
    let m := t.motor
    let time := last.now - t.now
    (last.motor.advance last.now).carriage = m.nearest (m.headed time) ∧
      (last.act (.read .place)).1 = some (.place (.saturate (Scalar.round (m.nearest (m.headed time))))) ∧
      (last.act (.read .state)).1 = some (.state (.ok (m.headedState time))) := by
  intro last m time
  obtain ⟨carriage,_,state,shown⟩ := begun.told undisturbed later
  rw [Simulated.report_headed begun.within begun.drive begun.unstalled] at state
  rw [Simulated.travelFor_headed begun.within begun.drive begun.unstalled] at carriage shown
  exact ⟨carriage,shown,state⟩

end Begun

/-- A motor that was told to run at its duty cycle goes as far as its velocity takes it, or up to the end of its travel,
where it tells of a stall. One that was told to run to its target goes there, or as far as its speed takes it or an end
of the travel lets it; once it has come there it rests at its target for good. How often it is read makes no
difference. -/
theorem motion_follows_law (connected : t.motor.connected = true) (within : t.motor.Within)
    (undisturbed : ∀ act ∈ acts, ¬ act.IsCommand) :
    (let begun := (t.act (.command .runDirect)).2
      let last := begun.after acts
      let m := begun.motor
      let place := m.carriage + m.signedVelocity * Scalar.seconds (last.now - begun.now)
      begun.now < last.now →
        (last.motor.advance last.now).carriage = m.nearest place ∧
          (last.act (.read .place)).1 = some (.place (.saturate (Scalar.round (m.nearest place)))) ∧
          (last.act (.read .state)).1 = some (.state (.ok (if m.Bars place then .runningStalled else .running)))) ∧
    (let begun := (t.act (.command .runToTarget)).2
      let last := begun.after acts
      let m := begun.motor
      let time := last.now - begun.now
      begun.now < last.now →
        (last.motor.advance last.now).carriage = m.nearest (m.headed time) ∧
          (last.act (.read .place)).1 = some (.place (.saturate (Scalar.round (m.nearest (m.headed time))))) ∧
          (last.act (.read .state)).1 = some (.state (.ok (m.headedState time))) ∧
          (¬ m.Bars m.goal → m.Near time → ∀ more : List Act, (∀ act ∈ more, ¬ act.IsCommand) →
            ((last.after more).act (.read .position)).1 = some (.position (.ok m.target)) ∧
              ((last.after more).act (.read .state)).1 =
                some (.state (.ok (if m.stopAction = .hold then .holding else .idle))))) := by
  obtain ⟨driven,headed⟩ := begun_after connected within
  constructor
  · intro begun last m place later
    exact driven.driven undisturbed later
  · intro begun last m time later
    obtain ⟨carriage,place,state⟩ := headed.headed undisturbed later
    refine ⟨carriage,place,state,fun free near more still => ?_⟩
    -- What comes after the arrival is more of the same watching.
    have on : last.after more = begun.after (acts ++ more) := (List.foldl_append ..).symm
    have watched := headed.watched undisturbed
    have longer : last.now ≤ (last.after more).now := ((Watched.refl watched.within watched.past).after still).now
    have quiet : ∀ act ∈ acts ++ more, ¬ act.IsCommand := by
      intro act inside
      rcases List.mem_append.mp inside with earlier | later
      · exact undisturbed act earlier
      · exact still act later
    rw [on] at longer ⊢
    exact headed.arrived quiet (later.trans_le longer) free (near.later (Nat.sub_le_sub_right longer _))

/-- A motor that counts downward from half a tick above 0 and has left its start. -/
def turnedMotor : Simulated Rat where
  name := "x"
  lower := shortTravel.lower
  upper := shortTravel.upper
  ticksPerDuty := 10
  connected := true
  carriage := 50
  encoderZero := 1 / 2
  updated := 0
  duty := 50
  speed := -100
  target := ⟨30,by decide,by decide⟩
  polarity := .inversed
  stopAction := .hold

/-- It is watched for a second. -/
def glances : List Act := [.wait 300000000,.read .state,.wait 700000000]

/-- Driven downward it stalls at the lower end; sent to its target it comes there and stays. -/
theorem turned_motor_moves :
    let driven := (act ⟨0,turnedMotor⟩ (.command .runDirect)).2.after glances
    let sent := (act ⟨0,turnedMotor⟩ (.command .runToTarget)).2.after glances
    turnedMotor.connected = true ∧ turnedMotor.Within ∧ (∀ act ∈ glances, ¬ act.IsCommand) ∧
      (driven.act (.read .place)).1 = some (.place shortTravel.lower) ∧
      (driven.act (.read .state)).1 = some (.state (.ok .runningStalled)) ∧
      (sent.motor.advance sent.now).carriage = -59 / 2 ∧
      ∀ time,
        ((sent.after [.wait time]).act (.read .position)).1 = some (.position (.ok ⟨30,by decide,by decide⟩)) ∧
          ((sent.after [.wait time]).act (.read .state)).1 = some (.state (.ok .holding)) := by
  intro onward sent
  have connected : turnedMotor.connected = true := rfl
  have within : turnedMotor.Within := by unfold Simulated.Within; decide +kernel
  have undisturbed : ∀ act ∈ glances, ¬ act.IsCommand := by simp [glances,Act.IsCommand]
  obtain ⟨driven,headed⟩ := motion_follows_law (t := ⟨0,turnedMotor⟩) connected within undisturbed
  obtain ⟨_,place,state⟩ := driven (by decide +kernel)
  obtain ⟨carriage,_,_,rests⟩ := headed (by decide +kernel)
  refine ⟨connected,within,undisturbed,place.trans ?_,state.trans ?_,carriage.trans ?_,fun time => ?_⟩
  · decide +kernel
  · decide +kernel
  · decide +kernel
  · obtain ⟨position,state⟩ := rests (by decide +kernel) (by decide +kernel) [.wait time] (by simp [Act.IsCommand])
    exact ⟨position,state⟩

end Trial
end PenPlotter.Motor
