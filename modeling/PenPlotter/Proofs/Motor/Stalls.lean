import PenPlotter.Proofs.Motor.Trial

/-! Stalls of a simulated motor. A motor stalls nowhere but at an end of its travel, and it stays there as long as it is
not sent elsewhere. To be sent elsewhere while it runs does not end the stall, though: a motor that was not started or
stopped since goes on to tell of it wherever its carriage has gone. -/

namespace PenPlotter.Motor

namespace Simulated

variable {m : Simulated Rat} {now : Nat}

/-- The way that a motor would go: its velocity, or what is left of its way to its target. -/
def heading (m : Simulated Rat) : Rat :=
  match m.drive with
  | .idle | .holding => 0
  | .direct => m.direction * Scalar.ofInt m.duty * m.ticksPerDuty
  | .toTarget => m.goal - m.carriage

/-- The motor would go beyond the end of the travel at which its carriage is. -/
def Pushes (m : Simulated Rat) : Prop :=
  m.carriage = m.upper.ticks ∧ 0 < m.heading ∨ m.carriage = m.lower.ticks ∧ m.heading < 0

theorem heading_direct (direct : m.drive = .direct) :
    m.heading = m.direction * Scalar.ofInt m.duty * m.ticksPerDuty := by
  simp [heading,direct]

theorem heading_toTarget (running : m.drive = .toTarget) : m.heading = m.goal - m.carriage := by
  simp [heading,running]

/-- The motor once it has stalled at a place. -/
def halted (m : Simulated Rat) (place : Physical) : Simulated Rat :=
  { m with carriage := (place.ticks : Rat), stalled := true }

/-- A motor that has not stalled before a push stalls in it at the end of the travel to which it goes. -/
theorem push_stalls (within : m.Within) {way : Rat} (stalled : (m.push (m.carriage + way)).stalled = true) :
    m.stalled = true ∨
      m.push (m.carriage + way) = m.halted m.upper ∧ m.upper.ticks < m.carriage + way ∨
      m.push (m.carriage + way) = m.halted m.lower ∧ m.carriage + way < m.lower.ticks := by
  rcases lt_or_ge (m.carriage + way) m.lower.ticks with below | above
  · exact .inr (.inr ⟨push_below below,below⟩)
  rcases lt_or_ge (m.upper.ticks : Rat) (m.carriage + way) with beyond | inside
  · exact .inr (.inl ⟨push_above within.ordered beyond,beyond⟩)
  · rw [push_inside above inside] at stalled
    exact .inl stalled

theorem direct_stalls (within : m.Within) (direct : m.drive = .direct) (time : Nat)
    (stalled : (m.travelFor time).stalled = true) : m.stalled = true ∨ (m.travelFor time).Pushes := by
  have forward : (0 : Rat) ≤ Scalar.seconds time := seconds_nonneg time
  obtain ⟨lower,upper⟩ := within
  have way (place : Physical) : (m.halted place).heading = m.direction * Scalar.ofInt m.duty * m.ticksPerDuty :=
    heading_direct (m := m.halted place) direct
  rw [travelFor_direct direct] at stalled ⊢
  split at stalled
  · exact .inl stalled
  next moves =>
    rw [if_neg moves]
    refine (push_stalls ⟨lower,upper⟩ stalled).imp_right ?_
    rintro (⟨pushed,beyond⟩ | ⟨pushed,below⟩)
    · rw [pushed]
      refine .inl ⟨rfl,?_⟩
      rw [way]
      exact pos_of_mul_pos_left (by linarith) forward
    · rw [pushed]
      refine .inr ⟨rfl,?_⟩
      rw [way]
      exact neg_of_mul_neg_left (by linarith) forward

/-- A step toward a goal does not lead beyond it. -/
theorem exact_step_between {step way : Rat} (forward : 0 ≤ step) (far : step < |way|) :
    0 ≤ step * Scalar.sign way ∧ step * Scalar.sign way < way ∨
      way < step * Scalar.sign way ∧ step * Scalar.sign way ≤ 0 := by
  rcases exact_sign_cases (forward.trans_lt far) with ⟨sign,size⟩ | ⟨sign,size⟩
  · rw [sign,mul_one,← size]
    exact .inl ⟨forward,far⟩
  · rw [sign,mul_neg_one]
    exact .inr ⟨by linarith,by linarith⟩

theorem toTarget_stalls (within : m.Within) (running : m.drive = .toTarget) (time : Nat)
    (stalled : (m.travelFor time).stalled = true) :
    m.stalled = true ∨
      m.travelFor time = m.halted m.upper ∧ m.upper.ticks < m.goal ∨
      m.travelFor time = m.halted m.lower ∧ m.goal < m.lower.ticks := by
  rw [travelFor_toTarget running] at stalled ⊢
  by_cases close : |m.goal - m.carriage| ≤ m.step time
  · rw [if_pos close] at stalled ⊢
    rcases lt_or_ge m.goal m.lower.ticks with below | above
    · exact .inr (.inr ⟨arrive_below below,below⟩)
    rcases lt_or_ge (m.upper.ticks : Rat) m.goal with beyond | inside
    · exact .inr (.inl ⟨arrive_above within.ordered beyond,beyond⟩)
    · rw [arrive_inside above inside] at stalled
      exact absurd stalled nofun
  · rw [if_neg close] at stalled ⊢
    -- The target is farther away than a step that leads beyond an end.
    have between := exact_step_between (m.step_nonneg time) (not_le.mp close)
    obtain ⟨lower,upper⟩ := within
    refine (push_stalls ⟨lower,upper⟩ stalled).imp_right (Or.imp ?_ ?_)
    · rintro ⟨pushed,beyond⟩
      exact ⟨pushed,by rcases between with ⟨_,_⟩ | ⟨_,_⟩ <;> linarith⟩
    · rintro ⟨pushed,below⟩
      exact ⟨pushed,by rcases between with ⟨_,_⟩ | ⟨_,_⟩ <;> linarith⟩

theorem travelFor_stalls (within : m.Within) (time : Nat) (stalled : (m.travelFor time).stalled = true) :
    m.stalled = true ∨ (m.travelFor time).Pushes := by
  cases drive : m.drive with
  | idle =>
    rw [travelFor_resting (.inl drive)] at stalled
    exact .inl stalled
  | holding =>
    rw [travelFor_resting (.inr drive)] at stalled
    exact .inl stalled
  | direct => exact direct_stalls within drive time stalled
  | toTarget =>
    have left (place : Physical) := heading_toTarget (m := m.halted place) drive
    refine (toTarget_stalls within drive time stalled).imp_right ?_
    rintro (⟨halted,beyond⟩ | ⟨halted,below⟩)
    · rw [halted]
      refine .inl ⟨rfl,?_⟩
      rw [left]
      exact sub_pos.mpr beyond
    · rw [halted]
      refine .inr ⟨rfl,?_⟩
      rw [left]
      exact sub_neg.mpr below

/-- A motor that has stalled and pushes on stays where it is. -/
theorem travelFor_pushing (within : m.Within) (stalled : m.stalled = true) (pushes : m.Pushes) (time : Nat) :
    m.travelFor time = m := by
  cases drive : m.drive with
  | idle => exact travelFor_resting (.inl drive) time
  | holding => exact travelFor_resting (.inr drive) time
  | direct =>
    have forward : (0 : Rat) ≤ Scalar.seconds time := seconds_nonneg time
    rw [travelFor_direct drive]
    split
    · rfl
    · apply push_stuck within.ordered stalled
      unfold Pushes at pushes
      rw [heading_direct drive] at pushes
      exact pushes.imp (And.imp_right fun up => mul_nonneg up.le forward)
        (And.imp_right fun down => mul_nonpos_of_nonpos_of_nonneg down.le forward)
  | toTarget =>
    apply travelFor_stuck drive within.ordered stalled
    unfold Pushes at pushes
    rw [heading_toTarget drive] at pushes
    exact pushes.imp (fun ⟨here,up⟩ => ⟨here,by linarith⟩) fun ⟨here,down⟩ => ⟨here,by linarith⟩

/-- A motor that has stalled as time went by pushes against an end of its travel, unless it had stalled before. -/
theorem advance_stalls (within : m.Within) (stalled : (m.advance now).stalled = true) :
    m.stalled = true ∨ (m.advance now).Pushes := by
  rcases lt_or_ge m.updated now with later | past
  · rw [advance_later later] at stalled ⊢
    exact travelFor_stalls within _ stalled
  · rw [advance_past past] at stalled
    exact .inl stalled

/-- A motor that has stalled and pushes on goes on to do so. -/
theorem advance_pushes (within : m.Within) (stalled : m.stalled = true) (pushes : m.Pushes) (now : Nat) :
    (m.advance now).Pushes := by
  rcases lt_or_ge m.updated now with later | past
  · rw [advance_later later,travelFor_pushing within stalled pushes]
    exact pushes
  · rw [advance_past past]
    exact pushes

/-- Only a motor that runs tells of a stall. -/
theorem stalled_of_report (told : m.report.isStalled = true) : m.stalled = true ∧ m.report.isRunning = true := by
  have running (runs : m.report = if m.stalled = true then .runningStalled else .running) :
      m.stalled = true ∧ m.report.isRunning = true := by
    by_cases stalled : m.stalled = true
    · rw [runs,if_pos stalled]
      exact ⟨stalled,by decide +kernel⟩
    · rw [runs,if_neg stalled] at told
      exact absurd told (by decide +kernel)
  have resting (rests : m.report.isStalled = false) : m.stalled = true ∧ m.report.isRunning = true :=
    absurd (rests.symm.trans told) nofun
  cases drive : m.drive with
  | direct | toTarget => exact running (by unfold report; rw [drive])
  | holding =>
    have rests : m.report = .holding := by unfold report; rw [drive]
    exact resting (by rw [rests]; decide +kernel)
  | idle =>
    have rests : m.report = .idle := by unfold report; rw [drive]
    exact resting (by rw [rests]; rfl)

/-- The place that is read of a carriage within the travel is within the travel. -/
theorem place_within (within : m.Within) :
    m.lower ≤ .saturate (Scalar.round m.carriage) ∧ .saturate (Scalar.round m.carriage) ≤ m.upper := by
  have above := roundAwayFromZero_mono within.1
  have below := roundAwayFromZero_mono within.2
  rw [roundAwayFromZero_intCast] at above below
  have low := m.lower.min_le
  have high := m.upper.le_max
  have whole : Scalar.round m.carriage = (Position.saturate (roundAwayFromZero m.carriage) : Physical).ticks := rfl
  rw [Position.le_def,Position.le_def,whole,Position.ticks_saturate,Position.ticks_saturate]
  omega

/-- A carriage at a position is read there. -/
theorem place_of_carriage {place : Physical} (here : m.carriage = place.ticks) :
    (.saturate (Scalar.round m.carriage) : Physical) = place := by
  have low := place.min_le
  have high := place.le_max
  have whole : Scalar.round m.carriage = (Position.saturate (roundAwayFromZero m.carriage) : Physical).ticks := rfl
  rw [whole,here,roundAwayFromZero_intCast]
  refine Position.ext ?_
  rw [Position.ticks_saturate,Position.ticks_saturate]
  omega

end Simulated

namespace Trial

variable {travel : Travel} {t : Trial Rat} {acts : List Act} {m n : Simulated Rat}

/-- The act starts the motor afresh or stops it. -/
def Act.Restarts : Act → Prop
  | .command .reset | .command .runDirect | .command .stop | .command .runToTarget => True
  | _ => False

/-- The act sends the motor elsewhere than where it is going. -/
def Act.Diverts : Act → Prop
  | .command (.polarity _) | .command (.target _) => True
  | .command (.dutyCycle percent) => -100 ≤ percent ∧ percent ≤ 100
  | _ => False

/-- Whoever reads the place of the carriage finds it at an end of the travel. -/
def AtEnd (travel : Travel) (t : Trial Rat) : Prop :=
  (t.act (.read .place)).1 = some (.place travel.lower) ∨ (t.act (.read .place)).1 = some (.place travel.upper)

/-- If the motor has stalled it was at an end of the travel then, and it was not started or stopped since. If it was not
sent elsewhere either, it still pushes against the end. -/
def Explained (travel : Travel) (t : Trial Rat) (acts : List Act) (m : Simulated Rat) : Prop :=
  m.stalled = true → ∃ before after, acts = before ++ after ∧ AtEnd travel (t.after before) ∧
    (∀ act ∈ after, ¬ act.Restarts) ∧ ((∀ act ∈ after, ¬ act.Diverts) → m.Pushes)

/-- A motor that pushes against an end of its travel is read there. -/
theorem atEnd_of_pushes (lower : t.motor.lower = travel.lower) (upper : t.motor.upper = travel.upper)
    (pushes : (t.motor.advance t.now).Pushes) : AtEnd travel t := by
  unfold AtEnd
  rw [act_read]
  rcases pushes with ⟨here,_⟩ | ⟨here,_⟩
  · rw [Simulated.advance_upper,upper] at here
    exact .inr (congrArg (some ∘ Answer.place) (Simulated.place_of_carriage here))
  · rw [Simulated.advance_lower,lower] at here
    exact .inl (congrArg (some ∘ Answer.place) (Simulated.place_of_carriage here))

/-- A command that is accepted and leaves a motor stalled has not started or stopped it. -/
theorem obey_stalled {command : Command} (accepted : m.refusal? command = none)
    (stalled : (m.obey command).stalled = true) :
    m.stalled = true ∧ ¬ (Act.command command).Restarts ∧
      (¬ (Act.command command).Diverts → m.Pushes → (m.obey command).Pushes) := by
  cases command with
  | reset | runDirect | stop | runToTarget => exact absurd stalled nofun
  | speed | stopAction => exact ⟨stalled,nofun,fun _ pushes => pushes⟩
  | polarity | target => exact ⟨stalled,nofun,fun straight => absurd trivial straight⟩
  | dutyCycle percent =>
    refine ⟨stalled,nofun,fun straight => absurd ?_ straight⟩
    by_contra outside
    cases connected : m.connected <;> simp_all [Simulated.refusal?,Act.Diverts]

namespace Explained

/-- As time goes by a motor stalls at an end of the travel. -/
theorem advance (explained : Explained travel t acts (t.after acts).motor) (within : (t.after acts).motor.Within)
    (lower : (t.after acts).motor.lower = travel.lower) (upper : (t.after acts).motor.upper = travel.upper) :
    Explained travel t acts ((t.after acts).motor.advance (t.after acts).now) := by
  intro stalled
  rcases Simulated.advance_stalls within stalled with earlier | pushes
  · obtain ⟨before,after,split,met,running,straight⟩ := explained earlier
    exact ⟨before,after,split,met,running,fun sent => Simulated.advance_pushes within earlier (straight sent) _⟩
  · exact ⟨acts,[],acts.append_nil.symm,atEnd_of_pushes lower upper pushes,
      fun _ member => absurd member List.not_mem_nil,fun _ => pushes⟩

theorem snoc {act : Act} (explained : Explained travel t acts m)
    (kept : n.stalled = true → m.stalled = true ∧ ¬ act.Restarts ∧ (¬ act.Diverts → m.Pushes → n.Pushes)) :
    Explained travel t (acts ++ [act]) n := by
  intro stalled
  obtain ⟨stalled,runs,keeps⟩ := kept stalled
  obtain ⟨before,after,rfl,met,running,straight⟩ := explained stalled
  refine ⟨before,after ++ [act],List.append_assoc ..,met,?_,?_⟩
  · intro other member
    rcases List.mem_append.mp member with earlier | last
    · exact running other earlier
    · rw [List.mem_singleton.mp last]
      exact runs
  · intro sent
    have straight := straight fun other earlier => sent other (List.mem_append_left _ earlier)
    exact keeps (sent act (List.mem_append_right _ List.mem_cons_self)) straight

/-- An act that leaves the motor alone, or only brings it up to date, explains what it was explained by before. -/
theorem same {act : Act} (explained : Explained travel t acts m) (plain : ¬ act.Restarts) :
    Explained travel t (acts ++ [act]) m :=
  explained.snoc fun stalled => ⟨stalled,plain,fun _ pushes => pushes⟩

theorem act (explained : Explained travel t acts (t.after acts).motor) (connected : (t.after acts).motor.connected = true)
    (within : (t.after acts).motor.Within) (lower : (t.after acts).motor.lower = travel.lower)
    (upper : (t.after acts).motor.upper = travel.upper) (act : Act) :
    Explained travel t (acts ++ [act]) (t.after (acts ++ [act])).motor := by
  have current := explained.advance within lower upper
  rw [after_snoc]
  cases act with
  | wait time => exact explained.same nofun
  | read reading =>
    rw [act_read]
    dsimp only
    split
    · exact current.same nofun
    · exact explained.same nofun
  | command command =>
    rw [act_command]
    cases refusal : (t.after acts).motor.refusal? command with
    | some error =>
      refine explained.same fun restarts => ?_
      cases command <;> simp_all [Simulated.refusal?,Act.Restarts]
    | none =>
      dsimp only
      split
      · refine current.snoc (obey_stalled ?_)
        rw [Simulated.refusal_of_build (Simulated.advance_build _ _)]
        exact refusal
      · exact explained.snoc (obey_stalled refusal)

end Explained

theorem explained_after (within : t.motor.Within) (connected : t.motor.connected = true)
    (lower : t.motor.lower = travel.lower) (upper : t.motor.upper = travel.upper) (unstalled : t.motor.stalled = false)
    (acts : List Act) : Explained travel t acts (t.after acts).motor := by
  induction acts using List.reverseRecOn with
  | nil => exact fun stalled => absurd (unstalled.symm.trans stalled) nofun
  | append_singleton acts act ih =>
    have built := t.after_build acts
    exact ih.act ((congrArg Simulated.Build.connected built).trans connected) (after_within within acts)
      ((congrArg Simulated.Build.lower built).trans lower) ((congrArg Simulated.Build.upper built).trans upper) act

theorem read_place (within : t.motor.Within) :
    ∃ place, (t.act (.read .place)).1 = some (.place place) ∧ t.motor.lower ≤ place ∧ place ≤ t.motor.upper := by
  have inside := Simulated.place_within (Simulated.advance_within within t.now)
  rw [Simulated.advance_lower,Simulated.advance_upper] at inside
  rw [act_read]
  exact ⟨_,rfl,inside⟩

/-- A motor that tells of a stall is plugged in, runs and has stalled. -/
theorem stalled_of_state {shown : State} (told : (t.act (.read .state)).1 = some (.state (.ok shown)))
    (stalled : shown.isStalled = true) :
    t.motor.connected = true ∧ (t.motor.advance t.now).stalled = true ∧ shown.isRunning = true := by
  rw [act_read] at told
  have told := Option.some.inj told
  cases connected : t.motor.connected with
  | false => simp [Simulated.tell,connected] at told
  | true =>
    obtain rfl : (t.motor.advance t.now).report = shown := by simpa [Simulated.tell,connected] using told
    exact ⟨rfl,Simulated.stalled_of_report stalled⟩

/-- The carriage of a motor is always read within its travel. A motor that tells of a stall also tells that it runs, and
it was at an end of the travel some time after it was last started; it is there still unless it was sent elsewhere
since. -/
theorem stall_is_met_at_end {travel : Travel} (ordered : travel.lower ≤ travel.upper) (name : String)
    (ticksPerDuty : Rat) (connected : Bool) (now : Nat) :
    ∃ m, Simulated.powerOn name travel ticksPerDuty connected now = .ok m ∧
      ∀ acts : List Act,
        (∃ place, ((after ⟨now,m⟩ acts).act (.read .place)).1 = some (.place place) ∧
          travel.lower ≤ place ∧ place ≤ travel.upper) ∧
        ∀ shown, ((after ⟨now,m⟩ acts).act (.read .state)).1 = some (.state (.ok shown)) → shown.isStalled = true →
          shown.isRunning = true ∧
          ∃ before later, acts = before ++ later ∧ AtEnd travel (after ⟨now,m⟩ before) ∧
            (∀ act ∈ later, ¬ act.Restarts) ∧
            ((∀ act ∈ later, ¬ act.Diverts) → AtEnd travel (after ⟨now,m⟩ acts)) := by
  obtain ⟨m,powered,within,_,unstalled,built⟩ := Simulated.powerOn_within ordered name ticksPerDuty connected now
  refine ⟨m,powered,fun acts => ?_⟩
  have inside := after_within (t := ⟨now,m⟩) within acts
  have same := (after_build ⟨now,m⟩ acts).trans built
  have lower : (after ⟨now,m⟩ acts).motor.lower = travel.lower := congrArg Simulated.Build.lower same
  have upper : (after ⟨now,m⟩ acts).motor.upper = travel.upper := congrArg Simulated.Build.upper same
  constructor
  · have placed := read_place inside
    rwa [lower,upper] at placed
  · intro shown told stalls
    obtain ⟨plugged,stalled,running⟩ := stalled_of_state told stalls
    have plugged : m.connected = true :=
      (congrArg Simulated.Build.connected (after_build ⟨now,m⟩ acts)).symm.trans plugged
    have explained := explained_after (t := ⟨now,m⟩) within plugged (congrArg Simulated.Build.lower built)
      (congrArg Simulated.Build.upper built) unstalled acts
    obtain ⟨before,later,split,met,kept,straight⟩ := explained.advance inside lower upper stalled
    exact ⟨running,before,later,split,met,kept,fun sent => atEnd_of_pushes lower upper (straight sent)⟩

/-- A motor that is driven to the end of its travel. -/
def drivenRun : List Act := [.command (.dutyCycle 50),.command .runDirect,.wait 1000000000,.read .state]

theorem driven_motor_stalls :
    shortTravel.lower ≤ shortTravel.upper ∧
      ∃ m, Simulated.powerOn "x" shortTravel (10 : Rat) true 0 = .ok m ∧
        ((after ⟨0,m⟩ drivenRun).act (.read .state)).1 = some (.state (.ok .runningStalled)) ∧
        State.runningStalled.isStalled = true ∧ State.runningStalled.isRunning = true ∧
        ∃ before later, drivenRun = before ++ later ∧ AtEnd shortTravel (after ⟨0,m⟩ before) ∧
          (∀ act ∈ later, ¬ act.Restarts) ∧
          ((∀ act ∈ later, ¬ act.Diverts) → AtEnd shortTravel (after ⟨0,m⟩ drivenRun)) := by
  have ordered : shortTravel.lower ≤ shortTravel.upper := by decide
  obtain ⟨m,powered,tells⟩ := stall_is_met_at_end ordered "x" (10 : Rat) true 0
  have shown : ((after ⟨0,m⟩ drivenRun).act (.read .state)).1 = some (.state (.ok .runningStalled)) := by
    obtain rfl := Except.ok.inj powered
    decide +kernel
  have stalled : State.runningStalled.isStalled = true := by decide +kernel
  exact ⟨ordered,m,powered,shown,stalled,(tells drivenRun).2 _ shown stalled⟩

/-- Driven back from there, the motor goes on to tell of the stall on its way. -/
theorem stall_outlives_return :
    ¬ ∀ (travel : Travel) (name : String) (ticksPerDuty : Rat) (connected : Bool) (now : Nat) (m : Simulated Rat),
      travel.lower ≤ travel.upper → 0 < ticksPerDuty →
        Simulated.powerOn name travel ticksPerDuty connected now = .ok m →
          ∀ (acts : List Act) (shown : State),
            ((after ⟨now,m⟩ acts).act (.read .state)).1 = some (.state (.ok shown)) → shown.isStalled = true →
              shown.isRunning = true ∧ AtEnd travel (after ⟨now,m⟩ acts) := by
  intro claimed
  have real := claimed shortTravel "x" 10 true 0 _ (by decide) (by norm_num) rfl
    (drivenRun ++ [.command (.dutyCycle (-50)),.wait 100000000]) .runningStalled (by decide +kernel) (by decide +kernel)
  rcases real.2 with lower | upper
  · revert lower
    decide +kernel
  · revert upper
    decide +kernel

end Trial
end PenPlotter.Motor
