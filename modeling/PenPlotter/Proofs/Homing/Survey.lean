import PenPlotter.Proofs.Motor.Travel
import PenPlotter.Proofs.Plotter.Connected

/-! A homing pass on simulated motors. Only the motor of the leg that is run is driven, and the others rest, so that
what is read at a stall is the end of the travel to which the leg is driven. -/

namespace PenPlotter

open Motor

/-- What a leg finds on a machine whose motors count from the start of their travels. -/
def Machine.found (machine : Machine) (leg : Homing.Leg) : Raw := (machine.travel leg.axis).found leg.duty

namespace Homing

variable {R δ : Type} [Scalar R] {machine : Machine} {now : Nat} {motors : Axis → Simulated R}

/-- The motors of a machine as a pass has them that has come to a phase. -/
def Phase.Drives (machine : Machine) (motors : Axis → Simulated R) (phase : Phase) : Prop :=
  ∀ axis, match phase.activeLeg? with
    | some leg =>
      if axis = leg.axis then Simulated.Runs (machine.travel axis) leg.duty (motors axis)
      else Simulated.Rests (machine.travel axis) (motors axis)
    | none => Simulated.Rests (machine.travel axis) (motors axis)

namespace Phase.Drives

theorem rests {phase : Phase} (drives : phase.Drives machine motors) {axis : Axis}
    (free : ∀ leg, phase = .running leg → axis ≠ leg.axis) : Simulated.Rests (machine.travel axis) (motors axis) := by
  have here := drives axis
  cases phase with
  | running leg => simpa [activeLeg?,free leg rfl] using here
  | _ => exact here

theorem runs {leg : Leg} (drives : (running leg).Drives machine motors) :
    Simulated.Runs (machine.travel leg.axis) leg.duty (motors leg.axis) := by
  simpa [activeLeg?] using drives leg.axis

theorem connected {phase : Phase} (drives : phase.Drives machine motors) (axis : Axis) :
    (motors axis).connected = true := by
  have here := drives axis
  split at here
  · split at here
    · exact here.connected
    · exact here.connected
  · exact here.connected

theorem of_rests {phase : Phase} (none : phase.activeLeg? = none)
    (rests : ∀ axis, Simulated.Rests (machine.travel axis) (motors axis)) : phase.Drives machine motors := by
  intro axis
  rw [none]
  exact rests axis

end Phase.Drives

/-! What the motors make of the effects of a transition. -/

theorem heeded_resets (now : Nat) (motors : Axis → Simulated R) (axis : Axis) :
    heeded now motors (Effect.asks .resetMotors) axis = Ask.heed now (motors axis) (.command .reset) := by
  cases axis <;> simp [heeded,Effect.asks,Axis.all]

theorem heeded_startLeg (now : Nat) (motors : Axis → Simulated R) (leg : Leg) (axis : Axis) :
    heeded now motors (Effect.asks (.startLeg leg)) axis =
      if axis = leg.axis then
        Ask.heed now (Ask.heed now (Ask.heed now (motors axis) (.command (.polarity .normal)))
          (.command (.dutyCycle leg.duty))) (.command .runDirect)
      else motors axis := by
  by_cases same : axis = leg.axis
  · simp [heeded,Effect.asks,same]
  · simp [heeded,Effect.asks,same,Ne.symm same]

theorem heeded_stopMotor (now : Nat) (motors : Axis → Simulated R) (axis other : Axis) :
    heeded now motors (Effect.asks (.stopMotor axis)) other =
      if other = axis then Ask.heed now (motors other) (.command .stop) else motors other := by
  by_cases same : other = axis
  · simp [heeded,Effect.asks,same]
  · simp [heeded,Effect.asks,same,Ne.symm same]

/-- A leg that is started on motors that rest is run. -/
theorem drives_startLeg (now : Nat) (leg : Leg)
    (rests : ∀ axis, Simulated.Rests (machine.travel axis) (motors axis)) :
    (Phase.running leg).Drives machine (heeded now motors (Effect.asks (.startLeg leg))) := by
  intro axis
  rw [heeded_startLeg]
  by_cases same : axis = leg.axis
  · simpa [Phase.activeLeg?,same] using (rests leg.axis).launch leg.duty now
  · simpa [Phase.activeLeg?,same] using rests axis

theorem Leg.duty_ne_zero (leg : Leg) : leg.duty ≠ 0 := by cases leg <;> decide

omit [Scalar R] in
theorem isStalled_report (m : Simulated R) (direct : m.drive = .direct) : m.report.isStalled = m.stalled := by
  unfold Simulated.report
  rw [direct]
  cases m.stalled <;> decide +kernel

variable [Display δ] {p : Plotter (Simulated R) δ}

/-- A look at a leg finds it running, or stalled at the end of the travel. -/
theorem Phase.Drives.look [Scalar.Lawful R] {leg : Leg} (drives : (Phase.running leg).Drives machine p.motor)
    (unpressed : p.confirmed now = false) :
    let m := (p.motor leg.axis).advance now
    ((Phase.running leg).stall? now p = none ∧ Simulated.Runs (machine.travel leg.axis) leg.duty m ∨
      (Phase.running leg).stall? now p = some (leg,machine.found leg) ∧
        Simulated.Stopped (machine.travel leg.axis) leg.duty m) ∧
    ∀ axis, heeded now p.motor ((Phase.running leg).asks now p) axis =
      if axis = leg.axis then (p.motor axis).advance now else p.motor axis := by
  have runs := drives.runs
  have direct : ((p.motor leg.axis).advance now).drive = .direct := by
    rcases runs.advance leg.duty_ne_zero now with later | later <;> exact later.drive
  have told : Motor.state now (p.motor leg.axis) =
      .ok ((p.motor leg.axis).advance now).report ((p.motor leg.axis).advance now) := by
    simp [Motor.state,Simulated.state,runs.connected]
  have read : Motor.position now ((p.motor leg.axis).advance now) =
      .ok ((p.motor leg.axis).advance now).encoder ((p.motor leg.axis).advance now) := by
    simp [Motor.position,Simulated.position,runs.connected]
  refine ⟨?_,fun axis => ?_⟩
  · unfold Phase.stall?
    simp only [Phase.activeLeg?,unpressed,Bool.false_eq_true,↓reduceIte,told,read,isStalled_report _ direct]
    rcases runs.advance leg.duty_ne_zero now with later | later
    · exact .inl ⟨by simp [later.unstalled],later⟩
    · exact .inr ⟨by simp [later.stalled,later.encoder,Machine.found],later⟩
  · have asked : (Phase.running leg).asks now p =
        (leg.axis,.state) ::
          if ((p.motor leg.axis).advance now).report.isStalled then [(leg.axis,.position)] else [] := by
      simp [Phase.asks,Phase.activeLeg?,unpressed,Leg.asks,told]
    rw [asked]
    by_cases same : axis = leg.axis
    · subst same
      split <;> simp [heeded,Ask.heed]
    · rw [if_neg same]
      split <;> simp [heeded,Ne.symm same]

/-- The motors of a pass after a transition are as the next phase has them. -/
theorem Phase.Step.drives [Scalar.Lawful R] {phase next : Phase} {effects : List Effect}
    (step : phase.Step (phase.sight now p) next effects) (going : next.isTerminal = false)
    (drives : phase.Drives machine p.motor)
    (fresh : phase = .start → ∀ axis,
      (p.motor axis).carriage = Scalar.ofInt (machine.travel axis).start.ticks) :
    next.Drives machine (heeded now p.motor (phase.asks now p ++ effects.flatMap Effect.asks)) ∧
      ∀ leg stalledAt, phase.stall? now p = some (leg,stalledAt) → stalledAt = machine.found leg := by
  have unwatched (none : phase.activeLeg? = none) :
      phase.asks now p = [] ∧
        ∀ leg stalledAt, phase.stall? now p = some (leg,stalledAt) → stalledAt = machine.found leg := by
    refine ⟨by simp [Phase.asks,none],fun leg stalledAt found => ?_⟩
    rw [Phase.stall?_leg found] at none
    cases none
  cases step with
  | ended terminal => simp [going] at terminal
  | dismissed | refused | cancelled => cases going
  | waited => exact ⟨drives,(unwatched rfl).2⟩
  | reported => exact ⟨.of_rests rfl fun axis => drives.rests (by simp),(unwatched rfl).2⟩
  | begun =>
    refine ⟨?_,(unwatched rfl).2⟩
    have asked : Phase.start.asks now p ++ [Effect.resetMotors,.startLeg .toolUp].flatMap Effect.asks =
        Effect.asks .resetMotors ++ Effect.asks (.startLeg .toolUp) := rfl
    rw [asked,heeded_append]
    refine drives_startLeg now .toolUp fun axis => ?_
    rw [heeded_resets]
    exact (drives.rests (by simp)).reset (fresh rfl axis) now
  | lowered => exact ⟨drives_startLeg now .toolDown fun axis => drives.rests (by simp),(unwatched rfl).2⟩
  | @watched leg _ unpressed unstalled =>
    obtain ⟨seen,motors⟩ := drives.look unpressed
    rcases seen with ⟨none,runs⟩ | ⟨some,_⟩
    · refine ⟨fun axis => ?_,by simp [none]⟩
      rw [List.flatMap_nil,List.append_nil,motors]
      by_cases same : axis = leg.axis
      · subst same
        simpa [Phase.activeLeg?] using runs
      · simpa [Phase.activeLeg?,same] using drives axis
    · simp [Phase.sight,some] at unstalled
  | @stalled stalledAt leg _ position unpressed seenAt _ =>
    obtain ⟨seen,motors⟩ := drives.look unpressed
    rcases seen with ⟨none,_⟩ | ⟨some,stopped⟩
    · simp [Phase.sight,none] at seenAt
    refine ⟨?_,by simp only [some]; rintro _ _ ⟨⟩; rfl⟩
    -- Once its motor is stopped all motors rest.
    have rests (axis : Axis) : Simulated.Rests (machine.travel axis) (heeded now
        (heeded now p.motor ((Phase.running leg).asks now p)) (Effect.asks (.stopMotor leg.axis)) axis) := by
      rw [heeded_stopMotor,motors]
      by_cases same : axis = leg.axis
      · subst same
        simpa using stopped.toPlaced.stop stopped.stopAction (Simulated.advance_advance _ now)
      · simpa [Phase.activeLeg?,same] using drives axis
    have asked :
        (Effect.record leg.limit position :: .stopMotor leg.axis :: (Phase.afterLeg leg).2).flatMap Effect.asks =
        Effect.asks (.stopMotor leg.axis) ++ (Phase.afterLeg leg).2.flatMap Effect.asks := rfl
    rw [asked,heeded_append,heeded_append]
    have started (next : Leg) := drives_startLeg now next rests
    cases leg with
    | toolUp => exact started .xLeft
    | xLeft => exact started .xRight
    | xRight => exact started .yMin
    | yMin => exact started .yMax
    | yMax | toolDown => exact .of_rests rfl rests

theorem Phase.Step.ne_start {phase next : Phase} {seen : Observation} {effects : List Effect}
    (step : phase.Step seen next effects) (alive : phase.isTerminal = false) : next ≠ .start := by
  cases step with
  | ended terminal => simp [alive] at terminal
  | @stalled _ leg => cases leg <;> nofun
  | _ => nofun

/-- A pass that has read the ends of the travels, with the motors that it drives. -/
structure Surveys (machine : Machine) (pass : Pass) (p : Plotter (Simulated R) δ) : Prop where
  measured : ∃ readings, pass.Measured readings ∧
    ∀ leg stalledAt, (leg, stalledAt) ∈ readings → stalledAt = machine.found leg
  drives : pass.phase.Drives machine p.motor
  fresh : pass.phase = .start → ∀ axis,
    (p.motor axis).carriage = Scalar.ofInt (machine.travel axis).start.ticks

end Homing

/-- A calibration that tells where the ends of the travels of a machine are. -/
def Calibration.Fits (machine : Machine) (c : Calibration) : Prop :=
  ∀ leg : Homing.Leg, (c.get leg.limit).ticks = (machine.found leg).ticks + leg.compensation

theorem Calibration.ReadFrom.fits {machine : Machine} {c : Calibration} {readings : List (Homing.Leg × Raw)}
    (read : c.ReadFrom readings)
    (found : ∀ leg stalledAt, (leg,stalledAt) ∈ readings → stalledAt = machine.found leg) : c.Fits machine := by
  intro leg
  obtain ⟨other,stalledAt,inside,same,moved⟩ := read.limits leg.limit
  obtain rfl := Homing.Leg.limit_injective same
  rw [moved,found _ _ inside]

namespace Homing.Surveys

variable {R δ : Type} [Scalar R] [Scalar.Lawful R] [Display δ] {machine : Machine} {pass : Pass} {now : Nat}
variable {p p' : Plotter (Simulated R) δ} {made : Progress Pass (Except Fault Calibration)}

omit [Scalar.Lawful R] [Display δ] in
theorem connected (surveys : Surveys machine pass p) : p.Connected := surveys.drives.connected

/-- A look goes on with the survey or ends it with a calibration that fits, unless the pass fails. -/
theorem look (surveys : Surveys machine pass p) (ran : pass.poll now p = .ok made p') :
    match made with
    | .again _ next => Surveys machine next p'
    | .done (.ok c) => c.Fits machine ∧ ∀ axis, Simulated.Rests (machine.travel axis) (p'.motor axis)
    | .done (.error _) => True
    | .dropped => False := by
  obtain ⟨readings,measured,found⟩ := surveys.measured
  have motors := (pass.poll_connected now surveys.connected).1
  unfold Plotter.left at motors
  rw [ran] at motors
  obtain ⟨phase,effects,step,told,asked⟩ := Pass.asks_of_ok ran
  rw [asked] at motors
  rcases measured.look ran with ⟨fault,rfl⟩ | ⟨rfl,closing⟩ | ⟨delay,next,rfl,after⟩
  · trivial
  · have whole : pass.phase.done = Leg.all := by rw [closing]; rfl
    refine ⟨(Pass.Measured.readFrom measured whole).fits found,fun axis => ?_⟩
    have quiet : pass.phase.asks now p ++ effects.flatMap Effect.asks = [] := by
      rw [closing] at step ⊢
      cases step <;> rfl
    rw [quiet] at motors
    rw [show p'.motor = p.motor from motors]
    exact surveys.drives.rests (by simp [closing])
  · obtain ⟨same,going⟩ := Pass.progress_again told.symm
    obtain ⟨drives,stalls⟩ := step.drives going surveys.drives surveys.fresh
    refine ⟨⟨_,after,fun leg stalledAt inside => ?_⟩,?_,?_⟩
    · rcases List.mem_append.mp inside with earlier | last
      · exact found leg stalledAt earlier
      · exact stalls leg stalledAt (Option.mem_toList.mp last)
    · rw [same,show p'.motor = _ from motors]
      exact drives
    · rw [same]
      exact fun start => absurd start (step.ne_start measured.alive)

end Homing.Surveys
end PenPlotter
