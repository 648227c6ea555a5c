import PenPlotter.Proofs.Homing.Calls

/-! Which motors a homing pass drives. A motor runs open-loop from the command to run until it is stopped.
The commands that a pass has given are known from its phase, so that what a look may ask is decided there. -/

namespace PenPlotter

/-- What a row of calls has come to. -/
structure Driving where
  /-- Axes whose motors were reset. -/
  reset : List Axis := []
  /-- Axes whose motors were told to run and not stopped since. A command to run that is refused counts
  here, and a stop that is refused does not. -/
  driven : List Axis := []
  /-- The axis whose motor was told to run last. -/
  latest : Option Axis := none
  deriving DecidableEq, Repr

namespace Driving

variable {d : Driving} {call : Called} {calls more : List Called}

def hear (d : Driving) (call : Called) : Driving :=
  match call.ask with
  | .command .reset => if call.answered then { d with reset := call.axis :: d.reset } else d
  | .command .runDirect => { d with driven := call.axis :: d.driven, latest := some call.axis }
  | .command .stop =>
    if call.answered then { d with driven := d.driven.filter fun axis => axis ≠ call.axis } else d
  | _ => d

/-- A motor is run when all are reset and none is driven, and only the one that was run last is looked at.
Apart from that motors are reset, set up and stopped. -/
def Permits (d : Driving) (call : Called) : Prop :=
  match call.ask with
  | .command .runDirect => (∀ axis ∈ Axis.all, axis ∈ d.reset) ∧ d.driven = []
  | .command .reset | .command (.polarity _) | .command (.dutyCycle _) | .command .stop => True
  | .command _ => False
  | .position | .state => d.latest = some call.axis

instance (d : Driving) (call : Called) : Decidable (d.Permits call) := by
  unfold Permits
  split <;> infer_instance

/-- Every call is permitted in view of those before it. -/
def Orderly (d : Driving) (calls : List Called) : Prop :=
  Throughout (fun before call => (before.foldl hear d).Permits call) calls

@[simp] theorem orderly_nil : d.Orderly [] := Throughout.nil

@[simp] theorem orderly_cons :
    d.Orderly (call :: calls) ↔ d.Permits call ∧ (d.hear call).Orderly calls := Throughout.cons

@[simp] theorem orderly_append :
    d.Orderly (calls ++ more) ↔ d.Orderly calls ∧ (calls.foldl hear d).Orderly more := by
  simp only [Orderly,Throughout.append,List.foldl_append]

instance decidableOrderly (d : Driving) : (calls : List Called) → Decidable (d.Orderly calls)
  | [] => .isTrue orderly_nil
  | call :: rest =>
    have := decidableOrderly (d.hear call) rest
    decidable_of_iff _ orderly_cons.symm

/-- At most one motor is driven. -/
theorem Orderly.driven (orderly : d.Orderly calls) (alone : d.driven.length ≤ 1) :
    (calls.foldl hear d).driven.length ≤ 1 := by
  induction calls generalizing d with
  | nil => exact alone
  | cons call calls ih =>
    obtain ⟨permitted,later⟩ := orderly_cons.mp orderly
    refine ih later ?_
    obtain ⟨axis,ask,answered⟩ := call
    unfold hear
    split
    · split <;> exact alone
    next run =>
      subst run
      have none : d.driven = [] := permitted.2
      simp [none]
    · split
      · exact Nat.le_trans (List.length_filter_le ..) alone
      · exact alone
    · exact alone

/-- Orderly calls stay so if the last one is refused. -/
theorem Orderly.attempt {μ : Type} [Motor μ] {now : Nat} {motors : Axis → μ} {asks : List (Axis × Ask)}
    (orderly : d.Orderly (answers asks)) : d.Orderly (attempt now motors asks).1 :=
  throughout_attempt (fun _ _ _ permitted => permitted) orderly

end Driving

/-- Commands that start or stop a motor; the others only set it up. -/
def Motor.Command.isMotion : Motor.Command → Bool
  | .reset | .runDirect | .stop | .runToTarget => true
  | .polarity _ | .dutyCycle _ | .speed _ | .target _ | .stopAction _ => false

namespace Called

def isCommand (call : Called) : Bool :=
  match call.ask with
  | .command _ => true
  | .position | .state => false

def motion? (axis : Axis) (call : Called) : Option Motor.Command :=
  match call.ask with
  | .command c => if call.axis = axis ∧ c.isMotion = true then some c else none
  | .position | .state => none

/-- The commands that the motor of an axis was given to start or stop it. -/
def motions (axis : Axis) (calls : List Called) : List Motor.Command := calls.filterMap (motion? axis)

theorem hear_filter (d : Driving) (calls : List Called) :
    (calls.filter isCommand).foldl Driving.hear d = calls.foldl Driving.hear d := by
  induction calls generalizing d with
  | nil => rfl
  | cons call calls ih =>
    obtain ⟨axis,ask,answered⟩ := call
    cases ask with
    | command c => exact ih _
    | position | state => exact ih d

theorem motions_filter (axis : Axis) (calls : List Called) :
    motions axis (calls.filter isCommand) = motions axis calls := by
  unfold motions
  rw [List.filterMap_filter]
  congr 1
  funext call
  obtain ⟨_,ask,_⟩ := call
  cases ask <;> rfl

end Called

namespace Homing

variable {μ δ : Type} [Motor μ] [Display δ]

namespace Phase

/-- The commands that a pass has given which has come to a phase. -/
def past : Phase → List Called
  | .start | .closing (some _) | .failed => []
  | phase =>
    answers (Effect.asks .resetMotors) ++
      phase.done.flatMap (fun leg => answers (Effect.asks (.startLeg leg) ++ Effect.asks (.stopMotor leg.axis))) ++
      (phase.activeLeg?.map fun leg => answers (Effect.asks (.startLeg leg))).getD []

/-- What was driven by a pass which has come to a phase. -/
def driving (phase : Phase) : Driving := phase.past.foldl Driving.hear {}

theorem latest_running (leg : Leg) : (running leg).driving.latest = some leg.axis := by
  cases leg <;> rfl

/-- A transition gives the commands that lead to the next phase, and each of them is permitted. -/
theorem Step.commands {phase next : Phase} {seen : Observation} {effects : List Effect}
    (step : phase.Step seen next effects) :
    phase.driving.Orderly (answers (effects.flatMap Effect.asks)) ∧
      (next.isTerminal = false → next.past = phase.past ++ answers (effects.flatMap Effect.asks)) := by
  cases step with
  | @stalled _ leg _ position =>
    have asked : (Effect.record leg.limit position :: .stopMotor leg.axis :: (afterLeg leg).2).flatMap Effect.asks =
        (leg.axis,.command .stop) :: (afterLeg leg).2.flatMap Effect.asks := rfl
    rw [asked]
    cases leg <;> decide
  | begun | lowered | reported => decide
  | ended | waited | watched => simp [answers]
  | dismissed | refused | cancelled => simp [answers,Effect.asks,isTerminal]

/-- At a confirm nothing is asked of the motors. -/
theorem Step.confirmed_asks {phase next : Phase} {seen : Observation} {effects : List Effect}
    (step : phase.Step seen next effects) (confirm : seen.confirm = true) : effects.flatMap Effect.asks = [] := by
  cases step <;> simp_all [Effect.asks]

/-- Effects ask for nothing but commands. -/
theorem filter_asks (effects : List Effect) :
    (answers (effects.flatMap Effect.asks)).filter Called.isCommand = answers (effects.flatMap Effect.asks) := by
  induction effects with
  | nil => rfl
  | cons effect effects ih =>
    have first : (answers effect.asks).filter Called.isCommand = answers effect.asks := by
      cases effect <;> rfl
    rw [List.flatMap_cons,answers_append,List.filter_append,first,ih]

theorem asks_confirmed (phase : Phase) {now : Nat} {p : Plotter μ δ} (pressed : p.confirmed now = true) :
    phase.asks now p = [] := by
  unfold asks
  simp only [pressed,↓reduceIte]
  split <;> rfl

/-- What is read before a transition is no command, and it is read of the motor that was run last. -/
theorem asks_reads (phase : Phase) (now : Nat) (p : Plotter μ δ) :
    phase.driving.Orderly (answers (phase.asks now p)) ∧
      (answers (phase.asks now p)).filter Called.isCommand = [] := by
  unfold asks
  cases watched : phase.activeLeg? with
  | none => simp [answers]
  | some leg =>
    obtain rfl : phase = running leg := by cases phase <;> simp_all [activeLeg?]
    have latest := latest_running leg
    dsimp only
    split
    · simp [answers]
    · unfold Leg.asks
      split
      · split <;> simp [answers,Driving.Permits,Driving.hear,latest,Called.isCommand]
      · simp [answers,Driving.Permits,latest,Called.isCommand]

end Phase

namespace Pass

theorem asks_of_ok {pass : Pass} {now : Nat} {p p' : Plotter μ δ}
    {made : Progress Pass (Except Fault Calibration)} (ran : pass.poll now p = .ok made p') :
    ∃ phase effects, pass.phase.Step (pass.phase.sight now p) phase effects ∧
      made = pass.progress p.motion phase effects ∧
      pass.asks now p = pass.phase.asks now p ++ effects.flatMap Effect.asks := by
  obtain ⟨phase,effects,step,rfl⟩ := poll_ok ran
  refine ⟨phase,effects,step,rfl,?_⟩
  have next := Phase.next_eq_ok.mpr step
  rw [poll_apply] at ran
  unfold asks
  cases looked : observe pass.phase now p with
  | error => simp [looked] at ran
  | ok seen =>
    obtain rfl := observe_ok looked
    simp only [next]

/-- Every call of a look is permitted. -/
theorem calls_orderly (pass : Pass) (now : Nat) (p : Plotter μ δ) :
    pass.phase.driving.Orderly (pass.calls now p) := by
  refine Driving.Orderly.attempt ?_
  obtain ⟨reads,still⟩ := pass.phase.asks_reads now p
  have same := Called.hear_filter pass.phase.driving (answers (pass.phase.asks now p))
  rw [still] at same
  unfold asks
  rw [answers_append,Driving.orderly_append,← same]
  refine ⟨reads,?_⟩
  split
  · exact Driving.orderly_nil
  split
  · exact Driving.orderly_nil
  next made => exact (Phase.next_eq_ok.mp made).commands.1

theorem progress_again {pass next : Pass} {motion : Motion} {phase : Phase} {effects : List Effect} {delay : Nat}
    (goes : pass.progress motion phase effects = .again delay next) :
    next.phase = phase ∧ phase.isTerminal = false := by
  obtain ⟨_,rfl,going⟩ := progress_eq_again goes
  exact ⟨rfl,going⟩

/-- A look after which the pass goes on has given the commands that lead to its next phase. -/
theorem calls_again {pass next : Pass} {now delay : Nat} {p p' : Plotter μ δ}
    (ran : pass.poll now p = .ok (.again delay next) p') :
    next.phase.past = pass.phase.past ++ (pass.calls now p).filter Called.isCommand := by
  obtain ⟨phase,effects,step,made,asked⟩ := asks_of_ok ran
  obtain ⟨same,going⟩ := progress_again made.symm
  have answered : ¬ Refused (pass.calls now p) := by
    rw [(pass.poll_asks now p).2,ran]
    simp
  rw [same,step.commands.2 going,calls,attempt_answered answered,asked,answers_append,List.filter_append,
    (pass.phase.asks_reads now p).2,Phase.filter_asks,List.nil_append]

theorem calls_confirmed (pass : Pass) {now : Nat} {p : Plotter μ δ} (pressed : p.confirmed now = true) :
    pass.calls now p = [] := by
  unfold calls asks
  rw [pass.phase.asks_confirmed pressed,observe_confirmed pass.phase pressed]
  dsimp only
  split
  · rfl
  next made => rw [(Phase.next_eq_ok.mp made).confirmed_asks rfl]; rfl

end Pass
end Homing
end PenPlotter
