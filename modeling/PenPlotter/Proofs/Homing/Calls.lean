import PenPlotter.Proofs.History
import PenPlotter.Proofs.Homing.Look

/-! The calls of a look at a homing pass, in the order in which the motors get them. What a look would ask
of the motors follows from what it sees; it asks one thing after the other and breaks off at the first
refusal. -/

namespace PenPlotter

/-- What a motor is asked: to obey a command or to tell something. -/
inductive Ask where
  | command (command : Motor.Command)
  | position
  | state
  deriving DecidableEq, Repr

structure Called where
  axis : Axis
  ask : Ask
  answered : Bool
  deriving DecidableEq, Repr

variable {μ δ α β : Type}

/-- Whether a call to a motor is answered, and what it leaves of the motor. -/
def Motor.Call.taken (call : Motor.Call μ α) (m : μ) : Bool × μ :=
  match call m with
  | .ok _ m => (true, m)
  | .error _ m => (false, m)

def Ask.put [Motor μ] (now : Nat) (m : μ) : Ask → Bool × μ
  | .command c => Motor.Call.taken (Motor.perform now c) m
  | .position => Motor.Call.taken (Motor.position now) m
  | .state => Motor.Call.taken (Motor.state now) m

/-- The motors with another one at an axis. -/
def setAt (motors : Axis → μ) (axis : Axis) (m : μ) (other : Axis) : μ :=
  if other = axis then m else motors other

theorem Plotter.motor_setMotor (p : Plotter μ δ) (axis : Axis) (m : μ) :
    (p.setMotor axis m).motor = setAt p.motor axis m := by
  funext other
  by_cases same : other = axis
  · subst same
    simp [setAt]
  · simp [setAt,same]

/-- Asks one thing after the other, up to the first that is refused. -/
def attempt [Motor μ] (now : Nat) (motors : Axis → μ) : List (Axis × Ask) → List Called × (Axis → μ)
  | [] => ([], motors)
  | (axis, ask) :: rest =>
    let (answered, m) := ask.put now (motors axis)
    let motors := setAt motors axis m
    if answered then
      let (calls, motors) := attempt now motors rest
      (⟨axis, ask, true⟩ :: calls, motors)
    else ([⟨axis, ask, false⟩], motors)

def Refused (calls : List Called) : Prop := ∃ call ∈ calls, call.answered = false

@[simp] theorem not_refused_nil : ¬ Refused [] := by simp [Refused]

@[simp] theorem refused_cons (call : Called) (calls : List Called) :
    Refused (call :: calls) ↔ call.answered = false ∨ Refused calls := by
  simp [Refused]

@[simp] theorem refused_append (calls more : List Called) :
    Refused (calls ++ more) ↔ Refused calls ∨ Refused more := by
  simp [Refused,or_and_right,exists_or]

/-- What is asked, as calls that are answered. -/
def answers (asks : List (Axis × Ask)) : List Called := asks.map fun (axis, ask) => ⟨axis, ask, true⟩

@[simp] theorem answers_append (asks more : List (Axis × Ask)) :
    answers (asks ++ more) = answers asks ++ answers more := List.map_append

@[simp] theorem not_refused_answers (asks : List (Axis × Ask)) : ¬ Refused (answers asks) := by
  rintro ⟨_,inside,refused⟩
  obtain ⟨_,_,rfl⟩ := List.mem_map.mp inside
  cases refused

section Attempt

variable [Motor μ] {now : Nat} {motors : Axis → μ} {asks more : List (Axis × Ask)}

theorem attempt_refused (refused : Refused (attempt now motors asks).1) :
    attempt now motors (asks ++ more) = attempt now motors asks := by
  induction asks generalizing motors with
  | nil => simp [attempt] at refused
  | cons first asks ih =>
    obtain ⟨axis,ask⟩ := first
    simp only [List.cons_append,attempt] at refused ⊢
    cases put : (ask.put now (motors axis)).1 with
    | false => rfl
    | true =>
      simp only [put,↓reduceIte,refused_cons,Bool.true_eq_false,false_or] at refused ⊢
      rw [ih refused]

theorem attempt_append (answered : ¬ Refused (attempt now motors asks).1) :
    attempt now motors (asks ++ more) =
      let rest := attempt now (attempt now motors asks).2 more
      ((attempt now motors asks).1 ++ rest.1,rest.2) := by
  induction asks generalizing motors with
  | nil => rfl
  | cons first asks ih =>
    obtain ⟨axis,ask⟩ := first
    simp only [List.cons_append,attempt] at answered ⊢
    cases put : (ask.put now (motors axis)).1 with
    | false => simp [put] at answered
    | true =>
      simp only [put,↓reduceIte,refused_cons,Bool.true_eq_false,false_or] at answered ⊢
      rw [ih answered]
      rfl

theorem attempt_answered (answered : ¬ Refused (attempt now motors asks).1) :
    (attempt now motors asks).1 = answers asks := by
  induction asks generalizing motors with
  | nil => rfl
  | cons first asks ih =>
    obtain ⟨axis,ask⟩ := first
    simp only [attempt] at answered ⊢
    cases put : (ask.put now (motors axis)).1 with
    | false => simp [put] at answered
    | true =>
      simp only [put,↓reduceIte,refused_cons,Bool.true_eq_false,false_or] at answered ⊢
      rw [ih answered]
      rfl

/-- Calls that are in order if all are answered are in order up to the first that is not. -/
theorem throughout_attempt {holds : List Called → Called → Prop}
    (blind : ∀ before axis ask, holds before ⟨axis,ask,true⟩ → holds before ⟨axis,ask,false⟩)
    (all : Throughout holds (answers asks)) : Throughout holds (attempt now motors asks).1 := by
  induction asks generalizing motors holds with
  | nil => exact .nil
  | cons first asks ih =>
    obtain ⟨axis,ask⟩ := first
    obtain ⟨here,later⟩ := Throughout.cons.mp all
    simp only [attempt]
    cases (ask.put now (motors axis)).1 with
    | false => simpa using blind [] axis ask here
    | true => exact Throughout.cons.mpr ⟨here,ih (fun before => blind _) later⟩

end Attempt

namespace Plotter

/-- A program asks the motors for some things and for nothing else, and breaks off if one is refused. -/
def Asks [Motor μ] (asks : Nat → Plotter μ δ → List (Axis × Ask)) (program : PlotterM μ δ α) : Prop :=
  ∀ now p,
    let (calls, motors) := attempt now p.motor (asks now p)
    match program now p with
    | .ok _ p' => p'.motor = motors ∧ ¬ Refused calls
    | .error reason p' => p'.motor = motors ∧ Refused calls ∧ reason.OfDevice

namespace Asks

variable [Motor μ] {asks : Nat → Plotter μ δ → List (Axis × Ask)} {program : PlotterM μ δ α}
variable {rest : α → PlotterM μ δ β} {more : α → Nat → Plotter μ δ → List (Axis × Ask)}

theorem finished (value : Nat → Plotter μ δ → α) (after : Nat → Plotter μ δ → Plotter μ δ)
    (ran : ∀ now p, program now p = .ok (value now p) (after now p))
    (still : ∀ now p, (after now p).motor = p.motor) : Asks (fun _ _ => []) program := by
  intro now p
  simp [ran,still,attempt]

theorem pure (value : α) : Asks (fun _ _ => []) (pure value : PlotterM μ δ α) :=
  finished _ _ (fun _ _ => rfl) fun _ _ => rfl

theorem get : Asks (fun _ _ => []) (get : PlotterM μ δ (Plotter μ δ)) :=
  finished _ _ (fun _ _ => rfl) fun _ _ => rfl

theorem present [Display δ] (screen : Screen) :
    Asks (fun _ _ => []) (present screen : PlotterM μ δ Unit) :=
  finished (fun _ _ => ()) _ (fun _ _ => rfl) fun _ _ => rfl

theorem retext [Display δ] (text : String) : Asks (fun _ _ => []) (retext text : PlotterM μ δ Unit) :=
  finished (fun _ _ => ()) _ (fun _ _ => rfl) fun _ _ => rfl

theorem takeConfirm [Display δ] : Asks (fun _ _ => []) (takeConfirm : PlotterM μ δ Bool) :=
  finished Plotter.confirmed Plotter.asked (fun _ _ => rfl) fun _ _ => rfl

theorem call (axis : Axis) (f : Nat → Motor.Call μ α) (ask : Ask)
    (same : ∀ now m, ask.put now m = (f now).taken m) :
    Asks (fun _ _ => [(axis,ask)]) (call axis f : PlotterM μ δ α) := by
  intro now p
  simp only [attempt,same,Motor.Call.taken,Plotter.call]
  cases f now (p.motor axis) with
  | ok value m => simp [motor_setMotor]
  | error error m => exact ⟨motor_setMotor p axis m,by simp,error,rfl⟩

theorem command (axis : Axis) (c : Motor.Command) :
    Asks (fun _ _ => [(axis,.command c)]) (command axis c : PlotterM μ δ Unit) :=
  call axis _ _ fun _ _ => rfl

/-- What the second program asks for comes after what the first one does, if that one does not break off. -/
theorem bind {whole : Nat → Plotter μ δ → List (Axis × Ask)} (first : Asks asks program)
    (second : ∀ value, Asks (more value) (rest value))
    (goes : ∀ now p value p', program now p = .ok value p' → whole now p = asks now p ++ more value now p')
    (stops : ∀ now p reason p', program now p = .error reason p' → asks now p <+: whole now p) :
    Asks whole (program >>= rest) := by
  intro now p
  have before := first now p
  rw [bind_apply]
  cases ran : program now p with
  | error reason between =>
    obtain ⟨tail,whole⟩ := stops now p reason between ran
    simp only [ran] at before ⊢
    rw [← whole,attempt_refused before.2.1]
    exact before
  | ok value between =>
    simp only [ran] at before
    obtain ⟨motors,answered⟩ := before
    have after := second value now between
    rw [motors] at after
    rw [goes now p value between ran,attempt_append answered]
    cases done : rest value now between with
    | ok => simpa [done,answered] using after
    | error => simpa [done,answered] using after

/-- The same for programs that ask for the same things whatever the plotter. -/
theorem seq {asks more : List (Axis × Ask)} (first : Asks (fun _ _ => asks) program)
    (second : ∀ value, Asks (fun _ _ => more) (rest value)) :
    Asks (fun _ _ => asks ++ more) (program >>= rest) :=
  first.bind second (fun _ _ _ _ _ => rfl) fun _ _ _ _ _ => List.prefix_append ..

theorem seq_nil {asks : List (Axis × Ask)} (first : Asks (fun _ _ => asks) program)
    (second : ∀ value, Asks (fun _ _ => []) (rest value)) : Asks (fun _ _ => asks) (program >>= rest) := by
  simpa only [List.append_nil] using first.seq second

theorem foldlM {step : β → α → PlotterM μ δ β} (each : α → List (Axis × Ask))
    (asked : ∀ result value, Asks (fun _ _ => each value) (step result value)) (values : List α) (start : β) :
    Asks (fun _ _ => values.flatMap each) (values.foldlM step start) := by
  induction values generalizing start with
  | nil => exact .pure _
  | cons value values ih => exact (asked start value).seq fun result => ih result

end Asks
end Plotter

namespace Homing

variable [Motor μ] [Display δ]

/-- What an effect asks of the motors. -/
def Effect.asks : Effect → List (Axis × Ask)
  | .resetMotors => Axis.all.map fun axis => (axis, .command .reset)
  | .startLeg leg =>
    [(leg.axis, .command (.polarity .normal)), (leg.axis, .command (.dutyCycle leg.duty)),
      (leg.axis, .command .runDirect)]
  | .stopMotor axis => [(axis, .command .stop)]
  | _ => []

/-- What a look asks of the motor that it watches. -/
def Leg.asks (leg : Leg) (now : Nat) (p : Plotter μ δ) : List (Axis × Ask) :=
  (leg.axis, .state) ::
    match Motor.state now (p.motor leg.axis) with
    | .ok state _ => if state.isStalled then [(leg.axis, .position)] else []
    | .error .. => []

/-- What a look asks before it makes a transition. -/
def Phase.asks (phase : Phase) (now : Nat) (p : Plotter μ δ) : List (Axis × Ask) :=
  match phase.activeLeg? with
  | some leg => if p.confirmed now then [] else leg.asks now p
  | none => []

namespace Pass

omit [Display δ] in
theorem watch_asks (leg : Leg) :
    Plotter.Asks leg.asks (do
      let state ← Plotter.call leg.axis Motor.state
      if state.isStalled then return { stalledAt := some (← Plotter.readRaw leg.axis) }
      else return {} : PlotterM μ δ Observation) := by
  have read (state : Motor.State) :
      Plotter.Asks (fun _ _ => if state.isStalled then [(leg.axis,.position)] else [])
        (if state.isStalled then do return { stalledAt := some (← Plotter.readRaw leg.axis) }
          else return {} : PlotterM μ δ Observation) := by
    split
    · exact (Plotter.Asks.call _ _ .position fun _ _ => rfl).seq fun _ => .pure _
    · exact .pure _
  refine (Plotter.Asks.call leg.axis _ .state fun _ _ => rfl).bind read ?_ ?_
  · intro now p state p' ran
    unfold Plotter.call at ran
    cases asked : Motor.state now (p.motor leg.axis) with
    | error => simp [asked] at ran
    | ok found m =>
      simp only [asked] at ran
      cases ran
      simp [Leg.asks,asked]
  · exact fun now p _ _ _ => List.prefix_append [_] _

theorem observe_asks (phase : Phase) :
    Plotter.Asks phase.asks (observe phase : PlotterM μ δ Observation) := by
  let more (confirm : Bool) (now : Nat) (p : Plotter μ δ) : List (Axis × Ask) :=
    match phase.activeLeg? with
    | some leg => if confirm then [] else leg.asks now p
    | none => []
  have second (confirm : Bool) : Plotter.Asks (more confirm) (match phase.activeLeg? with
      | some leg =>
        if confirm then return { confirm }
        else do
          let state ← Plotter.call leg.axis Motor.state
          if state.isStalled then return { stalledAt := some (← Plotter.readRaw leg.axis) } else return {}
      | none => return { confirm } : PlotterM μ δ Observation) := by
    unfold more
    cases phase.activeLeg? with
    | none => exact .pure _
    | some leg =>
      cases confirm with
      | true => exact .pure _
      | false => exact watch_asks leg
  refine Plotter.Asks.takeConfirm.bind second ?_ ?_
  · rintro now p _ _ ⟨⟩
    rfl
  · rintro now p _ _ ⟨⟩

theorem carryOut_asks (previous : Screen) (tally : Tally) (effect : Effect) :
    Plotter.Asks (fun _ _ => effect.asks) (carryOut previous tally effect : PlotterM μ δ Tally) := by
  cases effect with
  | resetMotors =>
    have three : Plotter.Asks (fun _ _ => Effect.asks .resetMotors)
        (Axis.all.forM fun axis => Plotter.command axis .reset : PlotterM μ δ PUnit) :=
      (Plotter.Asks.command _ _).seq fun _ => (Plotter.Asks.command _ _).seq fun _ =>
        (Plotter.Asks.command _ _).seq fun _ => .pure _
    exact three.seq fun _ => .pure _
  | startLeg leg =>
    exact (Plotter.Asks.command _ _).seq fun _ => (Plotter.Asks.command _ _).seq fun _ =>
      (Plotter.Asks.command _ _).seq fun _ => (Plotter.Asks.retext _).seq fun _ => Plotter.Asks.get.seq fun _ =>
        .pure _
  | stopMotor axis => exact (Plotter.Asks.command _ _).seq fun _ => .pure _
  | showResults | restoreScreen => exact (Plotter.Asks.present _).seq fun _ => .pure _
  | record | complete | fail => exact .pure _

/-- What a look asks if nothing is refused. -/
def asks (pass : Pass) (now : Nat) (p : Plotter μ δ) : List (Axis × Ask) :=
  pass.phase.asks now p ++
    match observe pass.phase now p with
    | .error .. => []
    | .ok seen _ =>
      match pass.phase.next seen with
      | .error _ => []
      | .ok (_, effects) => effects.flatMap Effect.asks

/-- The calls of a look. -/
def calls (pass : Pass) (now : Nat) (p : Plotter μ δ) : List Called :=
  (attempt now p.motor (pass.asks now p)).1

theorem carry_asks (pass : Pass) (phase : Phase) (effects : List Effect) :
    Plotter.Asks (fun _ _ => effects.flatMap Effect.asks)
      (pass.carry phase effects : PlotterM μ δ (Progress Pass (Except Fault Calibration))) := by
  refine Plotter.Asks.get.seq fun p => ?_
  have carried := Plotter.Asks.foldlM Effect.asks
    (fun tally effect => carryOut_asks (μ := μ) (δ := δ) pass.previous tally effect) effects
    ⟨pass.recorded,p.motion.homingPoll,none⟩
  refine carried.seq_nil fun tally => ?_
  split
  · exact .pure _
  split <;> exact .pure _

/-- A look makes its calls and no others, and a device breaks it off if one of them is refused. -/
theorem poll_asks (pass : Pass) (now : Nat) (p : Plotter μ δ) :
    (Plotter.left pass.poll now p).motor = (attempt now p.motor (pass.asks now p)).2 ∧
      (Refused (pass.calls now p) ↔ ∃ reason p', pass.poll now p = .error reason p' ∧ reason.OfDevice) := by
  have observed := observe_asks pass.phase now p
  unfold Plotter.left calls asks
  simp only [poll_apply]
  cases looked : observe pass.phase now p with
  | error reason between =>
    simp only [looked,List.append_nil] at observed ⊢
    obtain ⟨motors,refused,device⟩ := observed
    exact ⟨motors,fun _ => ⟨reason,between,rfl,device⟩,fun _ => refused⟩
  | ok seen between =>
    simp only [looked] at observed ⊢
    obtain ⟨motors,answered⟩ := observed
    cases stepped : pass.phase.next seen with
    | error overflow =>
      simp only [List.append_nil]
      refine ⟨motors,fun refused => absurd refused answered,?_⟩
      rintro ⟨_,_,⟨⟩,_,⟨⟩⟩
    | ok made =>
      obtain ⟨phase,effects⟩ := made
      have carried := carry_asks pass phase effects now between
      rw [motors] at carried
      rw [attempt_append answered]
      simp only [refused_append,answered,false_or]
      cases done : pass.carry phase effects now between with
      | ok => simpa [done] using carried
      | error reason between =>
        simp only [done] at carried
        obtain ⟨motors,refused,device⟩ := carried
        exact ⟨motors,fun _ => ⟨reason,between,rfl,device⟩,fun _ => refused⟩

end Pass
end Homing
end PenPlotter
