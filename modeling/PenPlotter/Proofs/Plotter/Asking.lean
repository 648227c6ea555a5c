import PenPlotter.Proofs.Homing.Calls

/-! Programs that ask the motors for a row of things and do nothing else. They go through the row up to the first
thing that is refused; the motors are left as the calls made so far leave them, the rest of the plotter as it was,
and what the program breaks off with is the error of the refused call. -/

namespace PenPlotter

variable {μ δ α β : Type}

/-- The error with which a call is refused. -/
def Motor.Call.refusal? (call : Motor.Call μ α) (m : μ) : Option DeviceError :=
  match call m with
  | .ok .. => none
  | .error error _ => some error

theorem Motor.Call.taken_answered (call : Motor.Call μ α) (m : μ) : (call.taken m).1 = (call.refusal? m).isNone := by
  unfold taken refusal?
  cases call m <;> rfl

section Refusals

variable [Motor μ]

def Ask.refusal? (now : Nat) (m : μ) : Ask → Option DeviceError
  | .command c => Motor.Call.refusal? (Motor.perform now c) m
  | .position => Motor.Call.refusal? (Motor.position now) m
  | .state => Motor.Call.refusal? (Motor.state now) m

theorem Ask.put_answered (now : Nat) (m : μ) (ask : Ask) : (ask.put now m).1 = (ask.refusal? now m).isNone := by
  cases ask <;> exact Motor.Call.taken_answered _ m

/-- The error of the first thing that is refused when one is asked after the other. -/
def refusal? (now : Nat) (motors : Axis → μ) : List (Axis × Ask) → Option DeviceError
  | [] => none
  | (axis, ask) :: rest =>
    (ask.refusal? now (motors axis)).or (refusal? now (setAt motors axis (ask.put now (motors axis)).2) rest)

variable {now : Nat} {motors : Axis → μ} {asks more : List (Axis × Ask)} {axis : Axis} {ask : Ask} {error : DeviceError}

theorem attempt_cons_answered (answered : ask.refusal? now (motors axis) = none) :
    attempt now motors ((axis,ask) :: asks) =
      (⟨axis,ask,true⟩ :: (attempt now (setAt motors axis (ask.put now (motors axis)).2) asks).1,
        (attempt now (setAt motors axis (ask.put now (motors axis)).2) asks).2) := by
  have put : (ask.put now (motors axis)).1 = true := by rw [ask.put_answered,answered]; rfl
  simp only [attempt,put,↓reduceIte]

theorem attempt_cons_refused (refused : ask.refusal? now (motors axis) = some error) :
    attempt now motors ((axis,ask) :: asks) =
      ([⟨axis,ask,false⟩],setAt motors axis (ask.put now (motors axis)).2) := by
  have put : (ask.put now (motors axis)).1 = false := by rw [ask.put_answered,refused]; rfl
  simp only [attempt,put,Bool.false_eq_true,↓reduceIte]

theorem refusal?_eq_none_iff : refusal? now motors asks = none ↔ ¬ Refused (attempt now motors asks).1 := by
  induction asks generalizing motors with
  | nil => simp [refusal?,attempt]
  | cons first asks ih =>
    obtain ⟨axis,ask⟩ := first
    cases here : ask.refusal? now (motors axis) with
    | none => simp [refusal?,here,attempt_cons_answered here,ih]
    | some error => simp [refusal?,here,attempt_cons_refused here]

theorem refusal?_append :
    refusal? now motors (asks ++ more) =
      (refusal? now motors asks).or (refusal? now (attempt now motors asks).2 more) := by
  induction asks generalizing motors with
  | nil => simp [refusal?,attempt]
  | cons first asks ih =>
    obtain ⟨axis,ask⟩ := first
    cases here : ask.refusal? now (motors axis) with
    | none => simp [refusal?,here,attempt_cons_answered here,ih]
    | some error => simp [refusal?,here]

/-- Where a row of asks breaks off: all before was answered, one was refused, and nothing after it was asked. -/
structure BreaksOff (now : Nat) (motors : Axis → μ) (asks done : List (Axis × Ask)) (failing : Axis × Ask)
    (later : List (Axis × Ask)) (error : DeviceError) : Prop where
  row : asks = done ++ failing :: later
  calls : (attempt now motors asks).1 = answers done ++ [⟨failing.1,failing.2,false⟩]
  before : ¬ Refused (attempt now motors done).1
  refused : failing.2.refusal? now ((attempt now motors done).2 failing.1) = some error

theorem breaksOff_of_refusal? (refused : refusal? now motors asks = some error) :
    ∃ done failing later, BreaksOff now motors asks done failing later error := by
  induction asks generalizing motors with
  | nil => simp [refusal?] at refused
  | cons first asks ih =>
    obtain ⟨axis,ask⟩ := first
    cases here : ask.refusal? now (motors axis) with
    | some why =>
      simp only [refusal?,here,Option.some_or,Option.some.injEq] at refused
      subst refused
      exact ⟨[],(axis,ask),asks,rfl,by rw [attempt_cons_refused here]; rfl,not_refused_nil,here⟩
    | none =>
      simp only [refusal?,here,Option.none_or] at refused
      obtain ⟨done,failing,later,row,calls,before,why⟩ := ih refused
      refine ⟨(axis,ask) :: done,failing,later,by rw [row]; rfl,?_,?_,?_⟩
      · rw [attempt_cons_answered here,calls]
        rfl
      · rw [attempt_cons_answered here]
        simpa using before
      · rw [attempt_cons_answered here]
        exact why

theorem mem_attempt {call : Called} (made : call ∈ (attempt now motors asks).1) : (call.axis,call.ask) ∈ asks := by
  induction asks generalizing motors with
  | nil => cases made
  | cons first asks ih =>
    obtain ⟨axis,ask⟩ := first
    cases here : ask.refusal? now (motors axis) with
    | none =>
      rw [attempt_cons_answered here] at made
      rcases List.mem_cons.mp made with rfl | later
      · exact List.mem_cons_self
      · exact List.mem_cons_of_mem _ (ih later)
    | some error =>
      rw [attempt_cons_refused here] at made
      rw [List.mem_singleton.mp made]
      exact List.mem_cons_self

/-- The first thing in a row is always asked for. -/
theorem attempt_head : ∃ answered, ⟨axis,ask,answered⟩ ∈ (attempt now motors ((axis,ask) :: asks)).1 := by
  cases here : ask.refusal? now (motors axis) with
  | none =>
    rw [attempt_cons_answered here]
    exact ⟨true,List.mem_cons_self⟩
  | some error =>
    rw [attempt_cons_refused here]
    exact ⟨false,List.mem_cons_self⟩

/-- A motor that gets no call is left alone. -/
theorem attempt_untouched (uncalled : ∀ call ∈ (attempt now motors asks).1, call.axis ≠ axis) :
    (attempt now motors asks).2 axis = motors axis := by
  induction asks generalizing motors with
  | nil => rfl
  | cons first asks ih =>
    obtain ⟨at_,ask⟩ := first
    cases here : ask.refusal? now (motors at_) with
    | none =>
      rw [attempt_cons_answered here] at uncalled ⊢
      simp only [List.mem_cons,forall_eq_or_imp] at uncalled
      have other : axis ≠ at_ := fun same => uncalled.1 same.symm
      exact (ih uncalled.2).trans (if_neg other)
    | some error =>
      rw [attempt_cons_refused here] at uncalled ⊢
      simp only [List.mem_singleton,forall_eq] at uncalled
      exact if_neg fun same => uncalled same.symm

end Refusals

namespace Plotter

/-- The plotter with other motors. -/
def withMotors (p : Plotter μ δ) (motors : Axis → μ) : Plotter μ δ :=
  { p with tool := motors .tool, x := motors .x, y := motors .y }

variable {p : Plotter μ δ} {motors : Axis → μ}

@[simp] theorem motor_withMotors : (p.withMotors motors).motor = motors := by
  funext axis
  cases axis <;> rfl

@[simp] theorem withMotors_withMotors {more : Axis → μ} : (p.withMotors motors).withMotors more = p.withMotors more := rfl

theorem setMotor_eq_withMotors (p : Plotter μ δ) (axis : Axis) (m : μ) :
    p.setMotor axis m = p.withMotors (setAt p.motor axis m) := by
  cases axis <;> rfl

/-- A program asks the motors of a plotter for a row of things, up to the first that is refused, and does nothing
else. -/
structure Performs [Motor μ] (asks : List (Axis × Ask)) (program : PlotterM μ δ α) (now : Nat) (p : Plotter μ δ) :
    Prop where
  refused : ∀ error, refusal? now p.motor asks = some error →
    program now p = .error (.report (.ofFault (.ofDevice error))) (p.withMotors (attempt now p.motor asks).2)
  answered : refusal? now p.motor asks = none →
    ∃ value, program now p = .ok value (p.withMotors (attempt now p.motor asks).2)

namespace Performs

variable [Motor μ] {asks more : List (Axis × Ask)} {program : PlotterM μ δ α} {rest : α → PlotterM μ δ β} {now : Nat}

theorem left (performs : Performs asks program now p) {value : α} {p' : Plotter μ δ}
    (ran : program now p = .ok value p') :
    refusal? now p.motor asks = none ∧ p' = p.withMotors (attempt now p.motor asks).2 := by
  cases why : refusal? now p.motor asks with
  | some error =>
    rw [performs.refused error why] at ran
    cases ran
  | none =>
    obtain ⟨found,made⟩ := performs.answered why
    rw [made] at ran
    cases ran
    exact ⟨rfl,rfl⟩

/-- A program that asks for nothing and gives a value. -/
theorem of_ok {value : α} (ran : program now p = .ok value p) : Performs [] program now p where
  refused error why := by simp [refusal?] at why
  answered _ := ⟨value,ran⟩

theorem call (axis : Axis) (f : Nat → Motor.Call μ α) (ask : Ask) (taken : ∀ m, ask.put now m = (f now).taken m)
    (refusal : ∀ m, ask.refusal? now m = (f now).refusal? m) : Performs [(axis,ask)] (Plotter.call axis f) now p := by
  have left : (attempt now p.motor [(axis,ask)]).2 = setAt p.motor axis ((f now).taken (p.motor axis)).2 := by
    unfold attempt
    rw [taken]
    dsimp only
    split <;> rfl
  constructor
  · intro error why
    simp only [refusal?,Option.or_none,refusal,Motor.Call.refusal?] at why
    rw [left,← setMotor_eq_withMotors]
    unfold Plotter.call Motor.Call.taken
    cases made : f now (p.motor axis) with
    | ok => simp [made] at why
    | error found m =>
      simp only [made,Option.some.injEq] at why
      rw [why]
  · intro answered
    simp only [refusal?,Option.or_none,refusal,Motor.Call.refusal?] at answered
    rw [left,← setMotor_eq_withMotors]
    unfold Plotter.call Motor.Call.taken
    cases made : f now (p.motor axis) with
    | ok value m => exact ⟨value,rfl⟩
    | error => simp [made] at answered

theorem readRaw (axis : Axis) : Performs [(axis,.position)] (Plotter.readRaw axis : PlotterM μ δ Raw) now p :=
  call axis _ .position (fun _ => rfl) fun _ => rfl

theorem command (axis : Axis) (c : Motor.Command) :
    Performs [(axis,.command c)] (Plotter.command axis c : PlotterM μ δ Unit) now p :=
  call axis _ (.command c) (fun _ => rfl) fun _ => rfl

/-- What the second program asks for comes after what the first one does. -/
theorem bind (first : Performs asks program now p)
    (second : ∀ value, program now p = .ok value (p.withMotors (attempt now p.motor asks).2) →
      Performs more (rest value) now (p.withMotors (attempt now p.motor asks).2)) :
    Performs (asks ++ more) (program >>= rest) now p := by
  cases why : refusal? now p.motor asks with
  | some error =>
    have broken := first.refused error why
    have refused : Refused (attempt now p.motor asks).1 :=
      Classical.not_not.mp fun answered => by simp [refusal?_eq_none_iff.mpr answered] at why
    constructor
    · intro found whole
      simp only [refusal?_append,why,Option.some_or,Option.some.injEq] at whole
      rw [bind_apply,broken,attempt_refused refused,whole]
    · intro none
      simp [refusal?_append,why] at none
  | none =>
    obtain ⟨value,ran⟩ := first.answered why
    have after := second value ran
    have left : (attempt now p.motor (asks ++ more)).2 = (attempt now (attempt now p.motor asks).2 more).2 := by
      rw [attempt_append (refusal?_eq_none_iff.mp why)]
    constructor
    · intro error whole
      simp only [refusal?_append,why,Option.none_or] at whole
      have broken := after.refused error (by rw [motor_withMotors]; exact whole)
      rw [motor_withMotors,withMotors_withMotors] at broken
      rw [bind_apply,ran,left]
      exact broken
    · intro whole
      simp only [refusal?_append,why,Option.none_or] at whole
      obtain ⟨result,done⟩ := after.answered (by rw [motor_withMotors]; exact whole)
      rw [motor_withMotors,withMotors_withMotors] at done
      exact ⟨result,by rw [bind_apply,ran,left]; exact done⟩

/-- The same for a second program that asks for nothing. -/
theorem bind_ok (first : Performs asks program now p)
    (second : ∀ found q, ∃ value, rest found now q = .ok value q) : Performs asks (program >>= rest) now p := by
  rw [← List.append_nil asks]
  refine first.bind fun found _ => ?_
  obtain ⟨value,ran⟩ := second found (p.withMotors (attempt now p.motor asks).2)
  exact of_ok ran

/-- The same for a first program that asks for nothing. -/
theorem ok_bind {value : α} (first : program now p = .ok value p) (second : Performs more (rest value) now p) :
    Performs more (program >>= rest) now p := by
  rw [← List.nil_append more]
  refine (of_ok first).bind fun found ran => ?_
  rw [first] at ran
  cases ran
  exact second

theorem forM {step : α → PlotterM μ δ PUnit} (each : α → List (Axis × Ask))
    (performs : ∀ value p, Performs (each value) (step value) now p) (values : List α) (p : Plotter μ δ) :
    Performs (values.flatMap each) (List.forM values step) now p := by
  induction values generalizing p with
  | nil => exact of_ok rfl
  | cons value values ih => exact (performs value p).bind fun _ _ => ih _

end Performs
end Plotter

end PenPlotter
