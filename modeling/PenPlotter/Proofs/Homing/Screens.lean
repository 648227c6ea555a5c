import PenPlotter.Display.Journal
import PenPlotter.Proofs.Homing.Driving
import PenPlotter.Proofs.Plotter.Asking

/-! What a homing pass shows on a display that keeps its screens. While it is under way one message stands there, and its
text names the leg that was started last: it is changed by a start that has succeeded and by nothing else, also in a look
that is broken off. -/

namespace PenPlotter

/-- A motor was told to run and has obeyed. -/
def Called.runs (call : Called) : Bool := call.answered && call.ask = .command .runDirect

namespace Homing

/-- The leg that was started last by a row of calls, if some leg was before them. A start has succeeded if all of its
commands were obeyed, the last of which sets the motor going. -/
inductive LastStarted (first : Leg) (calls : List Called) : Leg → Prop where
  | none : (∀ call ∈ calls, call.runs = false) → LastStarted first calls first
  | started (leg : Leg) (before after : List Called) :
      calls = before ++ answers (Effect.asks (.startLeg leg)) ++ after → (∀ call ∈ after, call.runs = false) →
      LastStarted first calls leg

namespace LastStarted

variable {first leg other : Leg} {calls more : List Called}

theorem trans (early : LastStarted first calls leg) (late : LastStarted leg more other) :
    LastStarted first (calls ++ more) other := by
  cases late with
  | started _ before after row idle => exact .started other (calls ++ before) after (by simp [row]) idle
  | none still =>
    cases early with
    | none idle => exact .none (List.forall_mem_append.mpr ⟨idle,still⟩)
    | started _ before after row idle =>
      exact .started leg before (after ++ more) (by simp [row]) (List.forall_mem_append.mpr ⟨idle,still⟩)

/-- What comes after the last motor that was set going is skipped by reading backwards up to it. -/
theorem dropWhile_reverse (before : List Called) {after : List Called} (idle : ∀ call ∈ after, call.runs = false) :
    (before ++ after).reverse.dropWhile (fun call => !call.runs) = before.reverse.dropWhile fun call => !call.runs := by
  rw [List.reverse_append,List.dropWhile_append_of_pos]
  intro call inside
  rw [idle call (List.mem_reverse.mp inside)]
  rfl

theorem dropWhile_started (leg : Leg) (before : List Called) {after : List Called}
    (idle : ∀ call ∈ after, call.runs = false) :
    (before ++ answers (Effect.asks (.startLeg leg)) ++ after).reverse.dropWhile (fun call => !call.runs) =
      (answers (Effect.asks (.startLeg leg))).reverse ++ before.reverse := by
  rw [dropWhile_reverse _ idle,List.reverse_append]
  rfl

/-- What was started last can be told from the calls. -/
theorem unique (one : LastStarted first calls leg) (two : LastStarted first calls other) : leg = other := by
  cases one with
  | none idle =>
    have none := dropWhile_reverse [] idle
    cases two with
    | none => rfl
    | started _ before after row still =>
      rw [List.nil_append,row,dropWhile_started other _ still] at none
      cases none
  | started _ before after row idle =>
    have last := dropWhile_started leg before idle
    rw [← row] at last
    cases two with
    | none still =>
      have none := dropWhile_reverse [] still
      rw [List.nil_append,last] at none
      cases none
    | started _ before' after' row' still =>
      rw [row',dropWhile_started other _ still] at last
      simp only [answers,Effect.asks,List.map_cons,List.map_nil,List.reverse_cons,List.reverse_nil,List.nil_append,
        List.cons_append,List.cons.injEq,Called.mk.injEq,Ask.command.injEq,Motor.Command.dutyCycle.injEq] at last
      obtain ⟨⟨axis,_⟩,⟨_,duty,_⟩,_⟩ := last
      exact (Leg.eq_of_duty axis duty).symm

end LastStarted

end Homing

namespace Plotter

variable {μ α β : Type} [Motor μ]

/-- The display shows the message of a homing pass that runs a leg. -/
def Names (leg : Homing.Leg) (p : Plotter μ Journal) : Prop :=
  p.display.current = some (.message (Homing.Pass.progressMessage leg))

omit [Motor μ] in
theorem names_congr {leg : Homing.Leg} {p q : Plotter μ Journal} (same : p.display.screens = q.display.screens) :
    p.Names leg ↔ q.Names leg := by
  unfold Names Journal.current
  rw [same]

omit [Motor μ] in
/-- Only the text of the message depends on the leg. -/
theorem Names.retext {first leg : Homing.Leg} {p : Plotter μ Journal} (names : p.Names first) :
    Names leg { p with display := Display.retext leg.progress p.display } := by
  unfold Names Journal.current at *
  obtain ⟨earlier,shown⟩ := List.head?_eq_some_iff.mp names
  show (Display.retext leg.progress p.display).screens.head? = _
  simp only [Display.retext,shown]
  rfl

/-- A program that asks the motors for a row of things leaves on the display the leg that was started last. -/
def Tells (asks : List (Axis × Ask)) (program : PlotterM μ Journal α) : Prop :=
  ∀ now p first, p.Names first →
    ∃ leg, Homing.LastStarted first (attempt now p.motor asks).1 leg ∧ (left program now p).Names leg

namespace Tells

variable {asks more : List (Axis × Ask)} {program : PlotterM μ Journal α} {rest : α → PlotterM μ Journal β}

theorem idle_attempt {now : Nat} {motors : Axis → μ} (idle : ∀ ask ∈ asks, ask.2 ≠ .command .runDirect) :
    ∀ call ∈ (attempt now motors asks).1, call.runs = false := by
  intro call made
  have other := idle _ (mem_attempt made)
  simp [Called.runs,other]

/-- A program that neither reaches the display nor sets a motor going. -/
theorem still (kept : Keeps (fun _ => True) Plotter.display program)
    (idle : ∀ ask ∈ asks, ask.2 ≠ .command .runDirect) : Tells asks program := by
  intro now p first names
  refine ⟨first,.none (idle_attempt idle),?_⟩
  unfold Names
  rw [(kept now p).1]
  exact names

theorem pure (value : α) : Tells [] (pure value : PlotterM μ Journal α) := still (.pure value) (by simp)

theorem bind (first : Tells asks program) (asked : Asks (fun _ _ => asks) program)
    (second : ∀ value, Tells more (rest value)) : Tells (asks ++ more) (program >>= rest) := by
  intro now p leg names
  obtain ⟨between,early,named⟩ := first now p leg names
  have motors := asked now p
  unfold left at named ⊢
  rw [bind_apply]
  cases ran : program now p with
  | error reason q =>
    simp only [ran] at motors named ⊢
    rw [attempt_refused motors.2.1]
    exact ⟨between,early,named⟩
  | ok value q =>
    simp only [ran] at motors named ⊢
    obtain ⟨last,late,shown⟩ := second value now q between named
    rw [motors.1] at late
    rw [attempt_append motors.2]
    exact ⟨last,early.trans late,shown⟩

theorem foldlM {step : β → α → PlotterM μ Journal β} {each : α → List (Axis × Ask)}
    (asked : ∀ result value, Asks (fun _ _ => each value) (step result value)) {values : List α}
    (tells : ∀ result, ∀ value ∈ values, Tells (each value) (step result value)) (start : β) :
    Tells (values.flatMap each) (values.foldlM step start) := by
  induction values generalizing start with
  | nil => exact .pure _
  | cons value values ih =>
    refine Tells.bind (tells start value List.mem_cons_self) (asked start value) fun result => ?_
    exact ih (fun result other inside => tells result other (List.mem_cons_of_mem _ inside)) result

end Tells
end Plotter

namespace Homing

variable {μ : Type} [Motor μ] {now : Nat} {p p' : Plotter μ Journal}

/-- An effect that replaces the screen. -/
def Effect.presents : Effect → Bool
  | .showResults | .restoreScreen => true
  | _ => false

/-- A transition of a pass that can be cancelled puts back the screen, shows the results or keeps the message. -/
theorem Phase.Step.screens {phase next : Phase} {seen : Observation} {effects : List Effect}
    (step : phase.Step seen next effects) (going : phase.cancellable = true) :
    (∃ ending, ending.isEnding = true ∧ effects = [.restoreScreen, ending]) ∨
      (next = .closing none ∧ effects = [.showResults]) ∨
      (next.cancellable = true ∧ ∀ effect ∈ effects, effect.presents = false ∧ effect.isEnding = false) := by
  cases step with
  | ended terminal => cases phase <;> simp_all [Phase.isTerminal,Phase.cancellable]
  | dismissed | refused | waited => cases going
  | cancelled => exact .inl ⟨_,rfl,rfl⟩
  | reported => exact .inr (.inl ⟨rfl,rfl⟩)
  | @stalled _ leg => cases leg <;> simp [Phase.afterLeg,Phase.cancellable,Effect.presents,Effect.isEnding]
  | _ => simp [Phase.cancellable,Effect.presents,Effect.isEnding]

namespace Pass

theorem command_display (axis : Axis) (c : Motor.Command) :
    Plotter.Keeps (fun _ => True) Plotter.display (Plotter.command axis c : PlotterM μ Journal Unit) :=
  call_display axis _

/-- A start that has not succeeded has set no motor going. -/
theorem startLeg_refused {motors : Axis → μ} {leg : Leg}
    (refused : Refused (attempt now motors (Effect.asks (.startLeg leg))).1) :
    ∀ call ∈ (attempt now motors (Effect.asks (.startLeg leg))).1, call.runs = false := by
  let setUp : List (Axis × Ask) :=
    [(leg.axis,.command (.polarity .normal)),(leg.axis,.command (.dutyCycle leg.duty))]
  have idle : ∀ call ∈ (attempt now motors setUp).1, call.runs = false :=
    Plotter.Tells.idle_attempt (by simp [setUp])
  have whole : Effect.asks (.startLeg leg) = setUp ++ [(leg.axis,.command .runDirect)] := rfl
  rw [whole] at refused ⊢
  by_cases early : Refused (attempt now motors setUp).1
  · rw [attempt_refused early]
    exact idle
  · rw [attempt_append early] at refused ⊢
    refine List.forall_mem_append.mpr ⟨idle,?_⟩
    have last := (refused_append _ _).mp refused |>.resolve_left early
    cases why : Ask.refusal? now ((attempt now motors setUp).2 leg.axis) (.command .runDirect) with
    | none =>
      rw [attempt_cons_answered why] at last
      simp [attempt] at last
    | some error =>
      rw [attempt_cons_refused why]
      simp [Called.runs]

theorem startLeg_tells (previous : Screen) (tally : Tally) (leg : Leg) :
    Plotter.Tells (Effect.asks (.startLeg leg)) (carryOut previous tally (.startLeg leg) : PlotterM μ Journal Tally) := by
  intro now p first names
  have asked := carryOut_asks previous tally (.startLeg leg) now p
  unfold Plotter.left
  cases ran : carryOut previous tally (.startLeg leg) now p with
  | ok tally' p' =>
    have answered : ¬ Refused (attempt now p.motor (Effect.asks (.startLeg leg))).1 := by
      rw [ran] at asked
      exact asked.2
    refine ⟨leg,.started leg [] [] (by simpa using attempt_answered answered) (by simp),?_⟩
    obtain ⟨_,_,one,ran⟩ := bind_eq_ok.mp ran
    obtain ⟨_,_,two,ran⟩ := bind_eq_ok.mp ran
    obtain ⟨_,q,three,ran⟩ := bind_eq_ok.mp ran
    have same : q.display = p.display := ((command_display _ _).of_ok three).trans
      (((command_display _ _).of_ok two).trans ((command_display _ _).of_ok one))
    cases ran
    exact ((Plotter.names_congr (congrArg Journal.screens same)).mpr names).retext
  | error reason p' =>
    have refused : Refused (attempt now p.motor (Effect.asks (.startLeg leg))).1 := by
      rw [ran] at asked
      exact asked.2.1
    refine ⟨first,.none (startLeg_refused refused),?_⟩
    have same : p'.display = p.display := by
      rcases bind_eq_error.mp ran with one | ⟨_,_,one,ran⟩
      · exact (command_display _ _).of_error one
      rcases bind_eq_error.mp ran with two | ⟨_,_,two,ran⟩
      · exact ((command_display _ _).of_error two).trans ((command_display _ _).of_ok one)
      rcases bind_eq_error.mp ran with three | ⟨_,_,_,ran⟩
      · exact ((command_display _ _).of_error three).trans
          (((command_display _ _).of_ok two).trans ((command_display _ _).of_ok one))
      · cases ran
    exact (Plotter.names_congr (congrArg Journal.screens same)).mpr names

/-- An effect that keeps the screen changes the text by starting a leg only. -/
theorem carryOut_tells (previous : Screen) (tally : Tally) {effect : Effect} (keeps : effect.presents = false) :
    Plotter.Tells effect.asks (carryOut previous tally effect : PlotterM μ Journal Tally) := by
  cases effect with
  | showResults | restoreScreen => cases keeps
  | record | complete | fail => exact .pure _
  | startLeg leg => exact startLeg_tells previous tally leg
  | resetMotors =>
    refine .still (.bind (.forM fun axis _ => command_display axis .reset) fun _ => .pure _) ?_
    simp [Effect.asks]
  | stopMotor axis =>
    refine .still (.bind (command_display axis .stop) fun _ => .pure _) ?_
    simp [Effect.asks]

theorem carry_tells (pass : Pass) (phase : Phase) {effects : List Effect}
    (keep : ∀ effect ∈ effects, effect.presents = false) :
    Plotter.Tells (effects.flatMap Effect.asks)
      (pass.carry phase effects : PlotterM μ Journal (Progress Pass (Except Fault Calibration))) := by
  have row : effects.flatMap Effect.asks = [] ++ (effects.flatMap Effect.asks ++ []) := by simp
  rw [row]
  refine .bind (.still .get (by simp)) .get fun p => ?_
  have each (tally : Tally) (effect : Effect) (inside : effect ∈ effects) :=
    carryOut_tells (μ := μ) pass.previous tally (keep effect inside)
  refine .bind (.foldlM (carryOut_asks pass.previous) each _) (.foldlM _ (carryOut_asks pass.previous) _ _) fun tally => ?_
  split
  · exact .pure _
  split <;> exact .pure _

/-- What a pass shows that has made some calls: the leg that it runs, or what it has recorded. -/
def Shows (pass : Pass) (calls : List Called) (p : Plotter μ Journal) : Prop :=
  (pass.phase.cancellable = true ∧ ∃ leg, LastStarted .toolUp calls leg ∧ p.Names leg) ∨
    (pass.phase = .closing none ∧ p.display.current = some (.message (resultsMessage pass.recorded)))

omit [Motor μ] in
theorem shows_congr {pass : Pass} {calls : List Called} (same : p.display.screens = p'.display.screens) :
    pass.Shows calls p ↔ pass.Shows calls p' := by
  have current : p.display.current = p'.display.current := congrArg List.head? same
  unfold Shows Plotter.Names
  rw [current]

/-- The results stay on the display until they are dismissed, and what was recorded stays as it is. -/
theorem poll_closing {pass : Pass} (closing : pass.phase = .closing none) (now : Nat) (p : Plotter μ Journal) :
    if p.confirmed now then
      ∃ p', pass.poll now p = .ok (.done (.ok pass.recorded)) p' ∧ p'.display.current = some pass.previous
    else ∃ delay p', pass.poll now p = .ok (.again delay pass) p' ∧ p'.display.current = p.display.current := by
  obtain ⟨phase,recorded,previous⟩ := pass
  obtain rfl : phase = .closing none := closing
  have looked : observe (.closing none) now p = .ok ⟨p.confirmed now,none⟩ (p.asked now) := rfl
  simp only [poll_apply,looked,Phase.next]
  cases p.confirmed now with
  | true => exact ⟨_,rfl,rfl⟩
  | false => exact ⟨_,_,rfl,rfl⟩

/-- A look reads before it makes a transition. -/
theorem reads_idle (phase : Phase) (now : Nat) (p : Plotter μ Journal) :
    ∀ ask ∈ phase.asks now p, ask.2 ≠ .command .runDirect := by
  rintro ⟨axis,ask⟩ inside rfl
  have command : (⟨axis,.command .runDirect,true⟩ : Called) ∈ (answers (phase.asks now p)).filter Called.isCommand :=
    List.mem_filter.mpr ⟨List.mem_map.mpr ⟨_,inside,rfl⟩,rfl⟩
  rw [(phase.asks_reads now p).2] at command
  cases command

section Look

variable {pass : Pass} {first : Leg} (names : p.Names first)
include names

/-- A look that breaks off before it makes a transition keeps the text. -/
theorem names_observed (phase : Phase) {q : Plotter μ Journal} (same : q.display = (p.asked now).display) :
    ∃ leg, LastStarted first (attempt now p.motor (phase.asks now p)).1 leg ∧ q.Names leg := by
  refine ⟨first,.none (Plotter.Tells.idle_attempt (reads_idle phase now p)),?_⟩
  exact (Plotter.names_congr (congrArg Journal.screens same)).mpr names

/-- What a transition leaves that keeps the message. -/
theorem names_carried {phase : Phase} {effects : List Effect} {seen : Observation} {q : Plotter μ Journal}
    (looked : observe pass.phase now p = .ok seen q) (stepped : pass.phase.next seen = .ok (phase,effects))
    (keep : ∀ effect ∈ effects, effect.presents = false) :
    ∃ leg, LastStarted first (pass.calls now p) leg ∧ (Plotter.left (pass.carry phase effects) now q).Names leg := by
  have observed := observe_asks pass.phase now p
  simp only [looked] at observed
  obtain ⟨motors,answered⟩ := observed
  obtain ⟨same,early,named⟩ := names_observed names pass.phase ((observe_display pass.phase).of_ok looked)
  obtain ⟨leg,late,shown⟩ := pass.carry_tells phase keep now q same named
  have asked : pass.asks now p = pass.phase.asks now p ++ effects.flatMap Effect.asks := by
    unfold asks
    simp only [looked,stepped]
  refine ⟨leg,?_,shown⟩
  unfold calls
  rw [asked,attempt_append answered]
  rw [motors] at late
  exact early.trans late

/-- What a pass shows after a look that can still be cancelled before it. -/
theorem poll_screens (going : pass.phase.cancellable = true) :
    (∀ made p', pass.poll now p = .ok made p' →
      (∃ outcome, made = .done outcome ∧ p'.display.current = some pass.previous) ∨
        ∃ delay next, made = .again delay next ∧ next.previous = pass.previous ∧
          ((next.phase.cancellable = true ∧ ∃ leg, LastStarted first (pass.calls now p) leg ∧ p'.Names leg) ∨
            (next.phase = .closing none ∧ p'.display.current = some (.message (resultsMessage next.recorded))))) ∧
    ∀ reason p', pass.poll now p = .error reason p' → ∃ leg, LastStarted first (pass.calls now p) leg ∧ p'.Names leg := by
  constructor
  · intro made p' ran
    obtain ⟨phase,effects,q,looked,step,carried⟩ := poll_carries ran
    rcases step.screens going with ⟨ending,isEnding,rfl⟩ | ⟨rfl,rfl⟩ | ⟨open_,keep⟩
    · left
      cases ending with
      | complete | fail =>
        cases carried
        exact ⟨_,rfl,rfl⟩
      | _ => cases isEnding
    · cases carried
      exact .inr ⟨_,_,rfl,rfl,.inr ⟨rfl,rfl⟩⟩
    · right
      obtain ⟨leg,last,shown⟩ :=
        names_carried names looked (Phase.next_eq_ok.mpr step) fun effect inside => (keep effect inside).1
      have unended := addAll_going (fun effect inside => (keep effect inside).2) q.motion.spinUp
        ⟨pass.recorded,q.motion.homingPoll,none⟩
      have alive : phase.isTerminal = false := by cases phase <;> simp_all [Phase.cancellable,Phase.isTerminal]
      have made := (carry_ok carried).1
      simp only [progress,unended.1,alive,Bool.false_eq_true,↓reduceIte] at made
      unfold Plotter.left at shown
      rw [carried] at shown
      exact ⟨_,_,made,rfl,.inl ⟨open_,leg,last,shown⟩⟩
  · intro reason p' broken
    rw [poll_apply] at broken
    cases looked : observe pass.phase now p with
    | error cause q =>
      simp only [looked] at broken
      cases broken
      unfold calls asks
      simp only [looked,List.append_nil]
      exact names_observed names pass.phase ((observe_display pass.phase).of_error looked)
    | ok seen q =>
      simp only [looked] at broken
      cases stepped : pass.phase.next seen with
      | error overflow =>
        simp only [stepped] at broken
        cases broken
        unfold calls asks
        simp only [looked,stepped,List.append_nil]
        exact names_observed names pass.phase ((observe_display pass.phase).of_ok looked)
      | ok next =>
        obtain ⟨phase,effects⟩ := next
        simp only [stepped] at broken
        rcases (Phase.next_eq_ok.mp stepped).screens going with ⟨ending,isEnding,rfl⟩ | ⟨rfl,rfl⟩ | ⟨_,keep⟩
        · cases ending <;> first | cases broken | cases isEnding
        · cases broken
        · obtain ⟨leg,last,shown⟩ := names_carried names looked stepped fun effect inside => (keep effect inside).1
          unfold Plotter.left at shown
          rw [broken] at shown
          exact ⟨leg,last,shown⟩

end Look

namespace Shows

variable {pass next : Pass} {calls : List Called} {made : Progress Pass (Except Fault Calibration)} {reason : Failure}

/-- A look comes to an end with the screen of before put back, or the pass that goes on shows what it should. -/
theorem look (shows : pass.Shows calls p) (ran : pass.poll now p = .ok made p') :
    (∃ outcome, made = .done outcome ∧ p'.display.current = some pass.previous) ∨
      ∃ delay next, made = .again delay next ∧ next.previous = pass.previous ∧
        next.Shows (calls ++ pass.calls now p) p' := by
  rcases shows with ⟨going,leg,early,names⟩ | ⟨closing,shown⟩
  · rcases (poll_screens names going).1 made p' ran with ended | ⟨delay,next,again,same,after⟩
    · exact .inl ended
    · refine .inr ⟨delay,next,again,same,?_⟩
      rcases after with ⟨open_,last,late,named⟩ | results
      · exact .inl ⟨open_,last,early.trans late,named⟩
      · exact .inr results
  · have ends := poll_closing closing now p
    split at ends
    · obtain ⟨q,ended,back⟩ := ends
      rw [ended] at ran
      cases ran
      exact .inl ⟨_,rfl,back⟩
    · obtain ⟨delay,q,goes,same⟩ := ends
      rw [goes] at ran
      cases ran
      exact .inr ⟨delay,pass,rfl,rfl,.inr ⟨closing,same.trans shown⟩⟩

/-- A look that is broken off leaves the leg on the display that was started last. -/
theorem broken (shows : pass.Shows calls p) (ran : pass.poll now p = .error reason p') :
    ∃ leg, LastStarted .toolUp (calls ++ pass.calls now p) leg ∧ p'.Names leg := by
  rcases shows with ⟨going,leg,early,names⟩ | ⟨closing,shown⟩
  · obtain ⟨last,late,named⟩ := (poll_screens names going).2 reason p' ran
    exact ⟨last,early.trans late,named⟩
  · have ends := poll_closing closing now p
    split at ends
    · obtain ⟨_,ended,_⟩ := ends
      rw [ended] at ran
      cases ran
    · obtain ⟨_,_,goes,_⟩ := ends
      rw [goes] at ran
      cases ran

end Shows

end Pass
end Homing
end PenPlotter
