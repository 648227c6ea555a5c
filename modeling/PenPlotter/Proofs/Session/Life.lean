import PenPlotter.Proofs.Plotter.Connected
import PenPlotter.Proofs.Session.Queue

/-! The life of a session. A session runs programs, lets time pass and answers questions. All the while its
motors are plugged in if it is calibrated, so that a program ends in no other way than it should. -/

namespace PenPlotter

variable {R : Type} [Motor.Scalar R]

namespace Plotter

variable {δ : Type} {p p' : Plotter (Motor.Simulated R) δ}

omit [Motor.Scalar R] in
theorem connected_of_builds (connected : p.Connected) (same : p'.builds = p.builds) : p'.Connected := by
  rw [connected_iff,same]
  exact connected

omit [Motor.Scalar R] in
theorem Wired.of_builds (wired : p.Wired) (same : p'.builds = p.builds) (calibration : p'.calibration = p.calibration) :
    p'.Wired := by
  intro calibrated
  exact connected_of_builds (wired (by rwa [← calibration])) same

theorem Glanced.wired {now : Nat} (glanced : Glanced now p p') (wired : p.Wired) : p'.Wired :=
  wired.of_builds glanced.builds glanced.calibration

end Plotter

namespace Session

variable {now : Nat} {l logged : Logged R} {stage : Stage} {reason : Failure}

/-- An operation under way has the motors that it needs. -/
def Stage.Safe (p : Plotter (Motor.Simulated R) Panel) : Stage → Prop
  | .waiting _ errand => errand.operation.refuses = true ∨ p.Connected
  | .ended _ | .dropped => True

theorem undertake_wired (now : Nat) (commands : List Gcode) (wired : l.plotter.Wired) :
    ∃ stage logged, undertake now commands l = .ok stage logged ∧ logged.plotter.Wired ∧
      logged.plotter.builds = l.plotter.builds ∧ stage.Safe logged.plotter := by
  induction commands generalizing l with
  | nil => exact ⟨_,_,rfl,wired,rfl,trivial⟩
  | cons command rest ih =>
    obtain ⟨made,p',ran,builds,safe⟩ := Gcode.dispatch_wired now wired mainMenu command
    have after := wired.of_builds builds ((Gcode.dispatch_keeps mainMenu command).of_ok ran)
    simp only [undertake,Logged.write,ran]
    cases made with
    | started operation =>
      exact ⟨_,_,rfl,after,builds,
        (safe _ rfl).imp_right fun connected => Plotter.connected_of_builds connected builds⟩
    | replied reply =>
      cases reply with
      | error fault => exact ⟨_,_,rfl,after,builds,trivial⟩
      | ok =>
        obtain ⟨stage,logged,ran,wired,same,safe⟩ := ih (l := { plotter := p', log := _ }) after
        exact ⟨stage,logged,ran,wired,same.trans builds,safe⟩

theorem conclude_wired (now : Nat) (rest : List Gcode) {completion : Completion} (wired : l.plotter.Wired)
    (homed : ∀ c, completion = .homed (.ok c) → l.plotter.Connected) :
    ∃ stage logged, conclude now rest completion l = .ok stage logged ∧ logged.plotter.Wired ∧
      logged.plotter.builds = l.plotter.builds ∧ stage.Safe logged.plotter := by
  cases completion with
  | arrived => exact undertake_wired (l := _) now rest wired
  | homed outcome =>
    cases outcome with
    | error fault => exact ⟨_,_,rfl,wired,rfl,trivial⟩
    | ok c => exact undertake_wired (l := _) now rest fun _ => homed c rfl

/-- What a look leaves of a plotter that has the motors that it needs. It has them after a pass that calibrates it. -/
theorem poll_keeps_wired {operation : Operation} {made : Progress Operation Completion}
    {p p' : Plotter (Motor.Simulated R) Panel} (wired : p.Wired) (safe : operation.refuses = true ∨ p.Connected)
    (ran : operation.poll now p = .ok made p') :
    p'.Wired ∧ p'.builds = p.builds ∧ ∀ c, made = .done (.homed (.ok c)) → p'.Connected := by
  have builds := (Operation.poll_wired now safe).2
  have calibration := (operation.poll_yields .calibration now p).1
  unfold Plotter.left at builds calibration
  simp only [ran] at builds calibration
  refine ⟨wired.of_builds builds calibration,builds,?_⟩
  rintro c rfl
  have accepted := Operation.homed_accepted ran
  exact Plotter.connected_of_builds (safe.resolve_left (by simp [accepted])) builds

/-- A look at an operation that has its motors fails for an overflow only. -/
theorem attend_wired (now : Nat) {errand : Errand (List Gcode)} (wired : l.plotter.Wired)
    (safe : errand.operation.refuses = true ∨ l.plotter.Connected) :
    match attend now errand l with
    | .ok stage logged =>
      logged.plotter.Wired ∧ logged.plotter.builds = l.plotter.builds ∧ stage.Safe logged.plotter
    | .error reason _ => reason.OfRange := by
  simp only [attend,Logged.write]
  cases made : errand.operation.poll now l.plotter with
  | error reason p' => exact (Operation.poll_wired now safe).1 _ _ made
  | ok progress p' =>
    obtain ⟨after,builds,homed⟩ := poll_keeps_wired wired safe made
    cases progress with
    | again delay next =>
      refine ⟨after,builds,?_⟩
      rw [Stage.Safe,(Operation.poll_again made).2]
      exact safe.imp_right fun connected => Plotter.connected_of_builds connected builds
    | dropped => exact ⟨after,builds,trivial⟩
    | done completion =>
      obtain ⟨stage,logged,ran,wired,same,safe⟩ := conclude_wired (l := { plotter := p', log := _ }) now
        errand.next after fun c same => homed c (congrArg Progress.done same)
      dsimp only
      rw [ran]
      exact ⟨wired,same.trans builds,safe⟩

theorem printStatus_apply (now : Nat) (p : Plotter (Motor.Simulated R) Panel) :
    printStatus now p =
      match Plotter.statusLine now p with
      | .error reason q => .error reason q
      | .ok line q => .ok () { q with display := q.display.showStatus line } := by
  simp only [printStatus,bind_apply]
  cases Plotter.statusLine now p <;> rfl

/-- A status line is told by looking, and it can be told if the motors are there. -/
theorem printStatus_wired {p : Plotter (Motor.Simulated R) Panel} (now : Nat) (wired : p.Wired) :
    ∃ q line, Plotter.Glanced now p q ∧
      printStatus now p = .ok () { q with display := q.display.showStatus line } := by
  obtain ⟨line,q,told⟩ := Plotter.statusLine_connected now wired
  exact ⟨q,line,Plotter.Glances.statusLine.of_ok told,by rw [printStatus_apply,told]⟩

/-- The motors of an office are there where they are needed. -/
structure Office.Wired (o : Office R) : Prop where
  plotter : o.logged.plotter.Wired
  errand : ∀ due errand, o.errand = some (due, errand) →
    errand.operation.refuses = true ∨ o.logged.plotter.Connected

namespace Office.Wired

variable {o o' : Office R}

omit [Motor.Scalar R] in
theorem enter (wired : logged.plotter.Wired) (safe : stage.Safe logged.plotter) (now : Nat)
    (result : Session.Result) (status : Option Due) :
    ({ ({ now, logged, result } : Office R).enter stage with status }).Wired := by
  refine ⟨by cases stage <;> exact wired,fun due errand waits => ?_⟩
  cases stage with
  | waiting delay next => cases waits; exact safe
  | ended | dropped => cases waits

theorem took (wired : o.Wired) (took : o.Took o') : o'.Wired := by
  cases took with
  | @looked due errand stage logged turn made =>
    have looked := attend_wired (due.start o.now) wired.plotter (wired.errand _ _ (errand_of_turn turn))
    rw [made] at looked
    have after := enter looked.1 looked.2.2 (due.start o.now) o.result o.status
    cases stage <;> exact after
  | @printed due plotter turn made =>
    obtain ⟨q,line,glanced,told⟩ := printStatus_wired (due.start o.now) wired.plotter
    cases told.symm.trans made
    refine ⟨glanced.wired wired.plotter,fun due errand waits => ?_⟩
    exact (wired.errand due errand waits).imp_right glanced.connected

theorem broke (wired : o.Wired) (broke : o.Broke reason) : reason.OfRange := by
  cases broke with
  | @looked due errand logged turn made =>
    have looked := attend_wired (due.start o.now) wired.plotter (wired.errand _ _ (errand_of_turn turn))
    rwa [made] at looked
  | @printed due plotter turn made =>
    obtain ⟨_,_,_,told⟩ := printStatus_wired (due.start o.now) wired.plotter
    cases told.symm.trans made

end Office.Wired

/-- A session in which nothing is scheduled and whose motors are plugged in if it is calibrated. -/
structure Settled (s : Session R) : Prop where
  idle : s.schedule = { now := s.schedule.now }
  wired : s.plotter.Wired

namespace Settled

variable {s : Session R} {fuel : Nat} {program : List Gcode} {result : Except Failure Unit} {last : Office R}

theorem begun (settled : s.Settled)
    (made : undertake s.schedule.now program { plotter := s.plotter } = .ok stage logged) :
    (s.begun stage logged).Wired := by
  obtain ⟨_,_,ran,wired,_,safe⟩ := undertake_wired (l := { plotter := s.plotter }) s.schedule.now program settled.wired
  cases ran.symm.trans made
  have after := Office.Wired.enter wired safe s.schedule.now none (some .immediate)
  cases stage <;> exact after

/-- A program fails for an overflow only. Otherwise it goes on until nothing is left to do, and it keeps what
every turn keeps. -/
theorem work_ends (settled : s.Settled) {holds : Office R → Prop}
    (keeps : ∀ o o', o.Wired → holds o → o.Took o' → holds o')
    (opens : ∀ stage logged, undertake s.schedule.now program { plotter := s.plotter } = .ok stage logged →
      holds (s.begun stage logged))
    (ran : s.work fuel program = some (result,last)) :
    (∃ overflow, result = .error (.overflow overflow)) ∨
      (result = last.verdict ∧ last.Wired ∧ holds last ∧ last.turn? = none) := by
  have both (o o' : Office R) (before : o.Wired ∧ holds o) (took : o.Took o') : o'.Wired ∧ holds o' :=
    ⟨before.1.took took,keeps o o' before.1 before.2 took⟩
  rcases Session.work_ends both (fun stage logged made => ⟨settled.begun made,opens stage logged made⟩) ran with
    ⟨told,⟨wired,holds⟩,idle⟩ | ⟨reason,rfl,⟨before,⟨wired,_⟩,broke⟩ | ⟨logged,made⟩⟩
  · exact .inr ⟨told,wired,holds,idle⟩
  · obtain ⟨overflow,rfl⟩ := wired.broke broke
    exact .inl ⟨overflow,rfl⟩
  · obtain ⟨_,_,made',_⟩ := undertake_wired (l := { plotter := s.plotter }) s.schedule.now program settled.wired
    cases made'.symm.trans made

omit [Motor.Scalar R] in
theorem session (wired : last.Wired) (idle : last.turn? = none) : last.session.Settled where
  idle := by simp [Office.session,Office.queue_idle idle]
  wired := wired.plotter

end Settled

/-- The sessions that come of a first one, each with the log of all its programs. A program that ends in an
overflow ends the life of its session. -/
inductive Lived (first : Session R) : List (Entry R) → Session R → Prop where
  | opened : Lived first [] first
  | ran {log : List (Entry R)} {s : Session R} {fuel : Nat} {program : List Gcode} {result : Except Failure Unit}
      {last : Office R} :
      Lived first log s → s.runProgram fuel program = some (result, last.session) →
      s.work fuel program = some (result, last) → (∀ overflow, result ≠ .error (.overflow overflow)) →
      Lived first (log ++ last.logged.log) last.session
  | waited {log : List (Entry R)} {s : Session R} (time : Nat) :
      Lived first log s → Lived first log { s with schedule.now := s.schedule.now + time }
  | asked {log : List (Entry R)} {s : Session R} {α : Type} {question : PlotterM (Motor.Simulated R) Panel α} :
      Lived first log s → Plotter.Glances question → Lived first log (s.ask question).2

omit [Motor.Scalar R] in
theorem ask_plotter (s : Session R) (question : PlotterM (Motor.Simulated R) Panel α) :
    (s.ask question).2 = { s with plotter := Plotter.left question s.schedule.now s.plotter } := by
  unfold ask Plotter.left
  cases question s.schedule.now s.plotter <;> rfl

theorem Lived.settled {first s : Session R} {log : List (Entry R)} (lived : Lived first log s)
    (settled : first.Settled) : s.Settled := by
  induction lived with
  | opened => exact settled
  | ran _ _ work returned ih =>
    rcases ih.work_ends (fun _ _ _ _ _ => trivial) (fun _ _ _ => trivial) work with ⟨overflow,rfl⟩ | ⟨_,wired,_,idle⟩
    · exact absurd rfl (returned overflow)
    · exact .session wired idle
  | waited time _ ih => exact ⟨by rw [ih.idle],ih.wired⟩
  | asked _ glances ih =>
    rw [ask_plotter]
    exact ⟨ih.idle,(glances _ _).wired ih.wired⟩

/-- A session begins with nothing scheduled and without a calibration. -/
theorem start_settled {settings : Settings} {presses : List Nat} {out : Writer} {first : Session R}
    (started : start settings presses out = .ok first) : first.Settled ∧ first.plotter.calibration = none := by
  unfold start at started
  cases tool : powerOn (R := R) settings.machine .tool with
  | error => simp [tool,bind,Except.bind] at started
  | ok =>
    cases x : powerOn (R := R) settings.machine .x with
    | error => simp [tool,x,bind,Except.bind] at started
    | ok =>
      cases y : powerOn (R := R) settings.machine .y with
      | error => simp [tool,x,y,bind,Except.bind] at started
      | ok =>
        simp only [tool,x,y,bind,Except.bind,pure,Except.pure,Except.ok.injEq] at started
        subst started
        exact ⟨⟨rfl,fun calibrated => by cases calibrated⟩,rfl⟩

end Session
end PenPlotter
