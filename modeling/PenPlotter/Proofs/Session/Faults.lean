import PenPlotter.Proofs.Session.Opening
import PenPlotter.Proofs.Session.Order

/-! The faults of a session. Whatever its programs do, no device error comes to light: it is reported that the plotter
is not homed, that it was cancelled or which motors are missing, and the last one only if some are. -/

namespace PenPlotter

/-- The faults that may come to light on a machine without the motors of some axes. -/
def Fault.Foreseen (missing : List Axis) : Fault → Prop
  | .notHomed | .homingCancelled | .moveCancelled => True
  | .disconnected axes => missing ≠ [] ∧ axes = missing
  | .hardware _ | .motorFault _ | .settings _ => False

variable {R : Type} [Motor.Scalar R]

theorem Plotter.disconnectedAxes_of_builds {δ : Type} {p p' : Plotter (Motor.Simulated R) δ}
    (same : p'.builds = p.builds) : p'.disconnectedAxes = p.disconnectedAxes := by
  have connected (axis : Axis) : Motor.connected (p'.motor axis) = Motor.connected (p.motor axis) :=
    congrArg Motor.Simulated.Build.connected (congrFun same axis)
  simp only [disconnectedAxes,connected]

namespace Operation

/-- An operation under way on a machine without the motors of some axes is a homing pass that was told so. -/
inductive Informed : List Axis → Operation → Prop where
  | whole {operation : Operation} {readings : List (Homing.Leg × Raw)} :
      operation.Measured readings → operation.refuses = false → Informed [] operation
  | refused {missing : List Axis} {pass : Homing.Pass} : missing ≠ [] →
      pass.phase = .closing (some (.disconnected missing)) → Informed missing (.homing pass)

variable {operation : Operation} {missing : List Axis} {now : Nat}

theorem Informed.safe {δ : Type} {p : Plotter (Motor.Simulated R) δ} (informed : Informed missing operation)
    (same : p.disconnectedAxes = missing) : operation.refuses = true ∨ p.Connected := by
  cases informed with
  | whole => exact .inr (Plotter.disconnectedAxes_eq_nil.mp same)
  | refused _ shown => exact .inl (Homing.Phase.refuses_iff.mpr ⟨_,shown⟩)

section Poll

variable {μ δ : Type} [Motor μ] [Display δ] {p p' : Plotter μ δ}

theorem Informed.again {delay : Nat} {next : Operation} (informed : Informed missing operation)
    (ran : operation.poll now p = .ok (.again delay next) p') : Informed missing next := by
  cases informed with
  | whole measured accepted =>
    cases poll_ok measured ran with
    | again _ _ after => exact .whole after ((poll_again ran).2.trans accepted)
  | @refused _ pass some shown =>
    obtain ⟨_,made,q,looked,ended⟩ := pass.poll_refuses shown now p
    rw [poll_homing,looked] at ran
    rcases ended with rfl | ⟨_,rfl⟩ <;> cases ran
    exact .refused some shown

/-- A pass fails because it is cancelled or because motors are missing. -/
theorem Informed.failed {fault : Fault} (informed : Informed missing operation)
    (ran : operation.poll now p = .ok (.done (.homed (.error fault))) p') : fault.Foreseen missing := by
  obtain ⟨pass,rfl,looked⟩ := poll_homed ran
  cases informed with
  | whole measured accepted =>
    rcases Homing.Pass.cancelled_of_done measured.alive looked with refused | rfl
    · exact absurd refused (by simpa [refuses] using accepted)
    · trivial
  | refused some shown =>
    obtain ⟨_,made,q,same,ended⟩ := pass.poll_refuses shown now p
    cases looked.symm.trans same
    rcases ended with told | ⟨_,told⟩ <;> cases told
    exact ⟨some,rfl⟩

end Poll

end Operation

namespace Session

/-- A stage of a program from which no other faults come than can be foreseen. -/
def Stage.Foreseen (missing : List Axis) : Stage → Prop
  | .waiting _ errand => errand.operation.Informed missing
  | .ended (.error fault) => fault.Foreseen missing
  | .ended (.ok ()) | .dropped => True

section Stages

variable {l logged : Logged R} {stage : Stage} {now : Nat}

/-- An operation that is started is told which motors are missing. -/
theorem dispatch_informed {command : Gcode} {p p' : Plotter (Motor.Simulated R) Panel} {operation : Operation}
    (wired : p.Wired) (ran : command.dispatch mainMenu now p = .ok (.started operation) p') :
    operation.Informed p.disconnectedAxes := by
  cases command with
  | useMillimeters | useInches | absolute | relative => cases ran
  | home =>
    obtain ⟨pass,q,started,ran⟩ := bind_eq_ok.mp ran
    cases ran
    have measured := Homing.Pass.start_ok started
    unfold Homing.Pass.start at started
    simp only [bind_apply,Plotter.get_apply] at started
    cases missing : p.disconnectedAxes with
    | nil =>
      simp only [missing] at started
      cases started
      exact .whole (show (Operation.homing _).Measured [] from measured) rfl
    | cons first rest =>
      simp only [missing] at started
      cases started
      exact .refused (by simp) rfl
  | go x y z =>
    have started := Gcode.dispatch_started ran
    obtain ⟨_,_,⟨⟩,ran⟩ := bind_eq_ok.mp ran
    by_cases unhomed : p.calibration.isNone = true
    · rw [if_pos unhomed] at ran
      cases ran
    · rw [Plotter.disconnectedAxes_eq_nil.mpr (wired (by simpa [Option.isSome_iff_ne_none] using unhomed))]
      refine .whole started.1 ?_
      cases operation with
      | move => rfl
      | homing => cases started.2

theorem undertake_foreseen {commands : List Gcode} (wired : l.plotter.Wired)
    (ran : undertake now commands l = .ok stage logged) : stage.Foreseen l.plotter.disconnectedAxes := by
  induction commands generalizing l with
  | nil => cases ran; trivial
  | cons command rest ih =>
    obtain ⟨made,p',dispatched,builds,_⟩ := Gcode.dispatch_wired now wired mainMenu command
    simp only [undertake,Logged.write,dispatched] at ran
    cases made with
    | started operation => cases ran; exact dispatch_informed wired dispatched
    | replied reply =>
      cases reply with
      | error fault =>
        cases ran
        obtain rfl := dispatch_refused dispatched
        trivial
      | ok =>
        rw [← Plotter.disconnectedAxes_of_builds builds]
        exact ih (wired.of_builds builds ((Gcode.dispatch_keeps mainMenu command).of_ok dispatched)) ran

theorem attend_foreseen {errand : Errand (List Gcode)} (wired : l.plotter.Wired)
    (informed : errand.operation.Informed l.plotter.disconnectedAxes)
    (ran : attend now errand l = .ok stage logged) : stage.Foreseen l.plotter.disconnectedAxes := by
  simp only [attend,Logged.write] at ran
  cases made : errand.operation.poll now l.plotter with
  | error => simp [made] at ran
  | ok progress p' =>
    obtain ⟨after,builds,homed⟩ := poll_keeps_wired wired (informed.safe rfl) made
    have same := Plotter.disconnectedAxes_of_builds builds
    simp only [made] at ran
    cases progress with
    | again delay next => cases ran; exact informed.again made
    | dropped => cases ran; trivial
    | done completion =>
      rw [← same]
      cases completion with
      | arrived => exact undertake_foreseen after ran
      | homed outcome =>
        cases outcome with
        | ok c => exact undertake_foreseen (fun _ => homed c rfl) ran
        | error fault =>
          cases ran
          rw [same]
          exact informed.failed made

end Stages

/-- Nothing else will come to light in an office than can be foreseen. -/
structure Office.Foreseen (missing : List Axis) (o : Office R) : Prop where
  lacks : o.logged.plotter.disconnectedAxes = missing
  errand : ∀ due errand, o.errand = some (due, errand) → errand.operation.Informed missing
  result : ∀ fault, o.result = some (.error fault) → fault.Foreseen missing

namespace Office.Foreseen

variable {missing : List Axis} {o o' : Office R}

theorem enter {logged : Logged R} {stage : Stage} {result : Session.Result}
    (lacks : logged.plotter.disconnectedAxes = missing) (foreseen : stage.Foreseen missing)
    (earlier : ∀ fault, result = some (.error fault) → fault.Foreseen missing) (now : Nat) (status : Option Due) :
    ({ ({ now, logged, result } : Office R).enter stage with status }).Foreseen missing := by
  refine ⟨by cases stage <;> exact lacks,fun due errand waits => ?_,fun fault told => ?_⟩
  · cases stage with
    | waiting delay next => cases waits; exact foreseen
    | ended | dropped => cases waits
  · cases stage with
    | ended reply => cases told; exact foreseen
    | waiting | dropped => exact earlier fault told

theorem took (wired : o.Wired) (foreseen : o.Foreseen missing) (took : o.Took o') : o'.Foreseen missing := by
  cases took with
  | @looked due errand stage logged turn made =>
    have informed := foreseen.errand _ _ (errand_of_turn turn)
    have looked := attend_wired (due.start o.now) wired.plotter (wired.errand _ _ (errand_of_turn turn))
    rw [made] at looked
    have same := (Plotter.disconnectedAxes_of_builds looked.2.1).trans foreseen.lacks
    rw [← foreseen.lacks] at informed
    have after := attend_foreseen wired.plotter informed made
    rw [foreseen.lacks] at after
    have entered := enter same after foreseen.result (due.start o.now) o.status
    cases stage <;> exact entered
  | @printed due plotter turn made =>
    obtain ⟨q,line,glanced,told⟩ := printStatus_wired (due.start o.now) wired.plotter
    cases told.symm.trans made
    refine ⟨?_,foreseen.errand,foreseen.result⟩
    exact (Plotter.disconnectedAxes_of_builds (p := o.logged.plotter) glanced.builds).trans foreseen.lacks

/-- What is told of a program is that it is done, or a fault that can be foreseen. -/
theorem verdict (foreseen : o.Foreseen missing) :
    o.verdict = .ok () ∨ ∃ fault, o.verdict = .error (.report (.ofFault fault)) ∧ fault.Foreseen missing := by
  have results := foreseen.result
  unfold Office.verdict
  cases result : o.result with
  | none => exact .inr ⟨_,rfl,trivial⟩
  | some reply =>
    cases reply with
    | ok => exact .inl rfl
    | error fault => exact .inr ⟨fault,rfl,results fault result⟩

end Office.Foreseen

variable {s first : Session R} {fuel : Nat} {program : List Gcode} {result : Except Failure Unit} {last : Office R}

/-- What comes of a program that does not end in an overflow. -/
theorem Settled.foreseen (settled : s.Settled) (ran : s.work fuel program = some (result,last))
    (returned : ∀ overflow, result ≠ .error (.overflow overflow)) :
    result = last.verdict ∧ last.Foreseen s.plotter.disconnectedAxes := by
  have keeps (o o' : Office R) (wired : o.Wired) (foreseen : o.Foreseen s.plotter.disconnectedAxes)
      (took : o.Took o') : o'.Foreseen s.plotter.disconnectedAxes := foreseen.took wired took
  have opens (stage : Stage) (logged : Logged R)
      (made : undertake s.schedule.now program { plotter := s.plotter } = .ok stage logged) :
      (s.begun stage logged).Foreseen s.plotter.disconnectedAxes := by
    obtain ⟨_,_,ran,_,builds,_⟩ :=
      undertake_wired (l := { plotter := s.plotter }) s.schedule.now program settled.wired
    cases ran.symm.trans made
    have foreseen := undertake_foreseen (l := { plotter := s.plotter }) settled.wired made
    have none (fault : Fault) : (none : Session.Result) = some (.error fault) →
        fault.Foreseen s.plotter.disconnectedAxes := nofun
    have entered := Office.Foreseen.enter (Plotter.disconnectedAxes_of_builds builds) foreseen none s.schedule.now
      (some .immediate)
    cases stage <;> exact entered
  rcases settled.work_ends keeps opens ran with ⟨overflow,rfl⟩ | ⟨told,_,foreseen,_⟩
  · exact absurd rfl (returned overflow)
  · exact ⟨told,foreseen⟩

/-- All its life a session lacks the same motors. -/
theorem Lived.disconnectedAxes {log : List (Entry R)} (lived : Lived first log s) (settled : first.Settled) :
    s.plotter.disconnectedAxes = first.plotter.disconnectedAxes := by
  induction lived with
  | opened => rfl
  | ran before _ work returned ih =>
    exact ((before.settled settled).foreseen work returned).2.lacks.trans ih
  | waited _ _ ih => exact ih
  | asked _ glances ih =>
    rw [ask_plotter]
    exact (Plotter.disconnectedAxes_of_builds (glances _ _).builds).trans ih

/-- The motors that a session lacks from the beginning are those that the machine is said to lack. -/
theorem disconnectedAxes_opening (settings : Settings) (presses : List Nat) (out : Writer) :
    (opening settings presses out : Session R).plotter.disconnectedAxes =
      Axis.all.filter settings.machine.disconnected.contains := by
  have connected (axis : Axis) : (!Motor.connected ((opening settings presses out : Session R).plotter.motor axis)) =
      settings.machine.disconnected.contains axis := by
    rw [motor_opening]
    exact Bool.not_not _
  simp only [Plotter.disconnectedAxes,connected]

end Session
end PenPlotter
