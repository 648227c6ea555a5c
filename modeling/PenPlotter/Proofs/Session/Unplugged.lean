import PenPlotter.Proofs.Session.Deeds
import PenPlotter.Proofs.Session.Faults

/-! A session that lacks a motor. Its plotter is never calibrated, and nothing passes between it and its motors: a
homing pass only shows which motors are missing, and a move is refused because the plotter is not homed. -/

namespace PenPlotter

namespace Plotter

variable {μ δ α β : Type} {now : Nat} {p : Plotter μ δ}

/-- A program comes to something and leaves the motors and the calibration of a plotter alone. -/
def Spares (now : Nat) (p : Plotter μ δ) (program : PlotterM μ δ α) : Prop :=
  ∃ value p', program now p = .ok value p' ∧ p'.motor = p.motor ∧ p'.calibration = p.calibration

namespace Spares

theorem pure (value : α) : Spares now p (pure value : PlotterM μ δ α) := ⟨value,p,rfl,rfl,rfl⟩

theorem bind {program : PlotterM μ δ α} {rest : α → PlotterM μ δ β} (first : Spares now p program)
    (second : ∀ value p', p'.calibration = p.calibration → Spares now p' (rest value)) :
    Spares now p (program >>= rest) := by
  obtain ⟨value,p',ran,motor,calibration⟩ := first
  obtain ⟨result,p'',went,motor',calibration'⟩ := second value p' calibration
  refine ⟨result,p'',?_,motor'.trans motor,calibration'.trans calibration⟩
  rw [bind_apply,ran]
  exact went

theorem present [Display δ] (screen : Screen) : Spares now p (present screen : PlotterM μ δ Unit) :=
  ⟨(),_,rfl,rfl,rfl⟩

/-- Without a calibration the status line is told from what is plugged in. -/
theorem statusLine [Motor μ] (uncalibrated : p.calibration = none) :
    Spares now p (statusLine : PlotterM μ δ String) := by
  unfold Plotter.statusLine Spares
  simp only [bind_apply,get_apply,uncalibrated]
  exact ⟨_,p,rfl,rfl,uncalibrated⟩

end Spares

end Plotter

open Plotter (Spares)

variable {μ δ : Type} [Motor μ] [Display δ] {now : Nat} {p : Plotter μ δ}

/-- On a plotter that is not calibrated no command reaches the motors when it is begun. -/
theorem Gcode.dispatch_spares (uncalibrated : p.calibration = none) (previous : Screen) (command : Gcode) :
    Spares now p (command.dispatch previous : PlotterM μ δ Dispatched) := by
  cases command with
  | useMillimeters | useInches | absolute | relative => exact ⟨_,_,rfl,rfl,rfl⟩
  | go x y z => exact ⟨.replied (.error .notHomed),p,by simp [dispatch,bind_apply,uncalibrated],rfl,rfl⟩
  | home =>
    apply Spares.bind
    · apply Spares.bind ⟨p,p,rfl,rfl,rfl⟩
      intro _ _ _
      split
      · exact .bind (.present _) fun _ _ _ => .pure _
      · exact .bind (.present _) fun _ _ _ => .pure _
    · exact fun _ _ _ => .pure _

namespace Session

theorem beginning_spares (uncalibrated : p.calibration = none) (commands : List Gcode) :
    Spares now p (beginning commands : PlotterM μ δ Told) := by
  induction commands generalizing p with
  | nil => exact .pure _
  | cons command rest ih =>
    refine .bind (Gcode.dispatch_spares uncalibrated mainMenu command) fun dispatched p' same => ?_
    rcases dispatched with (fault | ⟨⟩) | operation
    · exact .pure _
    · exact .bind (ih (same.trans uncalibrated)) fun _ _ _ => .pure _
    · exact .pure _

/-- A look at a pass that was refused does not reach the motors. -/
theorem attending_spares {pass : Homing.Pass} {fault : Fault} (shown : pass.phase = .closing (some fault))
    (rest : List Gcode) : Spares now p (attending ⟨.homing pass,rest⟩ : PlotterM μ δ Told) := by
  obtain ⟨motor,made,p',ran,ended⟩ := pass.poll_refuses shown now p
  have calibration := (pass.poll_yields .calibration now p).1
  unfold Plotter.left at motor calibration
  rw [ran] at motor calibration
  unfold attending Spares
  simp only [bind_apply,Operation.poll_homing,ran]
  rcases ended with rfl | ⟨delay,rfl⟩
  · exact ⟨_,p',rfl,motor,calibration⟩
  · exact ⟨_,p',rfl,motor,calibration⟩

variable {R : Type} [Motor.Scalar R]

omit [Motor.Scalar R] in
/-- Motors under watch that are left alone have no exchanges. -/
theorem record_spared {α : Type} {p : Plotter (Motor.Simulated R) Panel}
    {program : PlotterM (Watched (Motor.Simulated R) Exchange) (Watched Panel Showing) α}
    (spares : Spares now p.watched program) (axis : Axis) :
    ((Plotter.left program now p.watched).motor axis).record = [] := by
  obtain ⟨value,p',ran,motor,_⟩ := spares
  unfold Plotter.left
  simp only [ran,motor]
  cases axis <;> rfl

omit [Motor.Scalar R] in
/-- A program that spares the motors is told of a plotter with the motors and the calibration it had. -/
theorem Left.Tells.spared {log : List (Entry R)} {left : Left R} {p : Plotter (Motor.Simulated R) Panel}
    {program : PlotterM (Motor.Simulated R) Panel Told} (tells : Left.Tells log left (program now p))
    (spares : Spares now p program) : ∃ stage logged, left = .ok stage logged ∧
      logged.plotter.motor = p.motor ∧ logged.plotter.calibration = p.calibration := by
  obtain ⟨told,p',ran,motor,calibration⟩ := spares
  rw [ran] at tells
  cases tells with
  | ok stage logged replied => exact ⟨stage,logged,rfl,motor,calibration⟩

/-- An office that lacks a motor and has left the others as they were. -/
structure Office.Unplugged (missing : List Axis) (motors : Axis → Motor.Simulated R) (o : Office R) : Prop
    extends o.Foreseen missing where
  lacking : missing ≠ []
  uncalibrated : o.logged.plotter.calibration = none
  motor : o.logged.plotter.motor = motors

namespace Office.Unplugged

variable {missing : List Axis} {motors : Axis → Motor.Simulated R} {o o' : Office R} {reason : Failure}

/-- Only a pass that shows what is missing can be under way. -/
theorem refused (unplugged : o.Unplugged missing motors) {due : Due} {errand : Errand (List Gcode)}
    (waits : o.errand = some (due,errand)) :
    ∃ pass fault rest, errand = ⟨.homing pass,rest⟩ ∧ pass.phase = .closing (some fault) := by
  obtain ⟨operation,rest⟩ := errand
  cases unplugged.errand due ⟨operation,rest⟩ waits with
  | whole => exact absurd rfl unplugged.lacking
  | refused _ shown => exact ⟨_,_,rest,rfl,shown⟩

theorem wired (unplugged : o.Unplugged missing motors) : o.Wired where
  plotter calibrated := by simp [unplugged.uncalibrated] at calibrated
  errand due errand waits := (unplugged.errand due errand waits).safe unplugged.lacks

theorem looked (unplugged : o.Unplugged missing motors) {due : Due} {errand : Errand (List Gcode)}
    (waits : o.errand = some (due,errand)) (now : Nat) :
    ∃ stage logged, attend now errand o.logged = .ok stage logged ∧
      logged.plotter.motor = motors ∧ logged.plotter.calibration = none := by
  obtain ⟨pass,fault,rest,rfl,shown⟩ := unplugged.refused waits
  obtain ⟨stage,logged,made,motor,calibration⟩ :=
    (attend_attending now ⟨.homing pass,rest⟩ o.logged).spared (attending_spares shown rest)
  exact ⟨stage,logged,made,motor.trans unplugged.motor,calibration.trans unplugged.uncalibrated⟩

theorem took (unplugged : o.Unplugged missing motors) (took : o.Took o') : o'.Unplugged missing motors := by
  have foreseen := unplugged.toForeseen.took unplugged.wired took
  cases took with
  | @looked due errand stage logged turn made =>
    obtain ⟨_,_,ran,motor,calibration⟩ := unplugged.looked (errand_of_turn turn) (due.start o.now)
    cases made.symm.trans ran
    cases stage <;> exact ⟨foreseen,unplugged.lacking,calibration,motor⟩
  | printed turn made =>
    obtain ⟨line,rfl⟩ := printStatus_uncalibrated unplugged.uncalibrated made
    exact ⟨foreseen,unplugged.lacking,unplugged.uncalibrated,unplugged.motor⟩

theorem not_broke (unplugged : o.Unplugged missing motors) : ¬ o.Broke reason := by
  intro broke
  cases broke with
  | @looked due errand logged turn made =>
    obtain ⟨_,_,ran,_⟩ := unplugged.looked (errand_of_turn turn) (due.start o.now)
    cases made.symm.trans ran
  | @printed due plotter turn made =>
    obtain ⟨_,_,_,told⟩ := printStatus_wired (due.start o.now) unplugged.wired.plotter
    cases told.symm.trans made

/-- Nothing passes between the plotter and its motors. -/
theorem deeds (unplugged : o.Unplugged missing motors) (fuel : Nat) :
    ∀ deed ∈ o.deeds fuel, ∀ axis, deed.exchanges axis = [] := by
  induction fuel generalizing o with
  | zero => simp [Office.deeds]
  | succ fuel ih =>
    unfold Office.deeds
    cases next : o.turn? with
    | none => simp
    | some turn =>
      intro deed done axis
      rcases List.mem_append.mp done with here | later
      · cases turn with
        | status due => simp [does] at here
        | look due errand =>
          obtain ⟨pass,fault,rest,rfl,shown⟩ := unplugged.refused (errand_of_turn next)
          obtain rfl := List.mem_singleton.mp here
          exact record_spared (attending_spares (p := o.logged.plotter.watched) shown rest) axis
      · cases taken : o.take turn with
        | mk result after =>
          simp only [taken] at later
          rcases take_cases next taken with ⟨rfl,took⟩ | ⟨reason,rfl,_⟩
          · exact ih (unplugged.took took) deed later axis
          · simp at later

end Office.Unplugged

variable {s : Session R} {fuel : Nat} {program : List Gcode} {result : Except Failure Unit}

/-- A program that is begun in a session without a calibration is begun in an office without one. -/
theorem begun_unplugged (uncalibrated : s.plotter.calibration = none) (lacking : s.plotter.disconnectedAxes ≠ [])
    (program : List Gcode) (lines : Bool) : ∃ stage logged,
      undertake s.schedule.now program { plotter := s.plotter } = .ok stage logged ∧
      (s.begunWith lines stage logged).Unplugged s.plotter.disconnectedAxes s.plotter.motor := by
  have wired : s.plotter.Wired := fun calibrated => by simp [uncalibrated] at calibrated
  obtain ⟨stage,logged,made,_,builds,_⟩ := undertake_wired (l := { plotter := s.plotter }) s.schedule.now program wired
  have foreseen := undertake_foreseen (l := { plotter := s.plotter }) wired made
  have none (fault : Fault) : (none : Session.Result) = some (.error fault) →
      fault.Foreseen s.plotter.disconnectedAxes := nofun
  obtain ⟨_,_,begun,motor,calibration⟩ :=
    (undertake_beginning s.schedule.now program { plotter := s.plotter }).spared (beginning_spares uncalibrated program)
  cases made.symm.trans begun
  refine ⟨stage,logged,made,⟨?_,lacking,?_,?_⟩⟩
  · exact .enter (Plotter.disconnectedAxes_of_builds builds) foreseen none s.schedule.now _
  · cases stage <;> exact calibration.trans uncalibrated
  · cases stage <;> exact motor

/-- The plotter once no more than a number of tasks were run that a program leaves to the schedule. -/
def plotterAfter (fuel : Nat) (s : Session R) (program : List Gcode) : Plotter (Motor.Simulated R) Panel :=
  let first := (proceed program).outcome ⟨s.schedule.now, s.schedule.size⟩ ⟨s.plotter, none⟩
  match first.result with
  | .error _ => first.context.plotter
  | .ok () =>
    match behaviour.run fuel ((s.schedule.applyAll first.requests).apply (.submit statusPriority 0 .status))
        first.context with
    | .unfinished _ desk | .finished _ _ desk => desk.plotter

/-- It is the plotter that a program leaves which is over by then. -/
theorem plotterAfter_of_ran {after : Session R} (ran : s.runProgram fuel program = some (result,after)) :
    s.plotterAfter fuel program = after.plotter := by
  unfold runProgram at ran
  unfold plotterAfter
  generalize (proceed program).outcome ⟨s.schedule.now,s.schedule.size⟩ ⟨s.plotter,none⟩ = first at ran ⊢
  obtain ⟨context,requests,made⟩ := first
  cases made with
  | error => cases ran; rfl
  | ok =>
    dsimp only at ran ⊢
    generalize behaviour.run fuel _ context = ended at ran ⊢
    cases ended with
    | unfinished => cases ran
    | finished => cases ran; rfl

/-- A run leads from office to office, however long it is. -/
theorem Office.run_passes {holds : Office R → Prop} (keeps : ∀ o o', holds o → o.Took o' → holds o')
    (whole : ∀ o reason, holds o → ¬ o.Broke reason) (fuel : Nat) {o : Office R} {schedule : Schedule Job}
    (start : holds o) (held : o.Holds schedule) :
    ∃ o' : Office R, holds o' ∧ (match behaviour.run fuel schedule o.desk with
      | .unfinished _ desk | .finished _ _ desk => desk.plotter) = o'.logged.plotter := by
  induction fuel generalizing o schedule with
  | zero => exact ⟨o,start,rfl⟩
  | succ fuel ih =>
    have step := step_holds held
    simp only [Behaviour.run]
    cases next : o.turn? with
    | none =>
      simp only [next] at step
      rw [step]
      exact ⟨o,start,rfl⟩
    | some turn =>
      simp only [next] at step
      cases taken : o.take turn with
      | mk result after =>
        simp only [taken] at step
        rcases take_cases next taken with ⟨rfl,took⟩ | ⟨reason,rfl,broke⟩
        · obtain ⟨schedule',step,held⟩ := step
          rw [step]
          exact ih (keeps _ _ start took) held
        · exact absurd broke (whole _ _ start)

/-- However long a program was run, its plotter is not calibrated, and nothing has passed between it and the motors,
neither for the sake of an operation nor for a status line. -/
structure Unasked (fuel : Nat) (s : Session R) (program : List Gcode) : Prop where
  calibration : (s.plotterAfter fuel program).calibration = none
  motor : (s.plotterAfter fuel program).motor = s.plotter.motor
  deeds : ∀ deed ∈ s.deedsWith true fuel program, ∀ axis, deed.exchanges axis = []
  statusLine : ∀ now axis,
    ((Plotter.left Plotter.statusLine now (s.plotterAfter fuel program).watched).motor axis).record = []

/-- In a session that lacks a motor nothing is asked of the others. -/
theorem Settled.unasked (settled : s.Settled) (lacking : s.plotter.disconnectedAxes ≠ []) (fuel : Nat)
    (program : List Gcode) : s.Unasked fuel program := by
  have uncalibrated : s.plotter.calibration = none := by
    by_contra calibrated
    exact lacking (Plotter.disconnectedAxes_eq_nil.mpr (settled.wired (Option.isSome_iff_ne_none.mpr calibrated)))
  obtain ⟨stage,logged,made,unplugged⟩ := begun_unplugged uncalibrated lacking program true
  have passes : ∃ o' : Office R, o'.Unplugged s.plotter.disconnectedAxes s.plotter.motor ∧
      s.plotterAfter fuel program = o'.logged.plotter := by
    have begun := proceed_outcome settled.idle program true
    simp only [made,↓reduceIte] at begun
    obtain ⟨result,desk,held⟩ := begun
    unfold plotterAfter
    simp only [result,← desk]
    exact Office.run_passes (fun _ _ => Office.Unplugged.took) (fun _ _ => Office.Unplugged.not_broke) fuel unplugged held
  obtain ⟨o,after,same⟩ := passes
  constructor
  · exact same ▸ after.uncalibrated
  · exact same ▸ after.motor
  · rw [(runWith_begun true fuel settled.idle made).2]
    intro deed done
    rcases List.mem_cons.mp done with rfl | later
    · exact record_spared (beginning_spares (p := s.plotter.watched) uncalibrated program)
    · exact unplugged.deeds fuel deed later
  · rw [same]
    exact fun now => record_spared (.statusLine after.uncalibrated)

end Session
end PenPlotter
