import PenPlotter.CommandLine.Execution
import PenPlotter.Proofs.Session.Mechanics
import PenPlotter.Proofs.Session.Trip
import PenPlotter.Proofs.Session.Unplugged

/-! Exit codes of command lines that home and move. Apart from their settings nothing can go wrong with them but that
motors are missing, which is found before anything is done, and that a press of the button cancels them. -/

namespace PenPlotter.CommandLine

open Motor

/-- The program that a command runs, unless it only checks the plotter. -/
def Command.program? : Command → Option (List Gcode)
  | .home => some [.home]
  | .go options => some (Session.goProgram options.x options.y options.z options.relative options.inches)
  | .selfCheck => none

/-- Such a program homes first and not again. -/
theorem Command.program?_homes {command : Command} {program : List Gcode} (runs : command.program? = some program) :
    ∃ rest, program = .home :: rest ∧ .home ∉ rest := by
  cases command with
  | selfCheck => cases runs
  | home =>
    cases runs
    exact ⟨[],rfl,List.not_mem_nil⟩
  | go options =>
    cases runs
    refine ⟨_,rfl,?_⟩
    cases options.inches <;> cases options.relative <;> simp

variable {R α β : Type} [Scalar R] {d d' : Desktop R}

omit [Scalar R] in
theorem bind_apply (program : CommandM R α) (rest : α → CommandM R β) (d : Desktop R) :
    (program >>= rest) d =
      match program d with
      | .ok value d => rest value d
      | .error reason d => .error reason d := by
  simp only [bind,EStateM.bind]
  cases program d <;> rfl

omit [Scalar R] in
theorem get_apply (d : Desktop R) : (get : CommandM R (Desktop R)) d = .ok d d := rfl

theorem ensureConnected_apply (d : Desktop R) :
    ensureConnected d =
      match d.session.plotter.disconnectedAxes with
      | [] => .ok () d
      | missing => .error (.failed (.ofFault (.disconnected missing))) d := by
  simp only [ensureConnected,bind_apply,get_apply,Session.ensureConnected]
  cases d.session.plotter.disconnectedAxes <;> rfl

/-- A desktop whose plotter is calibrated and has its motors, so that its positions can be told. -/
structure Desktop.Ready (d : Desktop R) : Prop where
  calibration : d.session.plotter.calibration.isSome = true
  connected : d.session.plotter.Connected

namespace Desktop.Ready

theorem ask (ready : d.Ready) {question : PlotterM (Simulated R) Panel α} (glances : Plotter.Glances question)
    (answers : ∃ value p', question d.session.schedule.now d.session.plotter = .ok value p') :
    ∃ value d', CommandLine.ask question d = .ok value d' ∧ d'.Ready := by
  obtain ⟨value,p',told⟩ := answers
  have glanced := glances.of_ok told
  refine ⟨value,{ d with session := { d.session with plotter := p' } },?_,?_,glanced.connected ready.connected⟩
  · simp only [CommandLine.ask,Session.ask,told]
  · exact glanced.calibration ▸ ready.calibration

theorem readNormalized (ready : d.Ready) (axis : Axis) :
    ∃ value d', CommandLine.ask (Plotter.readNormalized axis) d = .ok value d' ∧ d'.Ready := by
  obtain ⟨c,known⟩ := Option.isSome_iff_exists.mp ready.calibration
  exact ready.ask (.readNormalized axis) ⟨_,_,Plotter.readNormalized_connected known (ready.connected axis)⟩

theorem statusLine (ready : d.Ready) :
    ∃ line d', CommandLine.ask Plotter.statusLine d = .ok line d' ∧ d'.Ready :=
  ready.ask .statusLine (Plotter.statusLine_connected _ fun _ => ready.connected)

end Desktop.Ready

/-- A command stops where its program does. It ends if it is done and the plotter is then ready to be told of. -/
def Follows (fuel : Nat) (program : List Gcode) (command : CommandM R Unit) (d : Desktop R) : Prop :=
  match d.session.runProgram fuel program with
  | none => ∃ d', command d = .error .unfinished d'
  | some (.error failure, _) => ∃ d', command d = .error (.ofFailure failure) d'
  | some (.ok (), s) => Desktop.Ready { d with session := s } → ∃ d', command d = .ok () d'

/-- With all its motors a command follows its program if what it tells afterwards can be told. -/
theorem follows_of_tells {program : List Gcode} {tell : CommandM R Unit} (connected : d.session.plotter.Connected)
    (fuel : Nat) (tells : ∀ d : Desktop R, d.Ready → ∃ d', tell d = .ok () d') :
    Follows fuel program (do ensureConnected; runProgram fuel program; tell) d := by
  have starts : ensureConnected d = .ok () d := by
    rw [ensureConnected_apply,Plotter.disconnectedAxes_eq_nil.mpr connected]
  unfold Follows
  simp only [bind_apply,starts,runProgram]
  cases d.session.runProgram fuel program with
  | none => exact ⟨_,rfl⟩
  | some ran =>
    obtain ⟨result,s⟩ := ran
    cases result with
    | error failure => exact ⟨_,rfl⟩
    | ok => exact tells _

theorem perform_follows {command : Command} {program : List Gcode} (runs : command.program? = some program)
    (connected : d.session.plotter.Connected) (fuel : Nat) (json : Bool) :
    Follows fuel program (perform fuel json command) d := by
  cases command with
  | selfCheck => cases runs
  | home =>
    cases runs
    apply follows_of_tells connected
    intro d ready
    obtain ⟨c,known⟩ := Option.isSome_iff_exists.mp ready.calibration
    simp only [bind_apply,get_apply,known]
    cases json <;> exact ⟨_,rfl⟩
  | go options =>
    cases runs
    apply follows_of_tells connected
    intro d ready
    cases json with
    | true =>
      obtain ⟨_,_,tool,ready⟩ := ready.readNormalized .tool
      obtain ⟨_,_,x,ready⟩ := ready.readNormalized .x
      obtain ⟨_,_,y,_⟩ := ready.readNormalized .y
      simp only [↓reduceIte,bind_apply,tool,x,y]
      exact ⟨_,rfl⟩
    | false =>
      obtain ⟨_,_,line,_⟩ := ready.statusLine
      simp only [Bool.false_eq_true,↓reduceIte,bind_apply,line]
      exact ⟨_,rfl⟩

/-- Without all its motors a command stops before anything is done. -/
theorem perform_refused {command : Command} {program : List Gcode} (runs : command.program? = some program)
    (lacking : d.session.plotter.disconnectedAxes ≠ []) (fuel : Nat) (json : Bool) :
    perform fuel json command d = .error (.failed (.ofFault (.disconnected d.session.plotter.disconnectedAxes))) d := by
  have stops : ensureConnected d =
      .error (.failed (.ofFault (.disconnected d.session.plotter.disconnectedAxes))) d := by
    rw [ensureConnected_apply]
    cases missing : d.session.plotter.disconnectedAxes with
    | nil => exact absurd missing lacking
    | cons => rfl
  cases command with
  | selfCheck => cases runs
  | home => simp only [perform,home,bind_apply,stops]
  | go options => simp only [perform,go,bind_apply,stops]

theorem exitCode_outcome (json : Bool) (screens results : String) (error : Option Report) :
    (outcome json screens results error).exitCode = error.elim 0 Report.exitCode := by
  cases json <;> rfl

/-- The exit code of a command whose program is over. -/
def exitCodeOf : Except Failure Unit → Nat
  | .ok () => 0
  | .error (.report report) => report.exitCode
  | .error (.overflow overflow) => (Report.ofText overflow.message).exitCode

section Execute

variable {settings : Settings} {invocation : Invocation} {settingsText : Option String} {program : List Gcode}
variable (valid : settings.validate = .ok ()) (read : readSettings invocation.settingsFile settingsText = .ok settings)
variable (runs : invocation.command.program? = some program) (fuel : Nat) (presses : List Nat)
include valid read runs

/-- If a motor is missing a command line ends at once, and the exit code says so. -/
theorem execute_refused (lacking : Axis.all.filter settings.machine.disconnected.contains ≠ []) :
    (execute R fuel invocation settingsText presses).map Outcome.exitCode = some 3 := by
  let d : Desktop R := { session := Session.opening settings presses {} }
  have stops := perform_refused (d := d) runs (by rwa [Session.disconnectedAxes_opening]) fuel invocation.options.json
  simp only [execute,read,Session.start_eq_opening valid]
  rw [stops]
  exact congrArg some (exitCode_outcome ..)

/-- With all its motors a command line ends when its program does, and the exit code tells how. -/
theorem execute_runs [Scalar.Lawful R] (connected : settings.machine.disconnected = []) :
    (execute R fuel invocation settingsText presses).map Outcome.exitCode =
      ((Session.opening settings presses {} : Session R).runProgram fuel program).map fun (result, _) =>
        exitCodeOf result := by
  let d : Desktop R := { session := Session.opening settings presses {} }
  have there : d.session.plotter.Connected := by
    refine Plotter.disconnectedAxes_eq_nil.mp ((Session.disconnectedAxes_opening ..).trans ?_)
    simp [connected]
  have performed := perform_follows (d := d) runs there fuel invocation.options.json
  unfold Follows at performed
  simp only [execute,read,Session.start_eq_opening valid]
  cases ran : (Session.opening settings presses {} : Session R).runProgram fuel program with
  | none =>
    simp only [d,ran] at performed
    obtain ⟨_,stopped⟩ := performed
    rw [stopped]
    rfl
  | some left =>
    obtain ⟨result,after⟩ := left
    simp only [d,ran] at performed
    cases result with
    | error failure =>
      obtain ⟨_,stopped⟩ := performed
      rw [stopped]
      cases failure <;> exact congrArg some (exitCode_outcome ..)
    | ok =>
      obtain ⟨rest,rfl,once⟩ := Command.program?_homes runs
      rcases Session.trip_ends valid connected once ran with ⟨_,homed,there⟩ | ⟨_,_,told,_⟩
      · obtain ⟨_,ended⟩ := performed ⟨homed,there⟩
        rw [ended]
        exact congrArg some (exitCode_outcome ..)
      · cases told

end Execute

open Session (start opening Lived)

/-- No device error comes to light. With valid settings a session begins, and whenever one of its programs returns it is
done, or it reports that the plotter is not homed, that homing or the move was cancelled or, if motors are missing,
which ones; a program in which position arithmetic overflows does not return. If some are, the plotter is never
calibrated and nothing is asked of its motors. Therefore a command line that homes or moves ends with exit code 3 if
motors are missing, and otherwise, if it ends, with 0 when its program is done or with 4 when a press has cancelled
it. -/
theorem no_device_error_surfaces {settings : Settings} (valid : settings.validate = .ok ()) (presses : List Nat) :
    let missing := Axis.all.filter settings.machine.disconnected.contains
    (∀ out, ∃ first : Session R, start settings presses out = .ok first ∧ ∀ log s, Lived first log s →
      s.ensureConnected = (if missing = [] then .ok () else .error (.disconnected missing)) ∧
      ∀ fuel program,
        (∀ result after, s.runProgram fuel program = some (result,after) →
          (∀ overflow, result ≠ .error (.overflow overflow)) →
          result = .ok () ∨ ∃ fault, result = .error (.report (.ofFault fault)) ∧ fault.Foreseen missing) ∧
        (missing ≠ [] → s.Unasked fuel program)) ∧
    ∀ [Scalar.Lawful R] (invocation : Invocation) (settingsText : Option String) (program : List Gcode),
      readSettings invocation.settingsFile settingsText = .ok settings →
      invocation.command.program? = some program → ∀ fuel,
        (missing ≠ [] → (execute R fuel invocation settingsText presses).map Outcome.exitCode = some 3) ∧
        (missing = [] → ∀ outcome, execute R fuel invocation settingsText presses = some outcome →
          ∃ result after, (opening settings presses {} : Session R).runProgram fuel program = some (result,after) ∧
            (outcome.exitCode = 0 ∧ result = .ok () ∨
              outcome.exitCode = 4 ∧ ∃ fault, (fault = .homingCancelled ∨ fault = .moveCancelled) ∧
                result = .error (.report (.ofFault fault)) ∧ PressedBy presses after.schedule.now)) := by
  intro missing
  constructor
  · intro out
    have started : start settings presses out = .ok (opening settings presses out : Session R) :=
      Session.start_eq_opening valid
    refine ⟨_,started,fun log s lived => ?_⟩
    have begun := (Session.start_settled started).1
    have settled := lived.settled begun
    have same : s.plotter.disconnectedAxes = missing :=
      (lived.disconnectedAxes begun).trans (Session.disconnectedAxes_opening settings presses out)
    refine ⟨?_,fun fuel program => ⟨fun result after ran returned => ?_,fun lacking => ?_⟩⟩
    · unfold Session.ensureConnected
      rw [same]
      cases missing <;> rfl
    · obtain ⟨last,worked,rfl⟩ := Session.work_of_runProgram settled.idle ran
      obtain ⟨rfl,foreseen⟩ := settled.foreseen worked returned
      rw [← same]
      exact foreseen.verdict
    · exact settled.unasked (by rwa [same]) fuel program
  · intro lawful invocation settingsText program read runs fuel
    refine ⟨execute_refused valid read runs fuel presses,fun whole outcome ended => ?_⟩
    have connected : settings.machine.disconnected = [] := by
      apply List.eq_nil_iff_forall_not_mem.mpr
      intro axis listed
      simpa [listed] using List.filter_eq_nil_iff.mp whole axis axis.mem_all
    have codes := execute_runs (R := R) valid read runs fuel presses connected
    rw [ended,Option.map_some] at codes
    obtain ⟨⟨result,after⟩,ran,code⟩ := Option.map_eq_some_iff.mp codes.symm
    refine ⟨result,after,ran,?_⟩
    rw [← code]
    obtain ⟨rest,rfl,once⟩ := Command.program?_homes runs
    rcases Session.trip_ends valid connected once ran with ⟨rfl,_⟩ | ⟨fault,which,rfl,pressed⟩
    · exact .inl ⟨rfl,rfl⟩
    · refine .inr ⟨?_,fault,which,rfl,pressed⟩
      rcases which with rfl | rfl <;> rfl

/-- On the standard machine the plotter is homed and the exit code is 0; on one without its tool nothing is asked of
the motors. -/
theorem standard_machine_exits :
    (∃ fuel outcome, execute Rat fuel ⟨{},.home⟩ none [] = some outcome ∧ outcome.exitCode = 0) ∧
    ∃ first : Session Rat, start { machine := { Machine.standard with disconnected := [.tool] } } [] = .ok first ∧
      first.ensureConnected = .error (.disconnected [.tool]) ∧
      ∀ fuel program, first.Unasked fuel program := by
  constructor
  · have valid : ({} : Settings).validate = .ok () := rfl
    obtain ⟨⟨fuel,made,ran⟩,_⟩ := Session.homing_ends valid rfl rfl {}
    have read : readSettings (⟨{},.home⟩ : Invocation).settingsFile none = .ok {} := rfl
    have runs : (⟨{},.home⟩ : Invocation).command.program? = some [.home] := rfl
    have codes := execute_runs (R := Rat) valid read runs fuel [] rfl
    rw [ran] at codes
    obtain ⟨outcome,ended,_⟩ := Option.map_eq_some_iff.mp codes
    obtain ⟨_,_,_,⟨done,_⟩ | ⟨_,_,_,_,press,given,_⟩⟩ :=
      ((no_device_error_surfaces (R := Rat) valid []).2 ⟨{},.home⟩ none [.home] read runs fuel).2 rfl outcome ended
    · exact ⟨fuel,outcome,ended,done⟩
    · cases given
  · have valid : ({ machine := { Machine.standard with disconnected := [.tool] } } : Settings).validate = .ok () := rfl
    obtain ⟨first,started,all⟩ := (no_device_error_surfaces (R := Rat) valid []).1 {}
    obtain ⟨refused,runs⟩ := all [] first .opened
    exact ⟨first,started,refused,fun fuel program => (runs fuel program).2 (by decide)⟩

end PenPlotter.CommandLine
