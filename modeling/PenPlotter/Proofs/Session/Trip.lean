import PenPlotter.Proofs.Display.Heard
import PenPlotter.Proofs.Homing.Undisturbed
import PenPlotter.Proofs.Schedule.Timing
import PenPlotter.Proofs.Session.Opening
import PenPlotter.Proofs.Session.Progress

/-! A program that homes first and not again, on a machine with all its motors. It is done in the end or a press of
the button has cancelled it, and nothing else can become of it. -/

namespace PenPlotter

open Motor

variable {R : Type} [Scalar R]

namespace Session

/-- How such a program stands: what is under way, and its result. -/
inductive Trip (machine : Machine) (presses : List Nat) (now : Nat) (p : Plotter (Simulated R) Panel) :
    Option (Errand (List Gcode)) → Result → Prop where
  | homing {pass : Homing.Pass} {rest : List Gcode} : .home ∉ rest → Homing.Surveys machine pass p →
      pass.phase.refuses = false → pass.previous = mainMenu → p.calibration = none →
      p.display.Heard presses now pass.phase.reports → Trip machine presses now p (some ⟨.homing pass, rest⟩) none
  | moving {targets : Targets} {rest : List Gcode} : .home ∉ rest → p.calibration.isSome = true → p.Connected →
      p.display.Heard presses now false → Trip machine presses now p (some ⟨.move targets, rest⟩) none
  | done : p.calibration.isSome = true → p.Connected → Trip machine presses now p none (some (.ok ()))
  | cancelled : PressedBy presses now → Trip machine presses now p none (some (.error .homingCancelled))
  | dropped : PressedBy presses now → Trip machine presses now p none none

namespace Trip

variable {machine : Machine} {presses : List Nat} {now earlier : Nat} {p p' : Plotter (Simulated R) Panel}
variable {l : Logged R} {rest : List Gcode} {errand : Option (Errand (List Gcode))} {result : Result}

/-- The commands after homing are begun one after the other, up to a move. -/
theorem undertaken (once : .home ∉ rest) (homed : l.plotter.calibration.isSome = true)
    (connected : l.plotter.Connected) (heard : l.plotter.display.Heard presses now false) :
    ∃ stage logged, undertake now rest l = .ok stage logged ∧
      Trip machine presses now logged.plotter stage.errand? (stage.result? none) := by
  induction rest generalizing l with
  | nil => exact ⟨_,_,rfl,.done homed connected⟩
  | cons command rest ih =>
    simp only [List.mem_cons,not_or] at once
    cases command with
    | home => exact absurd rfl once.1
    | useMillimeters | useInches | absolute | relative =>
      exact ih (l := { plotter := { l.plotter with modes := _ }, log := _ }) once.2 homed connected heard
    | go x y z =>
      obtain ⟨c,known⟩ := Option.isSome_iff_exists.mp homed
      obtain ⟨q,p',ran,glanced,apart,motors⟩ := Gcode.go_connected now known connected mainMenu x y z
      refine ⟨.waiting 0 ⟨.move _,rest⟩,⟨p',_⟩,by simp only [undertake,Logged.write,ran]; rfl,.moving once.2 ?_ ?_ ?_⟩
      · rw [show p'.calibration = l.plotter.calibration from (congrArg Plotter.calibration apart :)]
        exact homed
      · intro axis
        rw [motors]
        exact (congrArg Simulated.Build.connected (heeded_build now q.motor _ axis)).trans
          (glanced.connected connected axis)
      · rw [show p'.display = l.plotter.display from (congrArg Plotter.display apart :)]
        exact heard

variable [Scalar.Lawful R]

/-- A look at the homing pass leads on, or to the commands after it, or finds the press that cancels it. -/
theorem homing_looked {pass : Homing.Pass} (sound : ∀ axis, (machine.travel axis).Sound)
    (trip : Trip machine presses earlier l.plotter (some ⟨.homing pass,rest⟩) none) (later : earlier ≤ now) :
    ∃ stage logged, attend now ⟨.homing pass,rest⟩ l = .ok stage logged ∧
      Trip machine presses now logged.plotter stage.errand? (stage.result? none) := by
  obtain ⟨once,surveys,accepted,previous,uncalibrated,heard⟩ : .home ∉ rest ∧ Homing.Surveys machine pass l.plotter ∧
      pass.phase.refuses = false ∧ pass.previous = mainMenu ∧ l.plotter.calibration = none ∧
      l.plotter.display.Heard presses earlier pass.phase.reports := by
    cases trip with
    | homing once surveys accepted previous uncalibrated heard =>
      exact ⟨once,surveys,accepted,previous,uncalibrated,heard⟩
  obtain ⟨_,measured,_⟩ := surveys.measured
  obtain ⟨made,p',ran⟩ := surveys.poll_exists sound now
  obtain ⟨confirms,asked⟩ := heard.takeConfirm later
  have looked := surveys.look ran
  simp only [attend,Logged.write,Operation.poll_homing,ran]
  cases made with
  | dropped => exact absurd looked id
  | again delay next =>
    obtain ⟨same,heard⟩ := Homing.Pass.poll_heard heard later ran
    have goes : (Operation.homing pass).poll now l.plotter = .ok (.again delay (.homing next)) p' := by
      rw [Operation.poll_homing,ran]
      rfl
    have accepted := (Operation.poll_again goes).2.trans accepted
    have uncalibrated := ((pass.poll_yields .calibration).of_ok ran).trans uncalibrated
    exact ⟨_,_,rfl,.homing once looked accepted (same.trans previous) uncalibrated heard⟩
  | done outcome =>
    have pressed := Homing.Pass.confirmed_of_done measured.alive ran
    cases outcome with
    | ok c =>
      have dismissed := Homing.Pass.poll_dismissed (Homing.Pass.closing_of_done measured.alive ran) pressed
      cases ran.symm.trans dismissed
      have shown := (Panel.Heard.lasting presses now).present asked pass.previous
      have silent : pass.previous.isReport = false := by
        rw [previous]
        rfl
      rw [silent] at shown
      exact undertaken (l := { plotter := _, log := _ }) once rfl (fun axis => (looked.2 axis).connected) shown
    | error fault =>
      obtain rfl : fault = .homingCancelled :=
        (Homing.Pass.cancelled_of_done measured.alive ran).resolve_left (by simp [accepted])
      refine ⟨_,_,rfl,.cancelled ((confirms pressed).resolve_left fun reports => ?_)⟩
      -- A pass that shows its results is completed by a press.
      cases ran.symm.trans (Homing.Pass.poll_dismissed (Homing.Phase.reports_iff.mp reports) pressed)

omit [Scalar.Lawful R] in
/-- A look at a move leads on, or to the commands after it, or finds the press that breaks it off. -/
theorem move_looked {targets : Targets}
    (trip : Trip machine presses earlier l.plotter (some ⟨.move targets,rest⟩) none) (later : earlier ≤ now) :
    ∃ stage logged, attend now ⟨.move targets,rest⟩ l = .ok stage logged ∧
      Trip machine presses now logged.plotter stage.errand? (stage.result? none) := by
  obtain ⟨once,homed,connected,heard⟩ : .home ∉ rest ∧ l.plotter.calibration.isSome = true ∧ l.plotter.Connected ∧
      l.plotter.display.Heard presses earlier false := by
    cases trip with
    | moving once homed connected heard => exact ⟨once,homed,connected,heard⟩
  obtain ⟨confirms,asked⟩ := heard.takeConfirm later
  simp only [attend,Logged.write,Operation.poll_move]
  by_cases pressed : l.plotter.confirmed now = true
  · rw [targets.poll_confirmed pressed]
    exact ⟨_,_,rfl,.dropped ((confirms pressed).resolve_left Bool.false_ne_true)⟩
  · obtain ⟨p',glanced,ended⟩ := targets.poll_connected connected (Bool.eq_false_iff.mpr pressed)
    have homed : p'.calibration.isSome = true := by
      rw [glanced.calibration]
      exact homed
    have connected : p'.Connected := glanced.connected connected
    have heard : p'.display.Heard presses now false := by
      rw [glanced.display]
      exact asked
    rcases ended with ⟨ran,_⟩ | ⟨ran,_⟩
    · rw [ran]
      exact undertaken (l := { plotter := _, log := _ }) once homed connected heard
    · rw [ran]
      exact ⟨_,_,rfl,.moving once homed connected heard⟩

omit [Scalar.Lawful R] in
/-- A status line leaves the program where it is. -/
theorem printed (trip : Trip machine presses earlier p errand result) (later : earlier ≤ now)
    (told : printStatus now p = .ok () p') : Trip machine presses now p' errand result := by
  obtain ⟨q,line,glanced,rfl⟩ := printStatus_ok told
  cases trip with
  | homing once surveys accepted previous uncalibrated heard =>
    obtain ⟨line,same⟩ := printStatus_uncalibrated uncalibrated told
    rw [same]
    have heard := (heard.weaken later id).showStatus line
    exact .homing once ⟨surveys.measured,surveys.drives,surveys.fresh⟩ accepted previous uncalibrated heard
  | moving once homed connected heard =>
    refine .moving once ?_ (glanced.connected connected) ?_
    · exact glanced.calibration ▸ homed
    · exact ((glanced.display ▸ heard).weaken later id).showStatus line
  | done homed connected => exact .done (glanced.calibration ▸ homed) (glanced.connected connected)
  | cancelled pressed => exact .cancelled (pressed.later later)
  | dropped pressed => exact .dropped (pressed.later later)

end Trip

/-- Such a program in an office. -/
structure Office.Trips (machine : Machine) (presses : List Nat) (o : Office R) : Prop where
  wired : o.Wired
  trip : Trip machine presses o.now o.logged.plotter (o.errand.map Prod.snd) o.result

namespace Office.Trips

variable {machine : Machine} {presses : List Nat} {o o' : Office R} {reason : Failure}

/-- What a look at such a program leaves. -/
theorem looked [Scalar.Lawful R] (sound : ∀ axis, (machine.travel axis).Sound) (trips : o.Trips machine presses)
    {due : Due} {errand : Errand (List Gcode)} (waits : o.errand = some (due,errand)) :
    ∃ stage logged, attend (due.start o.now) errand o.logged = .ok stage logged ∧
      Trip machine presses (due.start o.now) logged.plotter stage.errand? (stage.result? o.result) := by
  have trip := trips.trip
  rw [waits,Option.map_some] at trip
  have later := due.le_start o.now
  generalize o.result = result at trip
  obtain ⟨operation,rest⟩ := errand
  cases operation with
  | homing pass =>
    obtain rfl : result = none := by cases trip; rfl
    exact trip.homing_looked sound later
  | move targets =>
    obtain rfl : result = none := by cases trip; rfl
    exact trip.move_looked later

theorem took [Scalar.Lawful R] (sound : ∀ axis, (machine.travel axis).Sound) (trips : o.Trips machine presses)
    (took : o.Took o') : o'.Trips machine presses := by
  refine ⟨trips.wired.took took,?_⟩
  cases took with
  | @looked due errand stage logged turn made =>
    obtain ⟨_,_,ran,after⟩ := trips.looked sound (errand_of_turn turn)
    cases made.symm.trans ran
    cases stage <;> exact after
  | @printed due plotter turn told => exact trips.trip.printed (due.le_start o.now) told

theorem not_broke [Scalar.Lawful R] (sound : ∀ axis, (machine.travel axis).Sound) (trips : o.Trips machine presses) :
    ¬ o.Broke reason := by
  intro broke
  cases broke with
  | @looked due errand logged turn made =>
    obtain ⟨_,_,ran,_⟩ := trips.looked sound (errand_of_turn turn)
    cases made.symm.trans ran
  | @printed due plotter turn made =>
    obtain ⟨_,_,_,told⟩ := printStatus_wired (due.start o.now) trips.wired.plotter
    cases told.symm.trans made

end Office.Trips

variable {settings : Settings} {presses : List Nat} {out : Writer} {fuel : Nat} {rest : List Gcode}
variable {result : Except Failure Unit} {after : Session R}

theorem heard_opening (settings : Settings) (presses : List Nat) (out : Writer) :
    (opening settings presses out : Session R).plotter.display.Heard presses 0 false where
  given _ given := given
  button := nofun
  dismissPending waits := by
    have waits : (settings.autoDismiss && mainMenu.isReport) = true := waits
    exact (Bool.and_eq_true_iff.mp waits).2

/-- On a machine with all its motors a program that homes first begins its homing pass. -/
theorem trip_opens [Scalar.Lawful R] (valid : settings.validate = .ok ())
    (connected : settings.machine.disconnected = []) (once : .home ∉ rest) (presses : List Nat) (out : Writer) :
    let s : Session R := opening settings presses out
    ∃ stage logged, undertake s.schedule.now (.home :: rest) { plotter := s.plotter } = .ok stage logged ∧
      (s.begun stage logged).Trips settings.machine presses := by
  intro s
  have fresh : Fresh settings.machine s.plotter := fresh_opening (Settings.sound_of_validate valid) connected
  have settled : s.Settled := (start_settled (start_eq_opening valid)).1
  let screen : Screen := .message (Homing.Pass.progressMessage .toolUp)
  let logged : Logged R := ⟨{ s.plotter with display := Display.present screen s.plotter.display },[.begun .home]⟩
  have made : undertake s.schedule.now (.home :: rest) { plotter := s.plotter } =
      .ok (.waiting 0 ⟨.homing { phase := .start, previous := mainMenu },rest⟩) logged := by
    simp only [undertake,Logged.write,home_connected (fun axis => (fresh.rests axis).connected)]
    rfl
  have shown := (Panel.Heard.lasting presses 0).present (heard_opening (R := R) settings presses out) screen
  exact ⟨_,_,made,settled.begun made,.homing once ((fresh.show _).surveys mainMenu) rfl rfl fresh.calibration shown⟩

/-- A program that homes first and not again is done in the end, and then the plotter is calibrated, or a press has
cancelled it. -/
theorem trip_ends [Scalar.Lawful R] (valid : settings.validate = .ok ())
    (connected : settings.machine.disconnected = []) (once : .home ∉ rest)
    (ran : (opening settings presses out : Session R).runProgram fuel (.home :: rest) = some (result,after)) :
    (result = .ok () ∧ after.plotter.calibration.isSome = true ∧ after.plotter.Connected) ∨
      ∃ fault, (fault = .homingCancelled ∨ fault = .moveCancelled) ∧ result = .error (.report (.ofFault fault)) ∧
        PressedBy presses after.schedule.now := by
  have travel := (Settings.sound_of_validate valid).travel
  obtain ⟨stage,logged,made,trips⟩ := trip_opens (R := R) valid connected once presses out
  have keeps (o o' : Office R) (trips : o.Trips settings.machine presses) (took : o.Took o') :
      o'.Trips settings.machine presses := trips.took travel took
  obtain ⟨last,worked,rfl⟩ := work_of_runProgram rfl ran
  rcases work_ends keeps (fun _ _ same => by cases made.symm.trans same; exact trips) worked with
    ⟨told,trips,idle⟩ | ⟨reason,rfl,⟨before,trips,broke⟩ | ⟨_,stuck⟩⟩
  · have trip := trips.trip
    rw [Office.errand_idle idle,Option.map_none] at trip
    unfold Office.verdict at told
    generalize last.result = reply at trip told
    cases trip with
    | done homed there => exact .inl ⟨told,homed,there⟩
    | cancelled pressed => exact .inr ⟨_,.inl rfl,told,pressed⟩
    | dropped pressed => exact .inr ⟨_,.inr rfl,told,pressed⟩
  · exact absurd broke (trips.not_broke travel)
  · cases made.symm.trans stuck

end Session
end PenPlotter
