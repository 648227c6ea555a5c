import PenPlotter.Proofs.Session.Moving

/-! Where a program that homes and then moves ends. It homes the plotter first, then it moves to the targets that the
coordinates mean on the plotter as it was then. What is read at a target stays so until the program is over. -/

namespace PenPlotter

open Motor

namespace Session

variable {machine : Machine} {c : Calibration} {now : Nat} {l logged : Logged Rat} {x y z : Option Float}
variable {relative inches : Bool}

/-- How far the move of such a program has come. -/
inductive Course (targets : Targets) (p : Plotter (Simulated Rat) Panel) :
    Option (Errand (List Gcode)) → Result → Prop where
  | moving : Course targets p (some ⟨.move targets,[]⟩) none
  | arrived : targets.Reached p → Course targets p none (some (.ok ()))
  | dropped : Course targets p none none

theorem Course.under_way {targets : Targets} {p : Plotter (Simulated Rat) Panel} {errand : Errand (List Gcode)}
    {result : Result} (course : Course targets p (some errand) result) :
    errand = ⟨.move targets,[]⟩ ∧ result = none := by
  cases course
  exact ⟨rfl,rfl⟩

/-- How such a program stands that has written a log: it homes, or it has homed and moves. -/
def Voyage (machine : Machine) (setup : Plotter Unit Unit) (x y z : Option Float) (relative inches : Bool)
    (log : List (Entry Rat)) (p : Plotter (Simulated Rat) Panel) (errand : Option (Errand (List Gcode)))
    (result : Result) : Prop :=
  match firstHome log with
  | .unordered => False
  | .underWay => ∃ pass, errand = some ⟨.homing pass,moveCommands x y z relative inches⟩ ∧ result = none ∧
      Homing.Surveys machine pass p ∧ p.setup = setup
  | .replied (.error fault) _ _ => errand = none ∧ result = some (.error fault)
  | .replied (.ok ()) now homed => ∃ c, Homed machine c homed ∧ homed.setup = { setup with calibration := some c } ∧
      let targets := moveTargets c now homed x y z relative inches
      targets.Steered machine (fun axis => (homed.motor axis).carriage) p ∧ p.calibration = some c ∧
        Course targets p errand result

namespace Voyage

variable {setup : Plotter Unit Unit} {log : List (Entry Rat)} {p p' homed : Plotter (Simulated Rat) Panel}
variable {errand : Option (Errand (List Gcode))} {result : Result} {at_ : Nat} {stage : Stage}

theorem underWay (first : firstHome log = .underWay) :
    Voyage machine setup x y z relative inches log p errand result ↔
      ∃ pass, errand = some ⟨.homing pass,moveCommands x y z relative inches⟩ ∧ result = none ∧
        Homing.Surveys machine pass p ∧ p.setup = setup := by
  simp only [Voyage,first]

theorem failed {fault : Fault} (first : firstHome log = .replied (.error fault) now homed) :
    Voyage machine setup x y z relative inches log p errand result ↔
      errand = none ∧ result = some (.error fault) := by
  simp only [Voyage,first]

theorem replied (first : firstHome log = .replied (.ok ()) now homed) :
    Voyage machine setup x y z relative inches log p errand result ↔
      ∃ c, Homed machine c homed ∧ homed.setup = { setup with calibration := some c } ∧
        let targets := moveTargets c now homed x y z relative inches
        targets.Steered machine (fun axis => (homed.motor axis).carriage) p ∧ p.calibration = some c ∧
          Course targets p errand result := by
  simp only [Voyage,first]

/-- A status line leaves the program where it is. -/
theorem printed (voyage : Voyage machine setup x y z relative inches log p errand result)
    (uncalibrated : setup.calibration = none) (told : printStatus at_ p = .ok () p') :
    Voyage machine setup x y z relative inches log p' errand result := by
  cases first : firstHome log with
  | unordered => simp [Voyage,first] at voyage
  | underWay =>
    obtain ⟨pass,waits,unended,surveys,same⟩ := (underWay first).mp voyage
    obtain ⟨line,rfl⟩ := printStatus_uncalibrated ((congrArg Plotter.calibration same).trans uncalibrated) told
    exact (underWay first).mpr ⟨pass,waits,unended,⟨surveys.measured,surveys.drives,surveys.fresh⟩,same⟩
  | replied reply now homed =>
    cases reply with
    | error fault => exact (failed first).mpr ((failed first).mp voyage)
    | ok =>
      obtain ⟨c,homed,same,steered,known,course⟩ := (replied first).mp voyage
      obtain ⟨q,line,glanced,rfl⟩ := printStatus_ok told
      have steered' := steered.glanced glanced
      refine (replied first).mpr ⟨c,homed,same,⟨steered'.heads,steered'.rests⟩,glanced.calibration.trans known,?_⟩
      cases course with
      | moving => exact .moving
      | arrived reached =>
        have reached := steered.reached_glanced reached glanced
        exact .arrived reached
      | dropped => exact .dropped

/-- A look at the homing pass. -/
theorem homing_looked {pass : Homing.Pass} (first : firstHome l.log = .underWay)
    (surveys : Homing.Surveys machine pass l.plotter) (same : l.plotter.setup = setup)
    (made : attend now ⟨.homing pass,moveCommands x y z relative inches⟩ l = .ok stage logged) :
    Voyage machine setup x y z relative inches logged.log logged.plotter stage.errand? (stage.result? none) := by
  simp only [attend,Logged.write,Operation.poll_homing] at made
  cases ran : pass.poll now l.plotter with
  | error => simp [ran] at made
  | ok progress p' =>
    have looked := surveys.look ran
    have kept : p'.setup = setup := ((pass.poll_yields .setup).of_ok ran).trans same
    simp only [ran] at made
    have soFar (confirmed : Bool) : firstHome (l.log ++ [.looked confirmed]) = .underWay := by
      rw [firstHome_append,first]
      rfl
    have told (reply : Except Fault Unit) (q : Plotter (Simulated Rat) Panel) (confirmed : Bool) :
        firstHome (l.log ++ [.looked confirmed] ++ [.replied reply now q]) = .replied reply now q := by
      rw [firstHome_append,soFar]
      rfl
    cases progress with
    | dropped => exact absurd looked id
    | again delay next =>
      cases made
      exact (underWay (soFar _)).mpr ⟨next,rfl,rfl,looked,kept⟩
    | done outcome =>
      cases outcome with
      | error fault =>
        cases made
        exact (failed (told _ _ _)).mpr ⟨rfl,rfl⟩
      | ok c =>
        let homed : Plotter (Simulated Rat) Panel := { p' with calibration := some c }
        have fits : Homed machine c homed := ⟨rfl,looked.1,looked.2⟩
        obtain ⟨after,begun,setup',_,steered,_⟩ := undertake_move (l := ⟨homed,l.log ++
          [.looked (l.plotter.confirmed now)] ++ [.replied (.ok ()) now homed]⟩) fits now x y z relative inches
        have first := firstHome_replied (told _ homed _) (undertake_extends begun)
        cases begun.symm.trans made
        refine (replied first).mpr ⟨c,fits,?_,steered,?_,.moving⟩
        · rw [← kept]
          rfl
        · exact (congrArg Plotter.calibration setup' :)

/-- A look at the move. -/
theorem move_looked {targets : Targets} (first : firstHome l.log = .replied (.ok ()) at_ homed)
    (voyage : Voyage machine setup x y z relative inches l.log l.plotter (some ⟨.move targets,[]⟩) none)
    (made : attend now ⟨.move targets,[]⟩ l = .ok stage logged) :
    Voyage machine setup x y z relative inches logged.log logged.plotter stage.errand? (stage.result? none) := by
  have first' := firstHome_replied first (attend_extends made)
  obtain ⟨c,fits,same,steered,known,course⟩ := (replied first).mp voyage
  refine (replied first').mpr ⟨c,fits,same,?_⟩
  generalize moveTargets c at_ homed x y z relative inches = goals at *
  cases course
  simp only [attend,Logged.write,Operation.poll_move] at made
  cases pressed : l.plotter.confirmed now with
  | true =>
    rw [Targets.poll_confirmed _ pressed] at made
    cases made
    exact ⟨⟨steered.heads,steered.rests⟩,known,.dropped⟩
  | false =>
    have asked : targets.Steered machine (fun axis => (homed.motor axis).carriage) (l.plotter.asked now) :=
      ⟨steered.heads,steered.rests⟩
    obtain ⟨p',glanced,⟨ran,shown⟩ | ⟨ran,_⟩⟩ := targets.poll_connected steered.connected pressed
    · have reached : targets.Reached p' := fun axis target on => shown (axis,target) (Targets.mem_toList.mpr on)
      have steered' := asked.glanced glanced
      have known' : p'.calibration = some c := glanced.calibration.trans known
      rw [ran] at made
      cases made
      exact ⟨⟨steered'.heads,steered'.rests⟩,known',.arrived reached⟩
    · have steered' := asked.glanced glanced
      have known' : p'.calibration = some c := glanced.calibration.trans known
      rw [ran] at made
      cases made
      exact ⟨steered',known',.moving⟩

/-- A program that has succeeded has homed the plotter and come to the targets. -/
theorem ends (voyage : Voyage machine setup x y z relative inches log p none (some (.ok ()))) :
    ∃ now homed c, firstHome log = .replied (.ok ()) now homed ∧ Homed machine c homed ∧
      homed.setup = { setup with calibration := some c } ∧ p.calibration = some c ∧
      let targets := moveTargets c now homed x y z relative inches
      targets.Steered machine (fun axis => (homed.motor axis).carriage) p ∧ targets.Reached p := by
  cases first : firstHome log with
  | unordered => simp [Voyage,first] at voyage
  | underWay =>
    obtain ⟨_,waits,_⟩ := (underWay first).mp voyage
    cases waits
  | replied reply now homed =>
    cases reply with
    | error fault =>
      obtain ⟨_,same⟩ := (failed first).mp voyage
      cases same
    | ok =>
      obtain ⟨c,fits,same,steered,known,course⟩ := (replied first).mp voyage
      cases course with
      | arrived reached => exact ⟨now,homed,c,rfl,fits,same,known,steered,reached⟩

end Voyage

/-- An office that runs such a program. -/
def Office.Runs (machine : Machine) (setup : Plotter Unit Unit) (x y z : Option Float) (relative inches : Bool)
    (o : Office Rat) : Prop :=
  Voyage machine setup x y z relative inches o.logged.log o.logged.plotter (o.errand.map Prod.snd) o.result

theorem Office.Runs.took {setup : Plotter Unit Unit} {o o' : Office Rat} (uncalibrated : setup.calibration = none)
    (runs : o.Runs machine setup x y z relative inches) (took : o.Took o') :
    o'.Runs machine setup x y z relative inches := by
  cases took with
  | @printed due plotter turn told => exact Voyage.printed runs uncalibrated told
  | @looked due errand stage logged turn made =>
    have waits := errand_of_turn turn
    unfold Office.Runs at runs
    rw [waits,Option.map_some] at runs
    have after : Voyage machine setup x y z relative inches logged.log logged.plotter stage.errand?
        (stage.result? o.result) := by
      cases first : firstHome o.logged.log with
      | unordered => simp [Voyage,first] at runs
      | underWay =>
        obtain ⟨pass,same,unended,surveys,setup⟩ := (Voyage.underWay first).mp runs
        cases same
        rw [unended]
        exact Voyage.homing_looked first surveys setup made
      | replied reply at_ homed =>
        cases reply with
        | error fault => cases ((Voyage.failed first).mp runs).1
        | ok =>
          obtain ⟨_,_,_,_,_,course⟩ := (Voyage.replied first).mp runs
          obtain ⟨rfl,unended⟩ := course.under_way
          rw [unended] at runs ⊢
          exact Voyage.move_looked first runs made
    cases stage <;> exact after

theorem Office.Runs.opens {s : Session Rat} {stage : Stage} (fresh : Fresh machine s.plotter)
    (made : undertake s.schedule.now (goProgram x y z relative inches) { plotter := s.plotter } = .ok stage logged) :
    (s.begun stage logged).Runs machine s.plotter.setup x y z relative inches := by
  have begins := home_connected (fun axis => (fresh.rests axis).connected) s.schedule.now
  simp only [goProgram,undertake,Logged.write,begins] at made
  cases made
  exact (Voyage.underWay rfl).mpr ⟨_,rfl,rfl,(fresh.show _).surveys mainMenu,rfl⟩

theorem Office.result_of_verdict {R : Type} {o : Office R} (succeeded : o.verdict = .ok ()) :
    o.result = some (.ok ()) := by
  unfold verdict at succeeded
  split at succeeded
  · assumption
  · cases succeeded
  · cases succeeded

/-- What an axis reads. -/
def read {R : Type} [Scalar R] (s : Session R) (axis : Axis) : Except Failure Normalized :=
  (s.ask (Plotter.readNormalized axis)).1

theorem read_connected {R : Type} [Scalar R] {s : Session R} {axis : Axis} (known : s.plotter.calibration = some c)
    (connected : (s.plotter.motor axis).connected = true) :
    s.read axis = .ok (c.toNormalized axis ((s.plotter.motor axis).advance s.schedule.now).encoder) := by
  unfold read ask
  rw [Plotter.readNormalized_connected known connected]

/-- What is read at the end of a move, beside what was read when the plotter was homed. -/
theorem reads_arrived {homed p : Plotter (Simulated Rat) Panel} {targets : Targets} (fits : Homed machine c homed)
    (steered : targets.Steered machine (fun axis => (homed.motor axis).carriage) p) (reached : targets.Reached p)
    (axis : Axis) (now later : Nat) :
    ((p.motor axis).advance later).encoder =
      match targets.on axis with
      | none => ((homed.motor axis).advance now).encoder
      | some target => target := by
  cases on : targets.on axis with
  | none =>
    have rests := fits.rests axis
    rw [steered.encoder_resting on,(rests.advance now).encoder,Simulated.advance_idle rests.drive]
  | some target => exact (steered.heads axis target on).encoder_advance (reached axis target on) later

variable {settings : Settings} {presses : List Nat} {out : Writer} {first after : Session Rat} {fuel : Nat}

/-- What stands at the end of such a program that succeeds. -/
theorem voyage_of_success (valid : settings.validate = .ok ()) (connected : settings.machine.disconnected = [])
    (started : start settings presses out = .ok first)
    (ran : first.runProgram fuel (goProgram x y z relative inches) = some (.ok (),after)) :
    ∃ last, first.work fuel (goProgram x y z relative inches) = some (.ok (),last) ∧ last.session = after ∧
      Voyage settings.machine (opening settings presses out : Session Rat).plotter.setup x y z relative inches
        last.logged.log last.logged.plotter none (some (.ok ())) := by
  have fresh : Fresh settings.machine (opening settings presses out : Session Rat).plotter :=
    fresh_opening (Settings.sound_of_validate valid) connected
  have settled := (start_settled started).1
  obtain rfl := eq_opening valid started
  generalize (opening settings presses out : Session Rat) = first at *
  have uncalibrated : first.plotter.setup.calibration = none := fresh.calibration
  have keeps (o o' : Office Rat) (_ : o.Wired)
      (runs : o.Runs settings.machine first.plotter.setup x y z relative inches) (took : o.Took o') :=
    runs.took uncalibrated took
  obtain ⟨last,worked,rfl⟩ := work_of_runProgram settled.idle ran
  rcases settled.work_ends keeps (fun _ _ => Office.Runs.opens fresh) worked with ⟨_,⟨⟩⟩ | ⟨succeeded,_,runs,idle⟩
  unfold Office.Runs at runs
  rw [Office.errand_idle idle,Office.result_of_verdict succeeded.symm] at runs
  exact ⟨last,worked,rfl,runs⟩

/-- A program that homes and moves and that succeeds ends where its coordinates ask, on the scales of the calibration
that it has made. An axis without a coordinate reads what it read when the plotter was homed. -/
theorem move_ends_at_target (valid : settings.validate = .ok ()) (connected : settings.machine.disconnected = [])
    (started : start settings presses out = .ok first)
    (ran : first.runProgram fuel (goProgram x y z relative inches) = some (.ok (),after)) :
    ∃ last now homed c,
      first.work fuel (goProgram x y z relative inches) = some (.ok (),last) ∧ last.session = after ∧
      firstHome last.logged.log = .replied (.ok ()) now homed ∧
      homed.calibration = some c ∧ after.plotter.calibration = some c ∧
      ∀ axis, ∃ here there, ({ plotter := homed, schedule := { now } } : Session Rat).read axis = .ok here ∧
        after.read axis = .ok there ∧
        match Gcode.along x y z axis with
        | none => there = here
        | some value => (c.interval axis).distance ≤ maxTicks →
          let lengths := if inches then settings.steps.inches else settings.steps.millimeters
          let steps := (value / lengths.get axis).toModel.toInt32.toInt
          there.ticks = max 0 (min ((if relative then here.ticks else 0) + steps) (c.interval axis).distance) := by
  obtain ⟨last,worked,rfl,voyage⟩ := voyage_of_success valid connected started ran
  obtain ⟨now,homed,c,replied,fits,same,known,steered,reached⟩ := voyage.ends
  refine ⟨last,now,homed,c,worked,rfl,replied,fits.calibration,known,fun axis => ⟨_,_,read_connected fits.calibration
    (fits.rests axis).connected,read_connected known (steered.connected axis),?_⟩⟩
  have reads := reads_arrived fits steered reached axis now last.now
  rw [moveTargets,Targets.on_aims] at reads
  cases asked : Gcode.along x y z axis with
  | none =>
    rw [asked] at reads
    exact congrArg (c.toNormalized axis) reads
  | some value =>
    intro short
    rw [asked] at reads
    have steps : homed.steps = settings.steps := (congrArg Plotter.steps same :)
    have meant := Gcode.ticks_meant short now { homed with modes := ⟨relative,!inches⟩ } value
    have arrived := (congrArg (fun raw => (c.toNormalized axis raw).ticks) reads).trans meant
    rw [← steps]
    cases inches <;> exact arrived

/-- A move of one inch along x and two along y on the standard machine, whose steps are 0.00397 inches long. -/
theorem standard_machine_moves :
    ∃ (first after : Session Rat) (fuel : Nat) (onX onY : Normalized), start {} [] = .ok first ∧
      first.runProgram fuel (goProgram (some 1) (some 2) none false true) = some (.ok (),after) ∧
      after.read .x = .ok onX ∧ onX.ticks = 251 ∧ after.read .y = .ok onY ∧ onY.ticks = 503 := by
  obtain ⟨first,fuel,after,started,ran⟩ := standard_machine_goes (some 1) (some 2) none false true
  obtain ⟨last,now,homed,c,worked,rfl,replied,known,_,reads⟩ := move_ends_at_target rfl rfl started ran
  have lived : Lived first _ _ := .ran .opened ran worked nofun
  obtain ⟨_,fits⟩ := homed_of_firstHome rfl rfl started lived replied
  cases fits.calibration.symm.trans known
  have measures := fits.fits.measures
  have lengthX : (c.interval .x).distance = 1140 := by
    simp only [Interval.distance,Calibration.interval,measures.xMin,measures.xMax]
    decide
  have lengthY : (c.interval .y).distance = 2620 := by
    simp only [Interval.distance,Calibration.interval,measures.yMin,measures.yMax]
    decide
  obtain ⟨_,onX,_,readX,askedX⟩ := reads .x
  obtain ⟨_,onY,_,readY,askedY⟩ := reads .y
  have reachedX := askedX (by rw [lengthX]; decide)
  have reachedY := askedY (by rw [lengthY]; decide)
  rw [lengthX,if_neg Bool.false_ne_true] at reachedX
  rw [lengthY,if_neg Bool.false_ne_true] at reachedY
  exact ⟨first,_,fuel,onX,onY,started,ran,readX,reachedX.trans (by decide +kernel),readY,
    reachedY.trans (by decide +kernel)⟩

end Session
end PenPlotter
