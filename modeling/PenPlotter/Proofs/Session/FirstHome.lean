import PenPlotter.Proofs.Homing.Survey
import PenPlotter.Proofs.Session.Life

/-! The first command to home of a session. Until then the motors rest where they were at power-on, and their
encoders count from there, so that the first homing pass surveys the mechanics of the machine. -/

namespace PenPlotter

open Motor

variable {R : Type} [Scalar R]

namespace Session

/-- What has come of the first command to home. -/
inductive FirstHome (R : Type) where
  | unordered
  | underWay
  | replied (reply : Except Fault Unit) (now : Nat) (plotter : Plotter (Motor.Simulated R) Panel)

def FirstHome.hear : FirstHome R → Entry R → FirstHome R
  | .unordered, .begun .home => .underWay
  | .underWay, .replied reply now plotter => .replied reply now plotter
  | stage, _ => stage

def firstHome (log : List (Entry R)) : FirstHome R := log.foldl FirstHome.hear .unordered

omit [Scalar R] in
theorem firstHome_append (log more : List (Entry R)) :
    firstHome (log ++ more) = more.foldl FirstHome.hear (firstHome log) := List.foldl_append

omit [Scalar R] in
theorem firstHome_replied {log more : List (Entry R)} {reply : Except Fault Unit} {now : Nat}
    {plotter : Plotter (Motor.Simulated R) Panel} (replied : firstHome log = .replied reply now plotter)
    (extends_ : log <+: more) : firstHome more = .replied reply now plotter := by
  obtain ⟨rest,rfl⟩ := extends_
  rw [firstHome_append,replied]
  induction rest with
  | nil => rfl
  | cons entry rest ih => exact ih

variable {machine : Machine} {p p' q : Plotter (Simulated R) Panel} {now : Nat}

/-- A plotter on which nothing was homed yet. -/
structure Fresh (machine : Machine) (p : Plotter (Simulated R) Panel) : Prop where
  calibration : p.calibration = none
  rests : ∀ axis, Simulated.Rests (machine.travel axis) (p.motor axis)
  carriage : ∀ axis, (p.motor axis).carriage = Scalar.ofInt (machine.travel axis).start.ticks

/-- A plotter that was just homed. -/
structure Homed (machine : Machine) (c : Calibration) (p : Plotter (Simulated R) Panel) : Prop where
  calibration : p.calibration = some c
  fits : c.Fits machine
  rests : ∀ axis, Simulated.Rests (machine.travel axis) (p.motor axis)

theorem Fresh.of_motor (fresh : Fresh machine p) (motor : p'.motor = p.motor)
    (calibration : p'.calibration = p.calibration) : Fresh machine p' where
  calibration := calibration.trans fresh.calibration
  rests axis := by rw [motor]; exact fresh.rests axis
  carriage axis := by rw [motor]; exact fresh.carriage axis

theorem Fresh.show (fresh : Fresh machine p) (display : Panel) : Fresh machine { p with display } :=
  fresh.of_motor rfl rfl

theorem Fresh.glanced (fresh : Fresh machine p) (glanced : Plotter.Glanced now p p') : Fresh machine p' where
  calibration := glanced.calibration.trans fresh.calibration
  rests axis := by
    rcases glanced.motor axis with same | up
    · rw [same]; exact fresh.rests axis
    · rw [up]; exact (fresh.rests axis).advance now
  carriage axis := by
    rcases glanced.motor axis with same | up
    · rw [same]; exact fresh.carriage axis
    · rw [up,Simulated.advance_idle (fresh.rests axis).drive]; exact fresh.carriage axis

/-- A homing pass that begins on a fresh plotter surveys it. -/
theorem Fresh.surveys (fresh : Fresh machine p) (previous : Screen) :
    Homing.Surveys machine { phase := .start, previous } p :=
  ⟨⟨[],⟨rfl,rfl,by simp⟩,by simp⟩,.of_rests rfl fresh.rests,fun _ => fresh.carriage⟩

/-- On a plotter whose motors are plugged in homing begins. -/
theorem home_connected (connected : p.Connected) (now : Nat) :
    Gcode.home.dispatch mainMenu now p =
      .ok (.started (.homing { phase := .start, previous := mainMenu }))
        { p with display := Display.present (.message (Homing.Pass.progressMessage .toolUp)) p.display } := by
  simp only [Gcode.dispatch,bind_apply,Homing.Pass.start,Plotter.get_apply,
    Plotter.disconnectedAxes_eq_nil.mpr connected]
  rfl

/-- What a log, the plotter and the operation under way have to do with the mechanics of a machine. -/
def Charted (machine : Machine) (log : List (Entry R)) (p : Plotter (Simulated R) Panel)
    (operation? : Option Operation) : Prop :=
  match firstHome log with
  | .unordered => operation? = none ∧ Fresh machine p
  | .underWay => ∃ pass, operation? = some (.homing pass) ∧ p.calibration = none ∧ Homing.Surveys machine pass p
  | .replied reply _ q => reply = .ok () → ∃ c, Homed machine c q

def Stage.operation? : Stage → Option Operation
  | .waiting _ errand => some errand.operation
  | .ended _ | .dropped => none

namespace Charted

variable {log more past : List (Entry R)} {operation? : Option Operation} {l logged : Logged R} {stage : Stage}
variable {commands : List Gcode}

theorem unordered (first : firstHome log = .unordered) :
    Charted machine log p operation? ↔ operation? = none ∧ Fresh machine p := by
  simp only [Charted,first]

theorem underWay (first : firstHome log = .underWay) :
    Charted machine log p operation? ↔
      ∃ pass, operation? = some (.homing pass) ∧ p.calibration = none ∧ Homing.Surveys machine pass p := by
  simp only [Charted,first]

/-- Once the first command to home has been replied to nothing else matters. -/
theorem later {reply : Except Fault Unit} (charted : Charted machine log p operation?)
    (first : firstHome log = .replied reply now q) (extends_ : log <+: more) (p' : Plotter (Simulated R) Panel)
    (operation' : Option Operation) : Charted machine more p' operation' := by
  unfold Charted at charted ⊢
  rw [firstHome_replied first extends_]
  simpa only [first] using charted

/-- On a fresh plotter a homing pass begins with a survey. -/
theorem ordered (fresh : Fresh machine p) (ran : Gcode.home.dispatch mainMenu now p = .ok made p') :
    ∃ pass, made = .started (.homing pass) ∧ p'.calibration = none ∧ Homing.Surveys machine pass p' := by
  cases (home_connected (fun axis => (fresh.rests axis).connected) now).symm.trans ran
  exact ⟨_,rfl,fresh.calibration,(fresh.show _).surveys mainMenu⟩

theorem undertake (charted : Charted machine (past ++ l.log) l.plotter none)
    (ran : Session.undertake now commands l = .ok stage logged) :
    Charted machine (past ++ logged.log) logged.plotter stage.operation? := by
  cases first : firstHome (past ++ l.log) with
  | underWay =>
    obtain ⟨_,none,_⟩ := (underWay first).mp charted
    cases none
  | replied reply at_ q =>
    exact charted.later first ((List.prefix_append_right_inj past).mpr (undertake_extends ran)) _ _
  | unordered =>
    have fresh := ((unordered first).mp charted).2
    clear charted
    induction commands generalizing l with
    | nil =>
      cases ran
      exact (unordered first).mpr ⟨rfl,fresh⟩
    | cons command rest ih =>
      have next (stage : FirstHome R) (heard : FirstHome.hear .unordered (.begun command) = stage) :
          firstHome (past ++ (l.log ++ [.begun command])) = stage := by
        rw [← List.append_assoc,firstHome_append,first]
        exact heard
      simp only [Session.undertake,Logged.write] at ran
      have mode (f : Modes → Modes) (other : FirstHome.hear (.unordered : FirstHome R) (.begun command) = .unordered)
          (which : command.dispatch mainMenu now l.plotter = Gcode.setModes f now l.plotter) :
          Charted machine (past ++ logged.log) logged.plotter stage.operation? := by
        rw [which] at ran
        refine ih ran ?_ (fresh.of_motor rfl rfl)
        rw [List.append_assoc,← List.append_assoc,← List.append_assoc,firstHome_append]
        rw [show past ++ l.log ++ [.begun command] = past ++ (l.log ++ [.begun command]) by simp,next _ other]
        rfl
      cases command with
      | useMillimeters => exact mode (fun modes => { modes with useMillimeters := true }) rfl rfl
      | useInches => exact mode (fun modes => { modes with useMillimeters := false }) rfl rfl
      | absolute => exact mode (fun modes => { modes with relativeMoves := false }) rfl rfl
      | relative => exact mode (fun modes => { modes with relativeMoves := true }) rfl rfl
      | go x y z =>
        have unhomed : (Gcode.go x y z).dispatch mainMenu now l.plotter =
            .ok (.replied (.error .notHomed)) l.plotter := by
          simp only [Gcode.dispatch,bind_apply,Plotter.get_apply,fresh.calibration]
          rfl
        rw [unhomed] at ran
        cases ran
        refine (unordered ?_).mpr ⟨rfl,fresh⟩
        rw [← List.append_assoc,firstHome_append,next _ rfl]
        rfl
      | home =>
        cases made : Gcode.home.dispatch mainMenu now l.plotter with
        | error => simp [made] at ran
        | ok dispatched plotter =>
          obtain ⟨pass,rfl,none,surveys⟩ := ordered fresh made
          simp only [made] at ran
          cases ran
          exact (underWay (next _ rfl)).mpr ⟨pass,rfl,none,surveys⟩

variable [Scalar.Lawful R]

theorem attend {errand : Errand (List Gcode)}
    (charted : Charted machine (past ++ l.log) l.plotter (some errand.operation))
    (ran : Session.attend now errand l = .ok stage logged) :
    Charted machine (past ++ logged.log) logged.plotter stage.operation? := by
  cases first : firstHome (past ++ l.log) with
  | unordered =>
    cases ((unordered first).mp charted).1
  | replied reply at_ q =>
    exact charted.later first ((List.prefix_append_right_inj past).mpr (attend_extends ran)) _ _
  | underWay =>
    obtain ⟨pass,which,unhomed,surveys⟩ := (underWay first).mp charted
    have which := Option.some.inj which
    simp only [Session.attend,Logged.write,which,Operation.poll_homing] at ran
    have soFar (confirmed : Bool) : firstHome (past ++ (l.log ++ [.looked confirmed])) = .underWay := by
      rw [← List.append_assoc,firstHome_append,first]
      rfl
    cases looked : pass.poll now l.plotter with
    | error => simp [looked] at ran
    | ok made p' =>
      have after := surveys.look looked
      have kept : p'.calibration = none := by
        have same := (pass.poll_yields .calibration).of_ok looked
        exact same.trans unhomed
      simp only [looked] at ran
      cases made with
      | dropped => exact absurd after id
      | again delay next =>
        cases ran
        exact (underWay (soFar _)).mpr ⟨next,rfl,kept,after⟩
      | done outcome =>
        have replied (reply : Except Fault Unit) (q : Plotter (Simulated R) Panel) (confirmed : Bool) :
            firstHome (past ++ (l.log ++ [.looked confirmed] ++ [.replied reply now q])) = .replied reply now q := by
          rw [← List.append_assoc,firstHome_append,soFar]
          rfl
        cases outcome with
        | error fault =>
          cases ran
          unfold Charted
          simp only [Logged.write,replied]
          intro succeeded
          cases succeeded
        | ok c =>
          have told := replied (.ok ()) { p' with calibration := some c } (l.plotter.confirmed now)
          have homed : Charted machine (past ++ (l.log ++ [.looked (l.plotter.confirmed now)] ++
              [.replied (.ok ()) now { p' with calibration := some c }])) p' none := by
            unfold Charted
            rw [told]
            exact fun _ => ⟨c,rfl,after.1,after.2⟩
          exact homed.later told ((List.prefix_append_right_inj past).mpr (undertake_extends ran)) _ _

end Charted
/-- What the log of a session and an office in it have to do with the mechanics. -/
def Office.Charted (machine : Machine) (past : List (Entry R)) (o : Office R) : Prop :=
  Session.Charted machine (past ++ o.logged.log) o.logged.plotter (o.errand.map fun waiting => waiting.2.operation)

theorem printStatus_uncalibrated {now : Nat} {p p' : Plotter (Simulated R) Panel} (none : p.calibration = none)
    (told : printStatus now p = .ok () p') : ∃ line, p' = { p with display := p.display.showStatus line } := by
  simp only [printStatus_apply,Plotter.statusLine,bind_apply,Plotter.get_apply,none] at told
  cases told
  exact ⟨_,rfl⟩

namespace Office.Charted

variable {past : List (Entry R)} {o o' : Office R} {stage : Stage} {logged : Logged R}

theorem enter (charted : Session.Charted machine (past ++ logged.log) logged.plotter stage.operation?)
    (now : Nat) (result : Session.Result) (status : Option Due) :
    ({ ({ now, logged, result } : Office R).enter stage with status }).Charted machine past := by
  cases stage <;> exact charted

variable [Scalar.Lawful R]

theorem took (charted : o.Charted machine past) (took : o.Took o') : o'.Charted machine past := by
  cases took with
  | @looked due errand stage logged turn made =>
    have waits := errand_of_turn turn
    unfold Office.Charted at charted
    rw [waits] at charted
    have after := enter (charted.attend made) (due.start o.now) o.result o.status
    cases stage <;> exact after
  | @printed due plotter turn made =>
    unfold Office.Charted at charted ⊢
    cases first : firstHome (past ++ o.logged.log) with
    | replied reply at_ q => exact charted.later first (List.prefix_refl _) _ _
    | unordered =>
      obtain ⟨free,fresh⟩ := (Charted.unordered first).mp charted
      obtain ⟨line,rfl⟩ := printStatus_uncalibrated fresh.calibration made
      exact (Charted.unordered first).mpr ⟨free,fresh.of_motor rfl rfl⟩
    | underWay =>
      obtain ⟨pass,waits,unhomed,surveys⟩ := (Charted.underWay first).mp charted
      obtain ⟨line,rfl⟩ := printStatus_uncalibrated unhomed made
      exact (Charted.underWay first).mpr ⟨pass,waits,unhomed,surveys.measured,surveys.drives,surveys.fresh⟩

end Office.Charted

variable [Scalar.Lawful R] {first s : Session R} {log : List (Entry R)}

/-- All its life a session keeps to the mechanics of its machine. -/
theorem Lived.charted (lived : Lived first log s) (settled : first.Settled) (fresh : Fresh machine first.plotter) :
    Charted machine log s.plotter none := by
  induction lived with
  | opened => exact (Charted.unordered rfl).mpr ⟨rfl,fresh⟩
  | @ran log s fuel program result last before _ work returned ih =>
    have settled := before.settled settled
    have keeps (a b : Office R) (_ : a.Wired) (charted : a.Charted machine log) (took : a.Took b) :
        b.Charted machine log := charted.took took
    have opens (stage : Stage) (logged : Logged R)
        (made : Session.undertake s.schedule.now program { plotter := s.plotter } = .ok stage logged) :
        (s.begun stage logged).Charted machine log := by
      have soFar : Charted machine (log ++ (⟨s.plotter,[]⟩ : Logged R).log) s.plotter none := by
        rwa [List.append_nil]
      have after := Office.Charted.enter (Charted.undertake (l := ⟨s.plotter,[]⟩) soFar made) s.schedule.now none
        (some .immediate)
      cases stage <;> exact after
    rcases settled.work_ends keeps opens work with ⟨overflow,rfl⟩ | ⟨_,_,charted,idle⟩
    · exact absurd rfl (returned overflow)
    · unfold Office.Charted at charted
      rwa [Office.errand_idle idle] at charted
  | waited _ _ ih => exact ih
  | @asked log s α question before glances ih =>
    rw [ask_plotter]
    have glanced := glances s.schedule.now s.plotter
    cases first : firstHome log with
    | replied reply at_ q => exact ih.later first (List.prefix_refl _) _ _
    | unordered => exact (Charted.unordered first).mpr ⟨rfl,((Charted.unordered first).mp ih).2.glanced glanced⟩
    | underWay =>
      obtain ⟨_,none,_⟩ := (Charted.underWay first).mp ih
      cases none

end Session
end PenPlotter
