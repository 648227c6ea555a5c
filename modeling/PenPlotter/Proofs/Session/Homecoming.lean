import PenPlotter.Proofs.Homing.Undisturbed
import PenPlotter.Proofs.Motor.Exact
import PenPlotter.Proofs.Session.Opening
import PenPlotter.Proofs.Session.Progress

/-! A homing pass under way in an office comes to its end if nobody disturbs it. Its looks lead from phase to phase;
a leg is waited for, but no longer than its motor needs to the end of the travel. -/

namespace PenPlotter

open Motor

namespace Plotter

/-- The plotter apart from its motors and its display. -/
def setup (p : Plotter μ δ) : Plotter Unit Unit := { p with tool := (), x := (), y := (), display := () }

theorem Aside.setup {μ δ : Type} [Display δ] : Aside (Plotter.setup : Plotter μ δ → Plotter Unit Unit) where
  motor _ axis _ := by cases axis <;> rfl
  present _ _ := rfl
  retext _ _ := rfl

end Plotter

namespace Session

namespace Office

variable {machine : Machine} {setup : Plotter Unit Unit} {rest : List Gcode} {o o' : Office Rat} {due : Due}
variable {pass : Homing.Pass}

/-- An undisturbed homing pass is under way in an office. -/
structure Homes (machine : Machine) (setup : Plotter Unit Unit) (rest : List Gcode) (due : Due) (pass : Homing.Pass)
    (o : Office Rat) : Prop where
  waits : o.errand = some (due, ⟨.homing pass, rest⟩)
  survey : Homing.Undisturbed machine pass o.logged.plotter
  setup : o.logged.plotter.setup = setup
  previous : pass.previous = mainMenu

/-- The commands that follow a homing pass were begun on a plotter that was just homed. -/
inductive Resumes (machine : Machine) (setup : Plotter Unit Unit) (rest : List Gcode) : Office Rat → Prop where
  | begun {o : Office Rat} {c : Calibration} {l logged : Logged Rat} {stage : Stage} :
      Homed machine c l.plotter → l.plotter.display.Quiet false →
      l.plotter.setup = { setup with calibration := some c } →
      undertake o.now rest l = .ok stage logged →
      Resumes machine setup rest ({ o with logged, errand := none }.enter stage)

namespace Homes

theorem wired (homes : o.Homes machine setup rest due pass) : o.Wired where
  plotter _ := homes.survey.connected
  errand _ _ _ := .inr homes.survey.connected

/-- What a status line leaves of an undisturbed pass. -/
theorem printed {p p' : Plotter (Simulated Rat) Panel} {motors : Axis → Simulated Rat} {now : Nat}
    (uncalibrated : setup.calibration = none)
    (before : Homing.Undisturbed machine pass p ∧ p.setup = setup ∧ p.motor = motors)
    (told : printStatus now p = .ok () p') :
    Homing.Undisturbed machine pass p' ∧ p'.setup = setup ∧ p'.motor = motors := by
  obtain ⟨survey,same,motor⟩ := before
  have none : p.calibration = none := (congrArg Plotter.calibration same).trans uncalibrated
  obtain ⟨line,rfl⟩ := printStatus_uncalibrated none told
  exact ⟨⟨⟨survey.measured,survey.drives,survey.fresh⟩,survey.quiet.showStatus line,survey.accepted⟩,same,motor⟩

variable (sound : ∀ axis, (machine.travel axis).Sound) (uncalibrated : setup.calibration = none)
variable (positive : 0 < setup.motion.homingPoll)
include sound uncalibrated positive

/-- The next look leads to a later phase or to what follows the pass, unless a leg is waited for. -/
theorem look (homes : o.Homes machine setup rest due pass) :
    o.Leads fun o' => o'.Resumes machine setup rest ∨ ∃ due' pass', o'.Homes machine setup rest due' pass' ∧
      (pass'.phase.left < pass.phase.left ∨ ∃ leg, pass.phase = .running leg ∧ pass'.phase = .running leg ∧
        due.start o.now < due'.start o'.now ∧
        o'.logged.plotter.motor leg.axis = (o.logged.plotter.motor leg.axis).advance (due.start o.now)) := by
  have comes := homes.wired.comes_to_look homes.waits ⟨homes.survey,homes.setup,rfl⟩
    fun now p p' => printed uncalibrated
  refine comes.bind fun o₁ ⟨turn,same,kept⟩ => ?_
  obtain ⟨survey,setup₁,motors⟩ := kept.plotter
  have keeps {made : Progress Homing.Pass (Except Fault Calibration)} {p' : Plotter (Simulated Rat) Panel}
      (ran : pass.poll (due.start o₁.now) o₁.logged.plotter = .ok made p') : p'.setup = setup :=
    ((pass.poll_yields .setup).of_ok ran).trans setup₁
  rcases survey.look sound (due.start o₁.now) with
    ⟨delay,next,p',ran,after,previous,leads⟩ | ⟨c,p',ran,fits,rests,quiet⟩
  · have made : attend (due.start o₁.now) ⟨.homing pass,rest⟩ o₁.logged =
        .ok (.waiting delay ⟨.homing next,rest⟩)
          { plotter := p', log := o₁.logged.log ++ [.looked (o₁.logged.plotter.confirmed (due.start o₁.now))] } := by
      simp only [attend,Logged.write,Operation.poll_homing,ran]
      rfl
    refine .turn (.looked turn made) (.here (.inr ⟨.after (due.start o₁.now) delay,next,⟨rfl,after,keeps ran,?_⟩,?_⟩))
    · exact previous.trans homes.previous
    · refine leads.imp_right ?_
      rintro ⟨leg,running,later,rfl,moved⟩
      refine ⟨leg,running,later,?_,?_⟩
      · rw [← same]
        exact Due.start_after ((congrArg (fun p => p.motion.homingPoll) setup₁).symm ▸ positive)
      · rw [← same,← motors]
        exact moved
  · let l : Logged Rat := {
      plotter := { p' with calibration := some c }
      log := o₁.logged.log ++ [.looked (o₁.logged.plotter.confirmed (due.start o₁.now))] ++
        [.replied (.ok ()) (due.start o₁.now) { p' with calibration := some c }] }
    have homed : Homed machine c l.plotter := ⟨rfl,fits,rests⟩
    obtain ⟨stage,logged,begun,_⟩ := undertake_wired (l := l) (due.start o₁.now) rest
      fun _ axis => (rests axis).connected
    have made : attend (due.start o₁.now) ⟨.homing pass,rest⟩ o₁.logged = .ok stage logged := by
      rw [← begun]
      simp only [attend,Logged.write,Operation.poll_homing,ran]
      rfl
    have stored : l.plotter.setup = { setup with calibration := some c } := by rw [← keeps ran]; rfl
    rw [homes.previous] at quiet
    refine .turn (.looked turn made) (.here (.inl ?_))
    exact .begun (o := { o₁ with now := due.start o₁.now }) homed quiet stored begun

/-- The looks at an undisturbed pass lead to what follows it. -/
theorem comes_home (homes : o.Homes machine setup rest due pass) : o.Leads (Resumes machine setup rest) := by
  -- In every phase a leg is waited for no longer than its motor needs to pass the end of the travel.
  generalize left : pass.phase.left = n
  induction n using Nat.strongRecOn generalizing o due pass with
  | ind n ih =>
    have deadline : ∃ deadline, ∀ leg, pass.phase = .running leg →
        Simulated.PastBy (machine.travel leg.axis) leg.duty (o.logged.plotter.motor leg.axis) deadline := by
      cases phase : pass.phase with
      | running leg =>
        have drives := homes.survey.drives
        rw [phase] at drives
        obtain ⟨deadline,past⟩ := drives.runs.passes leg.duty_ne_zero
        exact ⟨deadline,by rintro _ ⟨⟩; exact past⟩
      | _ => exact ⟨0,nofun⟩
    obtain ⟨deadline,past⟩ := deadline
    generalize wait : deadline - due.start o.now = k
    induction k using Nat.strongRecOn generalizing o due pass with
    | ind k again =>
      refine (homes.look sound uncalibrated positive).bind fun o' next => ?_
      rcases next with resumes | ⟨due',pass',homes',later | ⟨leg,running,still,waits,moved⟩⟩
      · exact .here resumes
      · exact ih _ (left ▸ later) homes' rfl
      · have before := homes.survey.drives
        have after := homes'.survey.drives
        rw [running] at before
        rw [still] at after
        have after := after.runs
        rw [moved] at after
        obtain ⟨past',early⟩ := before.runs.pastBy_advance after (past leg running)
        refine again _ (by omega) homes' (by rw [still,← running,left]) ?_ rfl
        intro other same
        rw [still] at same
        cases same
        rw [moved]
        exact past'

end Homes
end Office

variable {settings : Settings}

theorem quiet_opening (dismisses : settings.autoDismiss = true) (out : Writer) :
    (opening settings [] out : Session Rat).plotter.display.Quiet false where
  presses := rfl
  button := rfl
  autoDismiss := dismisses
  dismissPending := by
    show (settings.autoDismiss && mainMenu.isReport) = false
    rw [dismisses]
    rfl

/-- What is begun on a fresh plotter with a command to home is an undisturbed pass. -/
theorem homes_of_fresh {s : Session Rat} {machine : Machine} (fresh : Fresh machine s.plotter)
    (quiet : s.plotter.display.Quiet false) (rest : List Gcode) :
    ∃ stage logged due pass, undertake s.schedule.now (.home :: rest) { plotter := s.plotter } = .ok stage logged ∧
      (s.begun stage logged).Homes machine s.plotter.setup rest due pass := by
  have begins := home_connected (fun axis => (fresh.rests axis).connected) s.schedule.now
  refine ⟨_,_,_,_,by simp only [undertake,Logged.write,begins]; rfl,rfl,?_,rfl,rfl⟩
  exact ⟨(fresh.show _).surveys mainMenu,quiet.present (.message (Homing.Pass.progressMessage .toolUp)),rfl⟩

/-- If nobody disturbs it a program that homes first comes to the end to which its other commands lead, and to no
other end. -/
theorem homing_program_ends {rest : List Gcode} {holds : Office Rat → Prop} (valid : settings.validate = .ok ())
    (connected : settings.machine.disconnected = []) (dismisses : settings.autoDismiss = true) (out : Writer)
    (follows : ∀ o : Office Rat, o.Resumes settings.machine (opening settings [] out : Session Rat).plotter.setup rest →
      o.Leads fun last => last.turn? = none ∧ holds last) :
    let first : Session Rat := opening settings [] out
    (∃ fuel made, first.runProgram fuel (.home :: rest) = some made) ∧
      ∀ fuel result after, first.runProgram fuel (.home :: rest) = some (result,after) →
        ∃ last, result = last.verdict ∧ after = last.session ∧ holds last := by
  have sound := Settings.sound_of_validate valid
  obtain ⟨stage,logged,due,pass,begun,homes⟩ := homes_of_fresh (s := opening settings [] out)
    (fresh_opening sound connected) (quiet_opening dismisses out) rest
  have leads := (homes.comes_home sound.travel rfl sound.homingPoll).bind follows
  obtain ⟨⟨fuel,made,ran⟩,all⟩ := work_of_leads begun leads
  refine ⟨⟨fuel,_,by rw [runProgram_eq_work fuel rfl,ran]; rfl⟩,fun fuel result after ran => ?_⟩
  obtain ⟨last,worked,rfl⟩ := work_of_runProgram rfl ran
  obtain ⟨same,found⟩ := all _ _ _ worked
  exact ⟨last,same,rfl,found⟩

end Session
end PenPlotter
