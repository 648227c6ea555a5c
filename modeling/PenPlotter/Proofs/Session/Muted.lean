import PenPlotter.Proofs.Display.Muted
import PenPlotter.Proofs.Schedule.Alike
import PenPlotter.Proofs.Session.Unplugged

/-! A session whose console may fail. Plotters that differ only in the writers of their consoles are alike, so that
every task asks for the same on both and leaves them alike. What a session does, from program to program, is the same
whatever its console can print. -/

namespace PenPlotter

open Motor

variable {R : Type} [Scalar R]

/-- The plotter with another writer. -/
def Plotter.onto {μ : Type} (p : Plotter μ Panel) (out : Writer) : Plotter μ Panel :=
  { p with display := p.display.onto out }

/-- Plotters with the same motors whose consoles differ only in their writers. -/
def Likeness.muted (R : Type) [Scalar R] (now : Nat) : Likeness (Simulated R) (Simulated R) Panel Panel now where
  motor m n := m = n
  aimed m n := m = n
  display d e := ∃ out, e = d.onto out
  motor_of_aimed same := same
  connected same := congrArg Motor.connected same
  free _ same := same ▸ .refl (fun _ => rfl) _
  hold same := same ▸ .refl (fun _ => rfl) _
  aim _ same := same ▸ .refl (fun _ => rfl) _
  run same := same ▸ .refl (fun _ => rfl) _
  position same := same ▸ .refl (fun _ => rfl) _
  state same := same ▸ .refl (fun _ => rfl) _
  present := by
    rintro d _ screen ⟨out,rfl⟩
    exact d.present_onto out screen
  retext := by
    rintro d _ text ⟨out,rfl⟩
    exact d.retext_onto out text
  takeConfirm := by
    rintro d _ ⟨out,rfl⟩
    rw [d.takeConfirm_onto out]
    exact ⟨rfl,out,rfl⟩

namespace Likeness.Alike

variable {p q : Plotter (Simulated R) Panel} {now : Nat}

theorem muted_onto (p : Plotter (Simulated R) Panel) (out : Writer) (now : Nat) :
    (muted R now).Alike p (p.onto out) where
  motor axis := by cases axis <;> rfl
  display := ⟨out,rfl⟩
  calibration := rfl
  modes := rfl
  motion := rfl
  steps := rfl

theorem onto_of_muted (alike : (muted R now).Alike p q) : ∃ out, q = p.onto out := by
  obtain ⟨motor,⟨out,shown⟩,calibration,modes,motion,steps⟩ := alike
  obtain ⟨tool,x,y,display⟩ := q
  have sameTool : p.tool = tool := motor .tool
  have sameX : p.x = x := motor .x
  have sameY : p.y = y := motor .y
  subst sameTool sameX sameY shown calibration modes motion steps
  exact ⟨out,rfl⟩

end Likeness.Alike

namespace Session

/-- A status line is printed or it is not; whether it is makes no other difference. -/
theorem printStatus_same (now : Nat) : (Likeness.muted R now).Same printStatus printStatus := by
  refine .bind .statusLine fun line => .modify fun p q alike => { alike with display := ?_ }
  obtain ⟨out,shown⟩ := alike.display
  rw [shown]
  exact p.display.showStatus_onto out line

/-- Desks that differ only in the writers of their consoles. -/
def Beside (d d' : Desk (Simulated R) Panel Result) : Prop :=
  ∃ out, d' = { d with plotter := d.plotter.onto out }

/-- A task of which it is known what it leaves. -/
def leaving (left : Left R) : JobM R Unit := fun _ w => Work.leave w left

/-- Tasks that agree on what they leave ask for the same. -/
theorem leaving_alike {now : Nat} {d d' : Desk (Simulated R) Panel Result} {left left' : Left R} (moment : Moment)
    (notes : d'.notes = d.notes)
    (agree : Agree (fun l l' => (Likeness.muted R now).Alike l.plotter l'.plotter) left left') :
    ((leaving left).outcome moment d).Alike Beside ((leaving left').outcome moment d') := by
  obtain ⟨plotter,written⟩ := d'
  subst notes
  cases agree with
  | @error reason l l' alike =>
    obtain ⟨out,same⟩ := alike.onto_of_muted
    obtain ⟨plotter',log⟩ := l'
    obtain rfl := same
    exact ⟨⟨out,rfl⟩,rfl,rfl⟩
  | @ok stage l l' alike =>
    obtain ⟨out,same⟩ := alike.onto_of_muted
    obtain ⟨plotter',log⟩ := l'
    obtain rfl := same
    cases stage with
    | waiting | ended | dropped => exact ⟨⟨out,rfl⟩,rfl,rfl⟩

/-- The beginning of a program leaves what it undertakes. -/
theorem proceed_leaving (program : List Gcode) (moment : Moment) (d : Desk (Simulated R) Panel Result) :
    (proceed program).outcome moment d =
      (leaving (undertake moment.now program { plotter := d.plotter })).outcome moment d := by
  unfold Action.outcome leaving
  rw [proceed_apply program moment { context := d } []]

theorem proceed_alike (program : List Gcode) (moment : Moment) {d d' : Desk (Simulated R) Panel Result}
    (beside : Beside d d') :
    ((proceed program).outcome moment d).Alike Beside ((proceed program).outcome moment d') := by
  obtain ⟨out,rfl⟩ := beside
  rw [proceed_leaving,proceed_leaving]
  exact leaving_alike moment rfl (undertake_same _ program _ _ (.muted_onto d.plotter out moment.now))

/-- To perform a task makes no difference between desks whose consoles differ in their writers. -/
theorem perform_alike (job : Job) (moment : Moment) {d d' : Desk (Simulated R) Panel Result} (beside : Beside d d') :
    ((perform job).outcome moment d).Alike Beside ((perform job).outcome moment d') := by
  obtain ⟨out,rfl⟩ := beside
  have alike := Likeness.Alike.muted_onto d.plotter out moment.now
  cases job with
  | errand errand =>
    have attends (d : Desk (Simulated R) Panel Result) : (perform (.errand errand)).outcome moment d =
        (leaving (attend moment.now errand { plotter := d.plotter })).outcome moment d := by
      unfold Action.outcome leaving
      rw [perform_errand errand moment { context := d } []]
    rw [attends,attends]
    exact leaving_alike moment rfl (attend_same _ errand _ _ alike)
  | status =>
    have agree := printStatus_same moment.now _ _ alike
    unfold Action.outcome
    rw [perform_status,perform_status]
    dsimp only
    generalize printStatus moment.now d.plotter = made,printStatus moment.now (d.plotter.onto out) = made' at agree
    cases agree with
    | ok told alike =>
      obtain ⟨out',rfl⟩ := alike.onto_of_muted
      exact ⟨⟨out',rfl⟩,rfl,rfl⟩
    | error reason alike =>
      obtain ⟨out',rfl⟩ := alike.onto_of_muted
      exact ⟨⟨out',rfl⟩,rfl,rfl⟩

theorem treats_beside : (behaviour (R := R)).Treats Beside where
  perform job moment beside := perform_alike job moment beside
  after _ beside := beside

theorem deeds_beside (fuel : Nat) (s : Schedule Job) {d d' : Desk (Simulated R) Panel Result} (beside : Beside d d') :
    deeds fuel s d' = deeds fuel s d := by
  induction fuel generalizing s d d' with
  | zero => rfl
  | succ fuel ih =>
    have step := treats_beside.step s beside
    unfold deeds
    generalize behaviour.step s d = stepped,behaviour.step s d' = stepped' at step
    obtain ⟨out,rfl⟩ := beside
    rcases s.queue with - | ⟨⟨due,priority,errand | -⟩,rest⟩
    · rfl
    · have same := deed_same (.muted_onto d.plotter out (due.start s.now)) (some errand.operation)
        (attending_same _ errand)
      cases step with
      | idle | failed => simp only [same]
      | continued s beside => simp only [same,ih s beside]
    · cases step with
      | idle | failed => rfl
      | continued s beside => exact ih s beside

/-- The session with another writer. -/
def onto (s : Session R) (out : Writer) : Session R := { s with plotter := s.plotter.onto out }

/-- The tasks that a program leaves to the schedule and that are executed, with the instants at which they start, but no
more than a number of them. -/
def executed (fuel : Nat) (s : Session R) (program : List Gcode) : List (Nat × Job) :=
  let first := (proceed program).outcome ⟨s.schedule.now, s.schedule.size⟩ ⟨s.plotter, none⟩
  match first.result with
  | .error _ => []
  | .ok () =>
    behaviour.executed fuel ((s.schedule.applyAll first.requests).apply (.submit statusPriority 0 .status))
      first.context

/-- What there is to tell of a program, of which no more than a number of tasks were run, apart from what was printed. -/
structure Conduct (R : Type) where
  /-- What is returned, if the program is over. -/
  result : Option (Except Failure Unit)
  tasks : List (Nat × Job)
  /-- All that has passed between the plotter and its devices for the sake of the program. -/
  deeds : List Deed
  /-- The plotter that is left, with nothing printed. -/
  plotter : Plotter (Simulated R) Panel

def conduct (fuel : Nat) (s : Session R) (program : List Gcode) : Conduct R where
  result := (s.runProgram fuel program).map Prod.fst
  tasks := s.executed fuel program
  deeds := s.deedsWith true fuel program
  plotter := (s.plotterAfter fuel program).onto {}

/-- The conduct of programs that are run one after the other, each up to a number of tasks, until one is not over. -/
def conducts (s : Session R) : List (Nat × List Gcode) → List (Conduct R)
  | [] => []
  | (fuel, program) :: rest =>
    s.conduct fuel program ::
      match s.runProgram fuel program with
      | some (_, after) => after.conducts rest
      | none => []

/-- Another writer makes no difference to a program, and the session that it leaves differs in its writer only. -/
theorem conduct_onto (s : Session R) (out : Writer) (fuel : Nat) (program : List Gcode) :
    (s.onto out).conduct fuel program = s.conduct fuel program ∧
      ∃ out', (s.onto out).runProgram fuel program =
        (s.runProgram fuel program).map fun (result, after) => (result, after.onto out') := by
  have beside : Beside (⟨s.plotter,none⟩ : Desk (Simulated R) Panel Result) ⟨s.plotter.onto out,none⟩ := ⟨out,rfl⟩
  have first := proceed_alike program ⟨s.schedule.now,s.schedule.size⟩ beside
  have begun := deed_same (.muted_onto s.plotter out s.schedule.now) none (beginning_same _ program)
  unfold conduct runProgram executed deedsWith plotterAfter onto
  dsimp only
  rw [← begun]
  generalize (proceed program).outcome ⟨s.schedule.now,s.schedule.size⟩ ⟨s.plotter,none⟩ = made,
    (proceed program).outcome ⟨s.schedule.now,s.schedule.size⟩ ⟨s.plotter.onto out,none⟩ = made' at first
  obtain ⟨desk,_,_⟩ := made
  obtain ⟨desk',requests,result⟩ := made'
  obtain ⟨left,rfl,rfl⟩ := first
  replace left : Beside desk desk' := left
  cases result with
  | error reason =>
    obtain ⟨out',rfl⟩ := left
    exact ⟨rfl,out',rfl⟩
  | ok =>
    dsimp only
    rw [treats_beside.executed fuel _ left,deeds_beside fuel _ left]
    have ran := treats_beside.run fuel ((s.schedule.applyAll requests).apply (.submit statusPriority 0 .status)) left
    generalize behaviour.run fuel _ desk = ended,behaviour.run fuel _ desk' = ended' at ran
    cases ran with
    | unfinished _ left =>
      obtain ⟨out',rfl⟩ := left
      exact ⟨rfl,out',rfl⟩
    | finished result _ left =>
      obtain ⟨out',rfl⟩ := left
      exact ⟨rfl,out',rfl⟩

theorem conducts_onto (s : Session R) (out : Writer) (programs : List (Nat × List Gcode)) :
    (s.onto out).conducts programs = s.conducts programs := by
  induction programs generalizing s out with
  | nil => rfl
  | cons first programs ih =>
    obtain ⟨fuel,program⟩ := first
    obtain ⟨same,out',ran⟩ := s.conduct_onto out fuel program
    unfold conducts
    rw [same,ran]
    cases s.runProgram fuel program with
    | none => rfl
    | some ended =>
      simp only [Option.map_some]
      rw [ih]

/-- Sessions that begin with different writers differ in their writers only. -/
theorem start_onto (settings : Settings) (presses : List Nat) (out out' : Writer) :
    ∃ printed, (start settings presses out' : Except EmptyTravel (Session R)) =
      (start settings presses out).map (·.onto printed) := by
  refine ⟨(({ out := out' } : Console).present mainMenu).out,?_⟩
  unfold start
  cases powerOn (R := R) settings.machine .tool with
  | error => rfl
  | ok tool =>
    cases powerOn (R := R) settings.machine .x with
    | error => rfl
    | ok x =>
      cases powerOn (R := R) settings.machine .y with
      | error => rfl
      | ok y => rfl

/-- A console that cannot print is no trouble to anybody. Whatever happens to it, it shows the same screens and answers
the same to every poll, whichever writes fail; and whatever programs a session runs, it goes through the same tasks at
the same instants, with the same calls of the motors, and comes to the same results and the same calibration. -/
theorem write_failures_change_nothing :
    (∀ (c : Console) (out out' : Writer) (events : List Console.Event),
      ({ c with out } : Console).seen events = ({ c with out := out' } : Console).seen events) ∧
    ∀ (settings : Settings) (presses : List Nat) (out out' : Writer) (programs : List (Nat × List Gcode)),
      (start settings presses out : Except EmptyTravel (Session R)).map (·.conducts programs) =
        (start settings presses out' : Except EmptyTravel (Session R)).map (·.conducts programs) := by
  constructor
  · intro c out out' events
    exact (c.seen_onto out events).trans (c.seen_onto out' events).symm
  · intro settings presses out out' programs
    obtain ⟨printed,same⟩ := start_onto (R := R) settings presses out out'
    rw [same]
    cases (start settings presses out : Except EmptyTravel (Session R)) with
    | error => rfl
    | ok s => exact congrArg Except.ok (s.conducts_onto printed programs).symm

end Session
end PenPlotter
