import PenPlotter.Proofs.Plotter.Watched
import PenPlotter.Proofs.Session.Order
import PenPlotter.Proofs.Session.Queue

/-! The deeds of a session: its looks at the operations under way, with all that passes between the plotter and its
devices meanwhile and with the replies that come of it. A look is a program on the plotter alone, so that it can be
taken on a plotter under watch. A program is run with or without status lines beside it. -/

namespace PenPlotter

/-- A look at the operation under way, or the beginning of a program. -/
structure Deed where
  instant : Nat
  operation : Option Operation
  exchanges : Axis → List Exchange
  shown : List Showing
  told : List (Except Fault Unit)

namespace Session

/-- How a program stands, with what was replied on the way. -/
abbrev Told := Stage × List (Except Fault Unit)

section Programs

variable {μ δ : Type} [Motor μ] [Display δ]

/-- Begins one command after the other, until one of them takes time. -/
def beginning : List Gcode → PlotterM μ δ Told
  | [] => return (.ended (.ok ()), [])
  | command :: rest => do
    match ← command.dispatch mainMenu with
    | .started operation => return (.waiting 0 ⟨operation, rest⟩, [])
    | .replied (.error fault) => return (.ended (.error fault), [.error fault])
    | .replied (.ok ()) =>
      let (stage, told) ← beginning rest
      return (stage, .ok () :: told)

/-- Takes one look at the operation under way, and goes on if it has completed. -/
def attending (errand : Errand (List Gcode)) : PlotterM μ δ Told := do
  match ← errand.operation.poll with
  | .again delay operation => return (.waiting delay { errand with operation }, [])
  | .dropped => return (.dropped, [])
  | .done completion =>
    match ← Gcode.reply completion with
    | .error fault => return (.ended (.error fault), [.error fault])
    | .ok () =>
      let (stage, told) ← beginning errand.next
      return (stage, .ok () :: told)

end Programs

section Same

open Likeness

variable {μ ν δ ε : Type} [Motor μ] [Motor ν] [Display δ] [Display ε] {now : Nat} (like : Likeness μ ν δ ε now)

theorem beginning_same (commands : List Gcode) :
    like.Same (beginning commands : PlotterM μ δ Told) (beginning commands) := by
  induction commands with
  | nil => exact .pure _
  | cons command rest ih =>
    refine .bind (Gcode.dispatch_same like mainMenu command) fun dispatched => ?_
    rcases dispatched with (fault | ⟨⟩) | operation
    · exact .pure _
    · exact .bind ih fun told => .pure _
    · exact .pure _

theorem attending_same (errand : Errand (List Gcode)) :
    like.Same (attending errand : PlotterM μ δ Told) (attending errand) := by
  refine .bind (errand.operation.poll_same like) fun progress => ?_
  cases progress with
  | again | dropped => exact .pure _
  | done completion =>
    refine .bind (Gcode.reply_same like completion) fun reply => ?_
    cases reply with
    | error fault => exact .pure _
    | ok => exact .bind (beginning_same like errand.next) fun told => .pure _

end Same

variable {R : Type} [Motor.Scalar R]

/-! What a task leaves is what its program comes to. -/

/-- A task leaves what a program has come to, and the log of what came before has the replies added. -/
inductive Left.Tells (log : List (Entry R)) :
    Left R → EStateM.Result Failure (Plotter (Motor.Simulated R) Panel) Told → Prop where
  | ok (stage : Stage) (logged : Logged R) {told : List (Except Fault Unit)} :
      replies logged.log = replies log ++ told → Tells log (.ok stage logged) (.ok (stage, told) logged.plotter)
  | error (reason : Failure) (logged : Logged R) : Tells log (.error reason logged) (.error reason logged.plotter)

omit [Motor.Scalar R] in
/-- One more reply comes before those of what follows it. -/
theorem Left.Tells.after_reply {log log' : List (Entry R)} {now : Nat} {l : Left R}
    {program : PlotterM (Motor.Simulated R) Panel Told} {p : Plotter (Motor.Simulated R) Panel}
    (tells : Left.Tells log' l (program now p)) (replied : replies log' = replies log ++ [.ok ()]) :
    Left.Tells log l ((program >>= fun told => pure (told.1, .ok () :: told.2)) now p) := by
  rw [bind_apply]
  generalize program now p = made at tells
  cases tells with
  | ok stage logged told => exact .ok stage logged (by rw [told,replied,List.append_assoc]; rfl)
  | error reason logged => exact .error reason logged

theorem undertake_beginning (now : Nat) (commands : List Gcode) (l : Logged R) :
    Left.Tells l.log (undertake now commands l) (beginning commands now l.plotter) := by
  induction commands generalizing l with
  | nil => exact .ok _ _ (List.append_nil _).symm
  | cons command rest ih =>
    simp only [undertake,beginning,bind_apply,Logged.write]
    cases command.dispatch mainMenu now l.plotter with
    | error reason plotter => exact .error reason ⟨plotter,_⟩
    | ok dispatched plotter =>
      rcases dispatched with (fault | ⟨⟩) | operation
      · exact .ok _ ⟨plotter,_⟩ (by simp [Entry.reply?])
      · exact (ih ⟨plotter,_⟩).after_reply (by simp [Entry.reply?])
      · exact .ok _ ⟨plotter,_⟩ (by simp [Entry.reply?])

theorem attend_attending (now : Nat) (errand : Errand (List Gcode)) (l : Logged R) :
    Left.Tells l.log (attend now errand l) (attending errand now l.plotter) := by
  simp only [attend,attending,bind_apply,Logged.write]
  cases errand.operation.poll now l.plotter with
  | error reason plotter => exact .error reason ⟨plotter,_⟩
  | ok progress plotter =>
    cases progress with
    | again | dropped => exact .ok _ ⟨plotter,_⟩ (by simp [Entry.reply?])
    | done completion =>
      simp only [conclude,bind_apply,Logged.write]
      cases Gcode.reply completion now plotter with
      | error reason plotter => exact .error reason ⟨plotter,_⟩
      | ok reply plotter =>
        cases reply with
        | error fault => exact .ok _ ⟨plotter,_⟩ (by simp [Entry.reply?])
        | ok => exact (undertake_beginning now errand.next ⟨plotter,_⟩).after_reply (by simp [Entry.reply?])

omit [Motor.Scalar R] in
/-- Tasks whose programs agree leave the same, and plotters that are alike. -/
theorem Left.Tells.agrees {log log' : List (Entry R)} {l l' : Left R}
    {like : Plotter (Motor.Simulated R) Panel → Plotter (Motor.Simulated R) Panel → Prop}
    {made made' : EStateM.Result Failure (Plotter (Motor.Simulated R) Panel) Told}
    (tells : Left.Tells log l made) (tells' : Left.Tells log' l' made') (agree : Agree like made made') :
    Agree (fun l l' => like l.plotter l'.plotter) l l' := by
  cases agree with
  | ok value alike =>
    cases tells with
    | ok => cases tells' with | ok => exact .ok _ alike
  | error reason alike =>
    cases tells with
    | error reason logged => cases tells' with | error reason' logged' => exact .error _ alike

theorem undertake_same {now : Nat} (like : Likeness (Motor.Simulated R) (Motor.Simulated R) Panel Panel now)
    (commands : List Gcode) (l l' : Logged R) (alike : like.Alike l.plotter l'.plotter) :
    Agree (fun l l' => like.Alike l.plotter l'.plotter) (undertake now commands l) (undertake now commands l') :=
  (undertake_beginning now commands l).agrees (undertake_beginning now commands l')
    (beginning_same like commands _ _ alike)

theorem attend_same {now : Nat} (like : Likeness (Motor.Simulated R) (Motor.Simulated R) Panel Panel now)
    (errand : Errand (List Gcode)) (l l' : Logged R) (alike : like.Alike l.plotter l'.plotter) :
    Agree (fun l l' => like.Alike l.plotter l'.plotter) (attend now errand l) (attend now errand l') :=
  (attend_attending now errand l).agrees (attend_attending now errand l') (attending_same like errand _ _ alike)

/-! The deeds themselves. -/

/-- What a program does on a plotter that is watched. -/
def deed (now : Nat) (operation : Option Operation)
    (program : PlotterM (Watched (Motor.Simulated R) Exchange) (Watched Panel Showing) Told)
    (p : Plotter (Motor.Simulated R) Panel) : Deed :=
  let after := Plotter.left program now p.watched
  { instant := now
    operation
    exchanges := fun axis => (after.motor axis).record
    shown := after.display.record
    told := match program now p.watched with
      | .ok (_, told) _ => told
      | .error .. => [] }

/-- To watch a look makes no difference to it. -/
theorem attending_watched (now : Nat) (errand : Errand (List Gcode)) (p : Plotter (Motor.Simulated R) Panel) :
    Agree (Likeness.unwatched _ _ now).Alike (attending errand now p.watched) (attending errand now p) :=
  attending_same _ errand _ _ (Likeness.watched_unwatched p now)

theorem beginning_watched (now : Nat) (commands : List Gcode) (p : Plotter (Motor.Simulated R) Panel) :
    Agree (Likeness.unwatched _ _ now).Alike (beginning commands now p.watched) (beginning commands now p) :=
  beginning_same _ commands _ _ (Likeness.watched_unwatched p now)

/-- On plotters that are alike the same is done. -/
theorem deed_same {now : Nat} {like : Likeness (Motor.Simulated R) (Motor.Simulated R) Panel Panel now}
    {p q : Plotter (Motor.Simulated R) Panel} (alike : like.Alike p q) (operation : Option Operation)
    {program : PlotterM (Watched (Motor.Simulated R) Exchange) (Watched Panel Showing) Told}
    (same : like.watched.Same program program) :
    deed now operation program p = deed now operation program q := by
  have agree := same _ _ alike.watched
  unfold deed Plotter.left
  generalize program now p.watched = made,program now q.watched = made' at agree
  cases agree with
  | ok told alike | error reason alike =>
    have records := funext fun axis => (alike.motor axis).2
    simp only [records,alike.display.2]

/-- The deeds of a schedule at work, but no more tasks than a number of them. -/
def deeds : Nat → Schedule Job → Desk (Motor.Simulated R) Panel Result → List Deed
  | 0, _, _ => []
  | fuel + 1, s, desk =>
    let later := match behaviour.step s desk with
      | .continued s desk => deeds fuel s desk
      | .idle .. | .failed .. => []
    match s.queue with
    | [] => []
    | ⟨due, _, .errand errand⟩ :: _ =>
      deed (due.start s.now) (some errand.operation) (attending errand) desk.plotter :: later
    | ⟨_, _, .status⟩ :: _ => later

namespace Office

variable {o : Office R}

/-- What is done at a turn. A status line is none of the deeds. -/
def does (o : Office R) : Turn → List Deed
  | .look due errand => [deed (due.start o.now) (some errand.operation) (attending errand) o.logged.plotter]
  | .status _ => []

def deeds : Nat → Office R → List Deed
  | 0, _ => []
  | fuel + 1, o =>
    match o.turn? with
    | none => []
    | some turn =>
      o.does turn ++
        match o.take turn with
        | (.ok (), o) => deeds fuel o
        | (.error _, _) => []

/-- The deeds of a schedule are those of its office. -/
theorem deeds_holds (fuel : Nat) {s : Schedule Job} (holds : o.Holds s) :
    Session.deeds fuel s o.desk = o.deeds fuel := by
  induction fuel generalizing o s with
  | zero => rfl
  | succ fuel ih =>
    have step := step_holds holds
    obtain ⟨now,queue⟩ := holds_iff.mp holds
    unfold deeds Session.deeds
    cases next : o.turn? with
    | none => rw [queue,queue_idle next]
    | some turn =>
      have later : (match behaviour.step s o.desk with
            | .continued s desk => Session.deeds fuel s desk
            | .idle .. | .failed .. => []) =
          match o.take turn with
            | (.ok (), o) => o.deeds fuel
            | (.error _, _) => [] := by
        simp only [next] at step
        cases taken : o.take turn with
        | mk result after =>
          simp only [taken] at step
          cases result with
          | error reason => simp only [step]
          | ok =>
            obtain ⟨s',step,holds⟩ := step
            simp only [step,ih holds]
      cases turn with
      | look due errand =>
        simp only [queue,queue_look next,visit,now,later]
        rfl
      | status due =>
        simp only [queue,queue_status next,line,later]
        rfl

end Office

/-! A program with status lines beside it, or without. -/

/-- Runs a program like `runProgram`, and prints status lines meanwhile if that is asked for. -/
def runWith (lines : Bool) (fuel : Nat) (s : Session R) (program : List Gcode) :
    Option (Except Failure Unit × Session R) :=
  let first := (proceed program).outcome ⟨s.schedule.now, s.schedule.size⟩ ⟨s.plotter, none⟩
  let schedule := s.schedule.applyAll first.requests
  match first.result with
  | .error failure => some (.error failure, ⟨first.context.plotter, schedule⟩)
  | .ok () =>
    match behaviour.run fuel (if lines then schedule.apply (.submit statusPriority 0 .status) else schedule)
        first.context with
    | .unfinished .. => none
    | .finished result schedule desk =>
      let result := result.bind fun () =>
        match desk.notes with
        | some (.ok ()) => .ok ()
        | some (.error fault) => .error (.report (.ofFault fault))
        | none => .error (.report (.ofFault .moveCancelled))
      some (result, ⟨desk.plotter, schedule⟩)

theorem runWith_true (fuel : Nat) (s : Session R) (program : List Gcode) :
    s.runWith true fuel program = s.runProgram fuel program := rfl

/-- The deeds of a program, from its beginning on, but no more tasks than a number of them. -/
def deedsWith (lines : Bool) (fuel : Nat) (s : Session R) (program : List Gcode) : List Deed :=
  let first := (proceed program).outcome ⟨s.schedule.now, s.schedule.size⟩ ⟨s.plotter, none⟩
  let schedule := s.schedule.applyAll first.requests
  deed s.schedule.now none (beginning program) s.plotter ::
    match first.result with
    | .error _ => []
    | .ok () =>
      deeds fuel (if lines then schedule.apply (.submit statusPriority 0 .status) else schedule) first.context

/-- A session in which nothing is scheduled runs a program as an office does, with the same deeds. -/
theorem runWith_begun (lines : Bool) (fuel : Nat) {s : Session R} (idle : s.schedule = { now := s.schedule.now })
    {program : List Gcode} {stage : Stage} {logged : Logged R}
    (made : undertake s.schedule.now program { plotter := s.plotter } = .ok stage logged) :
    let o := s.begunWith lines stage logged
    s.runWith lines fuel program =
        (o.run fuel).map (fun (result, o) => (result.bind fun () => o.verdict, o.session)) ∧
      s.deedsWith lines fuel program =
        deed s.schedule.now none (beginning program) s.plotter :: o.deeds fuel := by
  have begun := proceed_outcome idle program lines
  simp only [made] at begun
  obtain ⟨result,desk,holds⟩ := begun
  unfold runWith deedsWith
  simp only [result]
  refine ⟨verdict_holds fuel _ desk holds,?_⟩
  rw [← desk,Office.deeds_holds fuel holds]

end Session
end PenPlotter
