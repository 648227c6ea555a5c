import PenPlotter.Proofs.Operation
import PenPlotter.Proofs.Schedule.Turn
import PenPlotter.Proofs.Session.Office

/-! The schedule of a session at work. It holds the operation under way and the status line that is due, and
nothing else, so that a program runs in the schedule as it does in an office. -/

namespace PenPlotter.Session

variable {R : Type} [Motor.Scalar R]

namespace Office

variable {o : Office R}

def line (due : Due) : Task Job := ⟨due, statusPriority, .status⟩

def visit (due : Due) (errand : Errand (List Gcode)) : Task Job := ⟨due, 0, .errand errand⟩

/-- The tasks of an office in their order. -/
def queue (o : Office R) : List (Task Job) :=
  let lines := o.status.toList.map line
  match o.errand with
  | none => lines
  | some (due, errand) => (visit due errand).enqueue lines

def session (o : Office R) : Session R := ⟨o.logged.plotter, { now := o.now, pending := o.queue }⟩

def desk (o : Office R) : Desk (Motor.Simulated R) Panel Result := ⟨o.logged.plotter, o.result⟩

/-- A schedule holds the tasks of an office. -/
def Holds (o : Office R) (s : Schedule Job) : Prop := s.settle = o.session.schedule

omit [Motor.Scalar R] in
theorem holds_iff {s : Schedule Job} : o.Holds s ↔ s.now = o.now ∧ s.queue = o.queue := by
  simp [Holds,session,Schedule.settle,Schedule.queue]

theorem line_precedes_visit {due other : Due} {errand : Errand (List Gcode)} :
    (line other).precedes (visit due errand) ↔ other.rank < due.rank := by
  simp only [Task.precedes,line,visit,statusPriority]
  omega

theorem visit_precedes_line {due other : Due} {errand : Errand (List Gcode)} :
    (visit due errand).precedes (line other) ↔ due.rank ≤ other.rank := by
  simp only [Task.precedes,line,visit,statusPriority]
  omega

theorem enqueue_line (due other : Due) (errand : Errand (List Gcode)) :
    (line other).enqueue [visit due errand] = (visit due errand).enqueue [line other] := by
  by_cases first : due.rank ≤ other.rank
  · simp [Task.enqueue,line_precedes_visit,visit_precedes_line,first,Nat.not_lt_of_le first]
  · simp [Task.enqueue,line_precedes_visit,visit_precedes_line,first,Nat.lt_of_not_le first]

end Office

/-! Each task of the session does what its turn in the office does. -/

abbrev Work (R : Type) := Draft Job (Desk (Motor.Simulated R) Panel Result)

/-- What a task that has left something makes of its work. -/
def Work.leave (w : Work R) : Left R → EStateM.Result Failure (Work R) Unit
  | .ok (.waiting delay errand) l =>
    .ok () ⟨⟨l.plotter, w.context.notes⟩, w.requests ++ [.submit 0 delay (.errand errand)]⟩
  | .ok (.ended reply) l => .ok () { w with context := ⟨l.plotter, some reply⟩ }
  | .ok .dropped l => .ok () { w with context := ⟨l.plotter, w.context.notes⟩ }
  | .error reason l => .error reason { w with context := ⟨l.plotter, w.context.notes⟩ }

theorem proceed_apply (commands : List Gcode) (moment : Moment) (w : Work R) (log : List (Entry R)) :
    proceed commands moment w = w.leave (undertake moment.now commands ⟨w.context.plotter,log⟩) := by
  induction commands generalizing w log with
  | nil => rfl
  | cons command rest ih =>
    simp only [proceed,undertake,bind_apply,Desk.onPlotter,Logged.write]
    cases command.dispatch mainMenu moment.now w.context.plotter with
    | error reason plotter => rfl
    | ok dispatched plotter =>
      cases dispatched with
      | started operation => rfl
      | replied reply =>
        cases reply with
        | error fault => rfl
        | ok => exact ih { w with context := ⟨plotter,w.context.notes⟩ } _

theorem finish_apply (rest : List Gcode) (completion : Completion) (moment : Moment) (w : Work R)
    (log : List (Entry R)) :
    finish rest completion moment w =
      w.leave (conclude moment.now rest completion ⟨w.context.plotter,log⟩) := by
  simp only [finish,conclude,bind_apply,Desk.onPlotter,Logged.write]
  cases Gcode.reply completion moment.now w.context.plotter with
  | error reason plotter => rfl
  | ok reply plotter =>
    cases reply with
    | error fault => rfl
    | ok => exact proceed_apply rest moment { w with context := ⟨plotter,w.context.notes⟩ } _

theorem perform_errand (errand : Errand (List Gcode)) (moment : Moment) (w : Work R) (log : List (Entry R)) :
    perform (.errand errand) moment w =
      w.leave (attend moment.now errand ⟨w.context.plotter,log⟩) := by
  show errand.perform .errand finish moment w = _
  rw [Errand.perform_apply]
  simp only [attend,Logged.write]
  cases errand.operation.poll moment.now w.context.plotter with
  | error reason plotter => rfl
  | ok made plotter =>
    cases made with
    | again | dropped => rfl
    | done completion =>
      exact finish_apply errand.next completion moment { w with context := ⟨plotter,w.context.notes⟩ } _

theorem perform_status (moment : Moment) (w : Work R) :
    perform .status moment w =
      match printStatus moment.now w.context.plotter with
      | .error reason plotter => .error reason { w with context := ⟨plotter,w.context.notes⟩ }
      | .ok () plotter =>
        .ok () ⟨⟨plotter,w.context.notes⟩,
          w.requests ++ if 0 < moment.waiting then [.submit statusPriority statusPeriod .status] else []⟩ := by
  simp only [perform,showStatus,printStatus,bind_apply,Desk.onPlotter]
  cases Plotter.statusLine moment.now w.context.plotter with
  | error reason plotter => rfl
  | ok told plotter =>
    simp only [Plotter.modify_apply]
    have told : (read : DeskM Job (Motor.Simulated R) Panel Result Moment) moment = .ok moment := rfl
    rw [told]
    by_cases waiting : 0 < moment.waiting
    · simp only [waiting,↓reduceIte]
      rfl
    · simp only [waiting,↓reduceIte,List.append_nil]
      rfl

namespace Office

variable {o : Office R}

omit [Motor.Scalar R] in
theorem queue_idle (idle : o.turn? = none) : o.queue = [] := by
  unfold turn? at idle
  unfold queue
  cases errand : o.errand <;> cases status : o.status <;> simp only [errand,status] at idle
  · rfl
  · cases idle
  · cases idle
  · split at idle <;> cases idle

omit [Motor.Scalar R] in
theorem queue_look {due : Due} {errand : Errand (List Gcode)} (turn : o.turn? = some (.look due errand)) :
    o.queue = visit due errand :: { o with errand := none }.queue := by
  unfold turn? at turn
  unfold queue
  cases waits : o.errand with
  | none => cases status : o.status <;> simp only [waits,status] at turn <;> cases turn
  | some waiting =>
    cases status : o.status with
    | none =>
      simp only [waits,status] at turn
      cases turn
      rfl
    | some other =>
      simp only [waits,status] at turn
      split at turn
      next first =>
        cases turn
        simp [Task.enqueue,line_precedes_visit,Nat.not_lt_of_le first]
      · cases turn

omit [Motor.Scalar R] in
theorem queue_status {due : Due} (turn : o.turn? = some (.status due)) :
    o.queue = line due :: { o with status := none }.queue := by
  unfold turn? at turn
  unfold queue
  cases waits : o.errand with
  | none =>
    cases status : o.status <;> simp only [waits,status] at turn <;> cases turn
    rfl
  | some waiting =>
    cases status : o.status with
    | none => simp only [waits,status] at turn; cases turn
    | some other =>
      simp only [waits,status] at turn
      split at turn
      · cases turn
      next first =>
        cases turn
        simp [Task.enqueue,line_precedes_visit,Nat.lt_of_not_le first]

/-- A turn at the schedule is a turn in the office. -/
theorem step_holds {s : Schedule Job} (holds : o.Holds s) :
    match o.turn? with
    | none => behaviour.step s o.desk = .idle o.session.schedule o.desk
    | some turn =>
      match o.take turn with
      | (.ok (), after) => ∃ s', behaviour.step s o.desk = .continued s' after.desk ∧ after.Holds s'
      | (.error reason, after) => behaviour.step s o.desk = .failed reason after.session.schedule after.desk := by
  obtain ⟨now,queue⟩ := holds_iff.mp holds
  cases next : o.turn? with
  | none =>
    rw [behaviour.step_idle o.desk (queue.trans (queue_idle next))]
    exact congrArg (Stepped.idle · o.desk) holds
  | some turn =>
    cases turn with
    | look due errand =>
      have first := queue.trans (queue_look next)
      have acted (moment : Moment) := perform_errand errand moment { context := o.desk } o.logged.log
      rw [behaviour.step_taken o.desk first]
      simp only [behaviour,Action.outcome,visit,acted,take,look,Schedule.taken,now]
      simp only [desk]
      cases attend (due.start o.now) errand o.logged with
      | error reason logged => rfl
      | ok stage logged =>
        cases stage with
        | waiting delay after =>
          exact ⟨_,rfl,holds_iff.mpr ⟨rfl,Schedule.queue_submit ..⟩⟩
        | ended reply => exact ⟨_,rfl,holds_iff.mpr ⟨rfl,rfl⟩⟩
        | dropped => exact ⟨_,rfl,holds_iff.mpr ⟨rfl,rfl⟩⟩
    | status due =>
      have first := queue.trans (queue_status next)
      rw [behaviour.step_taken o.desk first]
      simp only [behaviour,Action.outcome,line,perform_status,take,printLine,Schedule.taken,now]
      simp only [desk]
      cases printStatus (due.start o.now) o.logged.plotter with
      | error reason plotter => rfl
      | ok told plotter =>
        -- Whether the line comes back is decided by the number of tasks waiting behind it.
        cases o.errand with
        | none => exact ⟨_,rfl,holds_iff.mpr ⟨rfl,rfl⟩⟩
        | some waiting => exact ⟨_,rfl,holds_iff.mpr ⟨rfl,(Schedule.queue_submit ..).trans (enqueue_line ..)⟩⟩

theorem run_holds (fuel : Nat) {s : Schedule Job} (holds : o.Holds s) :
    match o.run fuel with
    | none => ∃ s' desk, behaviour.run fuel s o.desk = .unfinished s' desk
    | some (result, after) => behaviour.run fuel s o.desk = .finished result after.session.schedule after.desk := by
  induction fuel generalizing o s with
  | zero => exact ⟨_,_,rfl⟩
  | succ fuel ih =>
    have step := step_holds holds
    simp only [run,Behaviour.run]
    cases next : o.turn? with
    | none =>
      simp only [next] at step
      simp only [step]
    | some turn =>
      simp only [next] at step
      cases taken : o.take turn with
      | mk result after =>
        simp only [taken] at step
        cases result with
        | error reason => simp only [taken,step]
        | ok =>
          obtain ⟨s',step,holds⟩ := step
          simp only [taken,step]
          exact ih holds

end Office

/-- What is told of a run of the schedule is the verdict of the office. -/
theorem verdict_holds (fuel : Nat) (desk : Desk (Motor.Simulated R) Panel Result) {o : Office R}
    {schedule : Schedule Job} (same : o.desk = desk) (holds : o.Holds schedule) :
    (match behaviour.run fuel schedule desk with
      | .unfinished .. => none
      | .finished result schedule desk =>
        let result := result.bind fun () =>
          match desk.notes with
          | some (.ok ()) => .ok ()
          | some (.error fault) => .error (.report (.ofFault fault))
          | none => .error (.report (.ofFault .moveCancelled))
        some (result, (⟨desk.plotter, schedule⟩ : Session R))) =
      (o.run fuel).map fun (result, o) => (result.bind fun () => o.verdict, o.session) := by
  have ran := Office.run_holds fuel holds
  rw [← same]
  cases done : o.run fuel with
  | none =>
    simp only [done] at ran
    obtain ⟨_,_,ran⟩ := ran
    rw [ran]
    rfl
  | some left =>
    simp only [done] at ran
    rw [ran]
    rfl

/-- The office in which the beginning of a program has left something, with a status line due or without. -/
def begunWith (lines : Bool) (s : Session R) (stage : Stage) (logged : Logged R) : Office R :=
  { ({ now := s.schedule.now, logged } : Office R).enter stage with
    status := if lines then some .immediate else none }

/-- What the beginning of a program leaves is held by the office in which it is begun. -/
theorem proceed_outcome {s : Session R} (idle : s.schedule = { now := s.schedule.now }) (program : List Gcode)
    (lines : Bool) :
    let first := (proceed program).outcome ⟨s.schedule.now, s.schedule.size⟩ ⟨s.plotter, none⟩
    let schedule := s.schedule.applyAll first.requests
    match undertake s.schedule.now program { plotter := s.plotter } with
    | .error reason logged => first = ⟨⟨logged.plotter, none⟩, [], .error reason⟩
    | .ok stage logged =>
      first.result = .ok () ∧ (s.begunWith lines stage logged).desk = first.context ∧
        (s.begunWith lines stage logged).Holds
          (if lines then schedule.apply (.submit statusPriority 0 .status) else schedule) := by
  obtain ⟨plotter,schedule⟩ := s
  simp only at idle
  have begun := proceed_apply program ⟨schedule.now,schedule.size⟩ { context := ⟨plotter,none⟩ } []
  simp only [Action.outcome,begun]
  cases undertake schedule.now program ⟨plotter,[]⟩ with
  | error reason logged => rfl
  | ok stage logged =>
    cases stage with
    | waiting delay errand =>
      refine ⟨rfl,rfl,Office.holds_iff.mpr ?_⟩
      rw [idle]
      cases lines with
      | false => exact ⟨rfl,Schedule.queue_submit ..⟩
      | true => exact ⟨rfl,(Schedule.queue_submit ..).trans (Office.enqueue_line ..)⟩
    | ended | dropped =>
      refine ⟨rfl,rfl,Office.holds_iff.mpr ?_⟩
      rw [idle]
      cases lines <;> exact ⟨rfl,rfl⟩

/-- A session in which nothing is scheduled runs a program as an office does. -/
theorem runProgram_eq_work (fuel : Nat) {s : Session R} (idle : s.schedule = { now := s.schedule.now })
    (program : List Gcode) :
    s.runProgram fuel program = (s.work fuel program).map fun (result, o) => (result, o.session) := by
  have begun := proceed_outcome idle program true
  unfold runProgram work opened
  cases made : undertake s.schedule.now program { plotter := s.plotter } with
  | error reason logged =>
    simp only [made] at begun ⊢
    simp only [begun,Schedule.applyAll,List.foldl_nil,Option.map_some]
    rw [idle]
    rfl
  | ok stage logged =>
    simp only [made] at begun ⊢
    obtain ⟨result,desk,holds⟩ := begun
    simp only [result,Option.map_map]
    exact verdict_holds fuel _ desk holds

theorem work_of_runProgram {fuel : Nat} {s after : Session R} {program : List Gcode} {result : Except Failure Unit}
    (idle : s.schedule = { now := s.schedule.now }) (ran : s.runProgram fuel program = some (result,after)) :
    ∃ last, s.work fuel program = some (result,last) ∧ last.session = after := by
  rw [runProgram_eq_work fuel idle] at ran
  obtain ⟨⟨_,last⟩,worked,told⟩ := Option.map_eq_some_iff.mp ran
  cases told
  exact ⟨last,worked,rfl⟩

end PenPlotter.Session
