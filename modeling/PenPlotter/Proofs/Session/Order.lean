import PenPlotter.Proofs.History
import PenPlotter.Proofs.Session.Life

/-! The order of a program. Each command is begun when all before it have replied that they are done, and the
first one that does not reply so is the last one that is begun. The log of a program tells how far it got. -/

namespace PenPlotter.Session

variable {R : Type}

namespace Entry

def begun? : Entry R → Option Gcode
  | .begun command => some command
  | _ => none

def reply? : Entry R → Option (Except Fault Unit)
  | .replied reply .. => some reply
  | _ => none

end Entry

/-- The commands that were begun. -/
def commands (log : List (Entry R)) : List Gcode := log.filterMap Entry.begun?

def replies (log : List (Entry R)) : List (Except Fault Unit) := log.filterMap Entry.reply?

def Looks (log : List (Entry R)) : Prop := ∀ entry ∈ log, ∃ confirmed, entry = .looked confirmed

def Unconfirmed (log : List (Entry R)) : Prop := ∀ entry ∈ log, entry = .looked false

/-- A command is begun when all that were begun before it have replied that they are done. -/
def InOrder (before : List (Entry R)) (entry : Entry R) : Prop :=
  ∀ command, entry = .begun command → replies before = List.replicate (commands before).length (.ok ())

@[simp] theorem commands_nil : commands ([] : List (Entry R)) = [] := rfl

@[simp] theorem replies_nil : replies ([] : List (Entry R)) = [] := rfl

@[simp] theorem commands_append (log more : List (Entry R)) : commands (log ++ more) = commands log ++ commands more :=
  List.filterMap_append

@[simp] theorem replies_append (log more : List (Entry R)) : replies (log ++ more) = replies log ++ replies more :=
  List.filterMap_append

@[simp] theorem commands_cons (entry : Entry R) (log : List (Entry R)) :
    commands (entry :: log) = entry.begun?.toList ++ commands log := by
  cases entry <;> rfl

@[simp] theorem replies_cons (entry : Entry R) (log : List (Entry R)) :
    replies (entry :: log) = entry.reply?.toList ++ replies log := by
  cases entry <;> rfl

namespace Looks

variable {log : List (Entry R)}

theorem commands (looks : Looks log) : commands log = [] := by
  refine List.filterMap_eq_nil_iff.mpr fun entry inside => ?_
  obtain ⟨_,rfl⟩ := looks entry inside
  rfl

theorem replies (looks : Looks log) : replies log = [] := by
  refine List.filterMap_eq_nil_iff.mpr fun entry inside => ?_
  obtain ⟨_,rfl⟩ := looks entry inside
  rfl

theorem snoc (looks : Looks log) (confirmed : Bool) : Looks (log ++ [.looked confirmed]) := by
  intro entry inside
  rcases List.mem_append.mp inside with earlier | last
  · exact looks entry earlier
  · exact ⟨confirmed,List.mem_singleton.mp last⟩

end Looks

namespace Unconfirmed

variable {log : List (Entry R)}

theorem looks (unconfirmed : Unconfirmed log) : Looks log := fun entry inside => ⟨false,unconfirmed entry inside⟩

theorem snoc (unconfirmed : Unconfirmed log) : Unconfirmed (log ++ [.looked false]) := by
  intro entry inside
  rcases List.mem_append.mp inside with earlier | last
  · exact unconfirmed entry earlier
  · exact List.mem_singleton.mp last

end Unconfirmed

/-- The log of a row of commands that are all done. -/
inductive Done : List Gcode → List (Entry R) → Prop where
  | nil : Done [] []
  | snoc {row : List Gcode} {log looks : List (Entry R)} (command : Gcode) (now : Nat)
      (plotter : Plotter (Motor.Simulated R) Panel) :
      Done row log → Looks looks →
      Done (row ++ [command]) (log ++ .begun command :: (looks ++ [.replied (.ok ()) now plotter]))

namespace Done

variable {row : List Gcode} {log rest : List (Entry R)}

theorem commands (done : Done row log) : commands log = row := by
  induction done with
  | nil => rfl
  | snoc command _ _ _ looks ih => simp [ih,looks.commands,Entry.begun?]

theorem replies (done : Done row log) : replies log = List.replicate row.length (.ok ()) := by
  induction done with
  | nil => rfl
  | snoc command _ _ _ looks ih =>
    simp [ih,looks.replies,Entry.reply?,List.replicate_succ']

/-- A command that is begun next is begun in order, and so are those before it. -/
theorem begun (done : Done row log) (command : Gcode) (none : Session.commands rest = [])
    (earlier : Throughout InOrder log) : Throughout InOrder (log ++ .begun command :: rest) := by
  refine Throughout.append.mpr ⟨earlier,Throughout.cons.mpr ⟨?_,?_⟩⟩
  · intro _ _
    rw [List.append_nil,done.replies,done.commands]
  · rintro before entry after rfl other rfl
    simp [Entry.begun?] at none

theorem inOrder (done : Done row log) : Throughout InOrder log := by
  induction done with
  | nil => exact .nil
  | snoc command now plotter done looks ih =>
    exact done.begun command (by simp [looks.commands,Entry.begun?]) ih

end Done

/-- How a command and the operation that it has started go together. -/
structure Underway (command : Gcode) (operation : Operation) : Prop where
  measured : ∃ readings, operation.Measured readings
  move : operation.isHoming = false → ∃ x y z, command = .go x y z
  /-- No homing pass was refused because a move was cancelled. -/
  refusal : ∀ pass, operation = .homing pass → pass.phase ≠ .closing (some .moveCancelled)

/-- What a log tells of a program that has come to a stage. -/
inductive Tells (program : List Gcode) : Stage → List (Entry R) → Prop where
  | waiting {row : List Gcode} {command : Gcode} {log looks : List (Entry R)} (delay : Nat)
      (errand : Errand (List Gcode)) :
      Done row log → program = row ++ command :: errand.next → Unconfirmed looks →
      Underway command errand.operation →
      Tells program (.waiting delay errand) (log ++ .begun command :: looks)
  | done {log : List (Entry R)} : Done program log → Tells program (.ended (.ok ())) log
  | failed {row rest : List Gcode} {command : Gcode} {log looks : List (Entry R)} {fault : Fault} (now : Nat)
      (plotter : Plotter (Motor.Simulated R) Panel) :
      Done row log → program = row ++ command :: rest → Looks looks → fault ≠ .moveCancelled →
      Tells program (.ended (.error fault))
        (log ++ .begun command :: (looks ++ [.replied (.error fault) now plotter]))
  | dropped {row rest : List Gcode} {x y z : Option Float} {log looks : List (Entry R)} :
      Done row log → program = row ++ .go x y z :: rest → Unconfirmed looks →
      Tells program .dropped (log ++ .begun (.go x y z) :: (looks ++ [.looked true]))

variable [Motor.Scalar R]

namespace Underway

variable {command : Gcode} {operation next : Operation} {now delay : Nat} {previous : Screen}
variable {p p' : Plotter (Motor.Simulated R) Panel}

theorem dispatched (ran : command.dispatch previous now p = .ok (.started operation) p') :
    Underway command operation where
  measured := ⟨[],(Gcode.dispatch_started ran).1⟩
  move isMove := by
    rw [(Gcode.dispatch_started ran).2] at isMove
    cases command with
    | go x y z => exact ⟨x,y,z,rfl⟩
    | home => cases isMove
    | useMillimeters | useInches | absolute | relative => cases ran
  refusal := by
    rintro pass rfl shown
    cases command with
    | home =>
      obtain ⟨found,_,started,ran⟩ := bind_eq_ok.mp ran
      cases ran
      unfold Homing.Pass.start at started
      simp only [bind_apply,Plotter.get_apply] at started
      cases missing : p.disconnectedAxes <;> simp only [missing] at started <;> cases started <;> cases shown
    | go x y z => cases (Gcode.dispatch_started ran).2
    | useMillimeters | useInches | absolute | relative => cases ran

theorem again (underway : Underway command operation)
    (ran : operation.poll now p = .ok (.again delay next) p') :
    p.confirmed now = false ∧ Underway command next := by
  obtain ⟨readings,measured⟩ := underway.measured
  cases Operation.poll_ok measured ran with
  | again unconfirmed kind after =>
    refine ⟨unconfirmed,⟨_,after⟩,fun isMove => underway.move (kind.symm.trans isMove),?_⟩
    rintro pass rfl shown
    have refused : operation.refuses = true := (Operation.poll_again ran).2 ▸ Homing.Phase.refuses_iff.mpr ⟨_,shown⟩
    cases operation with
    | move targets => cases refused
    | homing before =>
      obtain ⟨fault,same⟩ := Homing.Phase.refuses_iff.mp refused
      obtain ⟨_,made,q,looked,ended⟩ := before.poll_refuses same now p
      rw [Operation.poll_homing,looked] at ran
      rcases ended with rfl | ⟨delay,rfl⟩
      · cases ran
      · cases ran
        exact underway.refusal _ rfl shown

theorem failed (underway : Underway command operation) {fault : Fault}
    (ran : operation.poll now p = .ok (.done (.homed (.error fault))) p') : fault ≠ .moveCancelled := by
  obtain ⟨readings,measured⟩ := underway.measured
  obtain ⟨pass,rfl,looked⟩ := Operation.poll_homed ran
  rcases Homing.Pass.cancelled_of_done measured.alive looked with refused | rfl
  · rintro rfl
    obtain ⟨other,shown⟩ := Homing.Phase.refuses_iff.mp refused
    obtain ⟨_,made,r,same,ended⟩ := pass.poll_refuses shown now p
    cases looked.symm.trans same
    rcases ended with told | ⟨_,told⟩
    · cases told
      exact underway.refusal pass rfl shown
    · cases told
  · intro cancelled
    cases cancelled

theorem dropped (underway : Underway command operation) (ran : operation.poll now p = .ok .dropped p') :
    p.confirmed now = true ∧ ∃ x y z, command = .go x y z := by
  obtain ⟨readings,measured⟩ := underway.measured
  cases Operation.poll_ok measured ran with
  | dropped confirmed which => exact ⟨confirmed,underway.move (by rw [which]; rfl)⟩

end Underway

/-- The only reply of a command that was not begun is that the plotter is not homed. -/
theorem dispatch_refused {command : Gcode} {previous : Screen} {now : Nat}
    {p p' : Plotter (Motor.Simulated R) Panel} {fault : Fault}
    (ran : command.dispatch previous now p = .ok (.replied (.error fault)) p') : fault = .notHomed := by
  cases command with
  | go x y z =>
    obtain ⟨_,_,⟨⟩,ran⟩ := bind_eq_ok.mp ran
    split at ran
    · cases ran
      rfl
    · obtain ⟨_,_,_,ran⟩ := bind_eq_ok.mp ran
      obtain ⟨_,_,_,ran⟩ := bind_eq_ok.mp ran
      cases ran
  | home =>
    obtain ⟨_,_,_,ran⟩ := bind_eq_ok.mp ran
    cases ran
  | useMillimeters | useInches | absolute | relative => cases ran

section Left

variable {program row rest : List Gcode} {command : Gcode} {now : Nat} {l logged : Logged R} {stage : Stage}
variable {before looks : List (Entry R)}

theorem undertake_tells (done : Done row l.log) (whole : program = row ++ rest)
    (ran : undertake now rest l = .ok stage logged) : Tells program stage logged.log := by
  induction rest generalizing row l with
  | nil =>
    cases ran
    rw [List.append_nil] at whole
    exact .done (whole ▸ done)
  | cons command rest ih =>
    simp only [undertake,Logged.write] at ran
    cases made : command.dispatch mainMenu now l.plotter with
    | error => simp [made] at ran
    | ok dispatched plotter =>
      simp only [made] at ran
      cases dispatched with
      | started operation =>
        cases ran
        exact .waiting 0 ⟨operation,rest⟩ done whole (by simp [Unconfirmed]) (.dispatched made)
      | replied reply =>
        cases reply with
        | error fault =>
          cases ran
          obtain rfl := dispatch_refused made
          have none : Looks ([] : List (Entry R)) := by simp [Looks]
          have own : Fault.notHomed ≠ .moveCancelled := by decide
          simpa using Tells.failed now plotter done whole none own
        | ok =>
          have none : Looks ([] : List (Entry R)) := by simp [Looks]
          have more := Done.snoc command now plotter done none
          exact ih (by simpa using more) (by simp [whole]) ran

theorem conclude_tells {completion : Completion} (done : Done row before) (whole : program = row ++ command :: rest)
    (looked : Looks looks) (soFar : l.log = before ++ .begun command :: looks)
    (own : ∀ fault, completion = .homed (.error fault) → fault ≠ .moveCancelled)
    (ran : conclude now rest completion l = .ok stage logged) : Tells program stage logged.log := by
  have onward {plotter : Plotter (Motor.Simulated R) Panel}
      (ran : undertake now rest ({ l with plotter }.write (.replied (.ok ()) now plotter)) = .ok stage logged) :
      Tells program stage logged.log := by
    have more := Done.snoc command now plotter done looked
    exact undertake_tells (by simpa [Logged.write,soFar] using more) (by simp [whole]) ran
  cases completion with
  | arrived => exact onward ran
  | homed outcome =>
    cases outcome with
    | ok c => exact onward ran
    | error fault =>
      cases ran
      simpa [Logged.write,soFar] using Tells.failed now l.plotter done whole looked (own fault rfl)

theorem attend_tells {errand : Errand (List Gcode)} {delay : Nat}
    (told : Tells program (.waiting delay errand) l.log) (ran : attend now errand l = .ok stage logged) :
    Tells program stage logged.log := by
  generalize soFar : l.log = log at told
  cases told with
  | @waiting row command log looks _ _ done whole unconfirmed underway =>
    simp only [attend,Logged.write,soFar] at ran
    cases made : errand.operation.poll now l.plotter with
    | error => simp [made] at ran
    | ok progress plotter =>
      simp only [made] at ran
      cases progress with
      | again delay next =>
        cases ran
        obtain ⟨unpressed,underway⟩ := underway.again made
        rw [unpressed]
        simpa using Tells.waiting delay { errand with operation := next } done whole unconfirmed.snoc underway
      | dropped =>
        cases ran
        obtain ⟨pressed,x,y,z,rfl⟩ := underway.dropped made
        rw [pressed]
        simpa using Tells.dropped done whole unconfirmed
      | done completion =>
        refine conclude_tells done whole (unconfirmed.looks.snoc (l.plotter.confirmed now)) (by simp) ?_ ran
        rintro fault rfl
        exact underway.failed made

end Left

/-- What the log of an office tells of the program that is run there. -/
def Office.Tells (program : List Gcode) (o : Office R) : Prop :=
  match o.errand, o.result with
  | some (_, errand), none => Session.Tells program (.waiting 0 errand) o.logged.log
  | none, some reply => Session.Tells program (.ended reply) o.logged.log
  | none, none => Session.Tells program .dropped o.logged.log
  | some _, some _ => False

namespace Office.Tells

variable {program : List Gcode} {o o' : Office R} {stage : Stage} {logged : Logged R}

omit [Motor.Scalar R] in
theorem enter (told : Session.Tells program stage logged.log) (now : Nat) (status : Option Due) :
    ({ ({ now, logged } : Office R).enter stage with status }).Tells program := by
  cases stage with
  | waiting delay errand =>
    generalize soFar : logged.log = log at told
    cases told with
    | waiting _ _ done whole unconfirmed underway =>
      simpa [Office.Tells,Office.enter,soFar] using Session.Tells.waiting 0 errand done whole unconfirmed underway
  | ended | dropped => exact told

omit [Motor.Scalar R] in
theorem waiting {due : Due} {errand : Errand (List Gcode)} (told : o.Tells program)
    (waits : o.errand = some (due,errand)) :
    o.result = none ∧ Session.Tells program (.waiting 0 errand) o.logged.log := by
  unfold Office.Tells at told
  rw [waits] at told
  cases result : o.result with
  | none => simpa [result] using told
  | some => simp [result] at told

theorem took (told : o.Tells program) (took : o.Took o') : o'.Tells program := by
  cases took with
  | @looked due errand stage logged turn made =>
    obtain ⟨result,told⟩ := told.waiting (errand_of_turn turn)
    have after := enter (attend_tells told made) (due.start o.now) o.status
    cases stage <;> simpa [Office.enter,result] using after
  | printed => exact told

end Office.Tells

/-- How far a program got, by its log: some of its commands have replied that they are done, the one after them
was begun, and the result says what has come of it. -/
structure Account (program : List Gcode) (log : List (Entry R)) (k : Nat) (result : Except Failure Unit) : Prop where
  begun : commands log = program.take (k + 1)
  inOrder : Throughout InOrder log
  replied : ∃ last, replies log = List.replicate k (.ok ()) ++ last ∧
    (last = [] ∨ ∃ fault, last = [.error fault] ∧ fault ≠ .moveCancelled)
  done : result = .ok () ↔ replies log = List.replicate program.length (.ok ())
  failed : ∀ fault, result = .error (.report (.ofFault fault)) ∧ fault ≠ .moveCancelled ↔
    replies log = List.replicate k (.ok ()) ++ [.error fault]
  cancelled : result = .error (.report (.ofFault .moveCancelled)) ↔
    ∃ x y z before looks, program[k]? = some (.go x y z) ∧ Done (program.take k) before ∧ Unconfirmed looks ∧
      log = before ++ .begun (.go x y z) :: (looks ++ [.looked true])
  told : result = .ok () ∨ k < program.length ∧ ∃ fault, result = .error (.report (.ofFault fault))

/-- What is reported of a program that has come to a stage. -/
def Stage.report : Stage → Except Failure Unit
  | .ended (.ok ()) => .ok ()
  | .ended (.error fault) => .error (.report (.ofFault fault))
  | .waiting .. | .dropped => .error (.report (.ofFault .moveCancelled))

def Stage.isOver : Stage → Bool
  | .waiting .. => false
  | .ended _ | .dropped => true

omit [Motor.Scalar R] in
/-- The log of a program that is over accounts for its result. -/
theorem Tells.account {program : List Gcode} {stage : Stage} {log : List (Entry R)} (told : Tells program stage log)
    (finished : stage.isOver = true) : ∃ k, Account program log k stage.report := by
  cases told with
  | waiting => cases finished
  | done done =>
    have replied := done.replies
    refine ⟨program.length,⟨?_,done.inOrder,⟨[],by simpa using replied,.inl rfl⟩,by simp [Stage.report,replied],?_,?_,
      .inl rfl⟩⟩
    · rw [done.commands,List.take_of_length_le (Nat.le_succ _)]
    · simp [Stage.report,replied]
    · simp [Stage.report]
  | @failed row rest command before looks fault now plotter done whole looked own =>
    have replied := done.replies
    subst whole
    refine ⟨row.length,⟨?_,?_,⟨[.error fault],?_,.inr ⟨fault,rfl,own⟩⟩,?_,?_,?_,.inr ⟨by simp,fault,rfl⟩⟩⟩
    · simp [done.commands,looked.commands,Entry.begun?,List.take_append,List.take_of_length_le]
    · exact done.begun command (by simp [looked.commands,Entry.begun?]) done.inOrder
    · simp [replied,looked.replies,Entry.reply?]
    · have different :
          Except.error fault ∉ List.replicate (row ++ command :: rest).length (Except.ok () : Except Fault Unit) := by
        simp
      refine ⟨nofun,fun same => absurd ?_ different⟩
      rw [← same]
      simp [Entry.reply?]
    · intro other
      simp only [replies_append,replies_cons,replied,looked.replies,Entry.reply?,Stage.report]
      simp only [Option.toList_none,Option.toList_some,List.nil_append,replies_nil,List.append_nil,
        List.append_cancel_left_eq,List.cons.injEq,and_true,Except.error.injEq,Failure.report.injEq,Report.ofFault,
        Report.mk.injEq,Origin.fault.injEq]
      exact ⟨fun same => same.1,fun same => ⟨same,same ▸ own⟩⟩
    · refine ⟨fun same => ?_,?_⟩
      · simp only [Stage.report,Except.error.injEq,Failure.report.injEq,Report.ofFault,Report.mk.injEq,
          Origin.fault.injEq,and_true] at same
        exact absurd same own
      · rintro ⟨x,y,z,earlier,more,_,_,unconfirmed,same⟩
        -- The log ends in a reply, not in a look.
        simp only [← List.cons_append,← List.append_assoc] at same
        cases (List.append_inj' same rfl).2
  | @dropped row rest x y z before looks done whole unconfirmed =>
    have replied := done.replies
    subst whole
    refine ⟨row.length,⟨?_,?_,⟨[],?_,.inl rfl⟩,?_,?_,?_,.inr ⟨by simp,_,rfl⟩⟩⟩
    · simp [done.commands,unconfirmed.looks.commands,Entry.begun?,List.take_append,List.take_of_length_le]
    · exact done.begun _ (by simp [unconfirmed.looks.commands,Entry.begun?]) done.inOrder
    · simp [replied,unconfirmed.looks.replies,Entry.reply?]
    · simp [replied,unconfirmed.looks.replies,Entry.reply?,Stage.report]
    · intro other
      simp only [replies_append,replies_cons,replied,unconfirmed.looks.replies,Entry.reply?,Stage.report]
      simp [Report.ofFault,eq_comm]
    · refine ⟨fun _ => ⟨x,y,z,before,looks,by simp,by simpa using done,unconfirmed,rfl⟩,fun _ => rfl⟩

end PenPlotter.Session
