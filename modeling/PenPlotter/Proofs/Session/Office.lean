import PenPlotter.Session
import PenPlotter.Proofs.Plotter.Program

/-! A session at work, with a log. Between two tasks there is at most one operation under way and at most one
status line due. What every task keeps is kept by a whole program. -/

namespace PenPlotter.Session

inductive Entry (R : Type) where
  | begun (command : Gcode)
  /-- A look at the operation under way, and whether it took a confirm. -/
  | looked (confirmed : Bool)
  /-- The reply to the command under way, and the plotter as it was then. -/
  | replied (reply : Except Fault Unit) (now : Nat) (plotter : Plotter (Motor.Simulated R) Panel)

structure Logged (R : Type) where
  plotter : Plotter (Motor.Simulated R) Panel
  log : List (Entry R) := []

def Logged.write (l : Logged R) (entry : Entry R) : Logged R := { l with log := l.log ++ [entry] }

/-- How a program stands after a task. -/
inductive Stage where
  /-- An operation is under way and will be looked at after a delay. -/
  | waiting (delay : Nat) (errand : Errand (List Gcode))
  | ended (reply : Except Fault Unit)
  /-- A move was broken off, and nothing was replied. -/
  | dropped

/-- The operation that a task has left under way. -/
def Stage.errand? : Stage → Option (Errand (List Gcode))
  | .waiting _ errand => some errand
  | .ended _ | .dropped => none

/-- The result of the program after a task, if it was another one before. -/
def Stage.result? (before : Result) : Stage → Result
  | .ended reply => some reply
  | .waiting .. | .dropped => before

/-- What a task leaves, whether it comes to an end or breaks off. -/
abbrev Left (R : Type) := EStateM.Result Failure (Logged R) Stage

variable {R : Type} [Motor.Scalar R]

/-- Begins one command after the other, until one of them takes time. -/
def undertake (now : Nat) : List Gcode → Logged R → Left R
  | [], l => .ok (.ended (.ok ())) l
  | command :: rest, l =>
    let l := l.write (.begun command)
    match command.dispatch mainMenu now l.plotter with
    | .error reason plotter => .error reason { l with plotter }
    | .ok (.started operation) plotter => .ok (.waiting 0 ⟨operation, rest⟩) { l with plotter }
    | .ok (.replied (.ok ())) plotter =>
      undertake now rest ({ l with plotter }.write (.replied (.ok ()) now plotter))
    | .ok (.replied (.error fault)) plotter =>
      .ok (.ended (.error fault)) ({ l with plotter }.write (.replied (.error fault) now plotter))

/-- What comes of a completion. -/
def conclude (now : Nat) (rest : List Gcode) (completion : Completion) (l : Logged R) : Left R :=
  match Gcode.reply completion now l.plotter with
  | .error reason plotter => .error reason { l with plotter }
  | .ok (.ok ()) plotter => undertake now rest ({ l with plotter }.write (.replied (.ok ()) now plotter))
  | .ok (.error fault) plotter =>
    .ok (.ended (.error fault)) ({ l with plotter }.write (.replied (.error fault) now plotter))

/-- Takes one look at the operation under way. -/
def attend (now : Nat) (errand : Errand (List Gcode)) (l : Logged R) : Left R :=
  let l := l.write (.looked (l.plotter.confirmed now))
  match errand.operation.poll now l.plotter with
  | .error reason plotter => .error reason { l with plotter }
  | .ok (.again delay operation) plotter =>
    .ok (.waiting delay { errand with operation }) { l with plotter }
  | .ok (.done completion) plotter => conclude now errand.next completion { l with plotter }
  | .ok .dropped plotter => .ok .dropped { l with plotter }

def printStatus : PlotterM (Motor.Simulated R) Panel Unit := do
  let line ← Plotter.statusLine
  modify fun p => { p with display := p.display.showStatus line }

/-- A session between two tasks. -/
structure Office (R : Type) where
  now : Nat
  logged : Logged R
  result : Result := none
  /-- The operation under way. -/
  errand : Option (Due × Errand (List Gcode)) := none
  /-- When the next status line is due. -/
  status : Option Due := none

inductive Turn where
  | look (due : Due) (errand : Errand (List Gcode))
  | status (due : Due)

namespace Office

variable (o : Office R)

def enter : Stage → Office R
  | .waiting delay errand => { o with errand := some (.after o.now delay, errand) }
  | .ended reply => { o with errand := none, result := some reply }
  | .dropped => { o with errand := none }

/-- Whose turn it is. A look comes before a status line that is due at the same time. -/
def turn? : Option Turn :=
  match o.errand, o.status with
  | none, none => none
  | some (due, errand), none => some (.look due errand)
  | none, some due => some (.status due)
  | some (due, errand), some line =>
    if due.rank ≤ line.rank then some (.look due errand) else some (.status line)

def look (due : Due) (errand : Errand (List Gcode)) : Except Failure Unit × Office R :=
  let now := due.start o.now
  match attend now errand o.logged with
  | .ok stage logged => (.ok (), { o with now, logged, errand := none }.enter stage)
  | .error reason logged => (.error reason, { o with now, logged, errand := none })

/-- A status line comes back as long as an operation is under way. -/
def printLine (due : Due) : Except Failure Unit × Office R :=
  let now := due.start o.now
  let status := if o.errand.isSome then some (Due.after now statusPeriod) else none
  match printStatus now o.logged.plotter with
  | .ok () plotter => (.ok (), { o with now, status, logged.plotter := plotter })
  | .error reason plotter => (.error reason, { o with now, status := none, logged.plotter := plotter })

def take : Turn → Except Failure Unit × Office R
  | .look due errand => o.look due errand
  | .status due => o.printLine due

/-- Takes turns until there is nothing left to do or one fails, but no more than a number of them. -/
def run : Nat → Office R → Option (Except Failure Unit × Office R)
  | 0, _ => none
  | fuel + 1, o =>
    match o.turn? with
    | none => some (.ok (), o)
    | some turn =>
      match o.take turn with
      | (.ok (), o) => run fuel o
      | (.error reason, o) => some (.error reason, o)

/-- What is reported of a program that is over. -/
def verdict : Except Failure Unit :=
  match o.result with
  | some (.ok ()) => .ok ()
  | some (.error fault) => .error (.report (.ofFault fault))
  | none => .error (.report (.ofFault .moveCancelled))

end Office

/-- The office in which a program is run, and what has come of its beginning. -/
def opened (s : Session R) (program : List Gcode) : Except Failure Unit × Office R :=
  let o : Office R := { now := s.schedule.now, logged := { plotter := s.plotter } }
  match undertake o.now program o.logged with
  | .ok stage logged => (.ok (), { { o with logged }.enter stage with status := some .immediate })
  | .error reason logged => (.error reason, { o with logged })

/-- Runs a program like `runProgram`, in an office. -/
def work (fuel : Nat) (s : Session R) (program : List Gcode) : Option (Except Failure Unit × Office R) :=
  match s.opened program with
  | (.error reason, o) => some (.error reason, o)
  | (.ok (), o) => (o.run fuel).map fun (result, o) => (result.bind fun () => o.verdict, o)

/-! A log only grows. -/

section Extends

variable {now : Nat} {l logged : Logged R} {stage : Stage}

theorem undertake_extends {row : List Gcode} (ran : undertake now row l = .ok stage logged) :
    l.log <+: logged.log := by
  induction row generalizing l with
  | nil => cases ran; exact List.prefix_refl _
  | cons command row ih =>
    simp only [undertake,Logged.write] at ran
    cases made : command.dispatch mainMenu now l.plotter with
    | error => simp [made] at ran
    | ok dispatched plotter =>
      simp only [made] at ran
      cases dispatched with
      | started operation => cases ran; exact List.prefix_append ..
      | replied reply =>
        cases reply with
        | error fault => cases ran; exact (List.prefix_append ..).trans (List.prefix_append ..)
        | ok => exact ((List.prefix_append ..).trans (List.prefix_append ..)).trans (ih ran)

theorem attend_extends {errand : Errand (List Gcode)} (ran : attend now errand l = .ok stage logged) :
    l.log <+: logged.log := by
  simp only [attend,Logged.write] at ran
  cases made : errand.operation.poll now l.plotter with
  | error => simp [made] at ran
  | ok progress plotter =>
    simp only [made] at ran
    cases progress with
    | again | dropped => cases ran; exact List.prefix_append ..
    | done completion =>
      simp only [conclude,Logged.write] at ran
      cases told : Gcode.reply completion now plotter with
      | error => simp [told] at ran
      | ok reply plotter =>
        simp only [told] at ran
        cases reply with
        | error fault => cases ran; exact (List.prefix_append ..).trans (List.prefix_append ..)
        | ok => exact ((List.prefix_append ..).trans (List.prefix_append ..)).trans (undertake_extends ran)

end Extends

/-! What a run keeps, and how it ends. -/

namespace Office

variable {o o' last : Office R} {fuel : Nat} {result : Except Failure Unit}

omit [Motor.Scalar R] in
theorem errand_of_turn {due : Due} {errand : Errand (List Gcode)} (turn : o.turn? = some (.look due errand)) :
    o.errand = some (due,errand) := by
  unfold turn? at turn
  split at turn
  · cases turn
  next waits _ => cases turn; exact waits
  · cases turn
  next waits _ => split at turn <;> cases turn; exact waits

omit [Motor.Scalar R] in
theorem status_of_turn {due : Due} (turn : o.turn? = some (.status due)) : o.status = some due := by
  unfold turn? at turn
  split at turn
  · cases turn
  · cases turn
  next waits => cases turn; exact waits
  next waits => split at turn <;> cases turn; exact waits

omit [Motor.Scalar R] in
theorem errand_idle (idle : o.turn? = none) : o.errand = none := by
  unfold turn? at idle
  split at idle
  next free _ => exact free
  · cases idle
  next free _ => exact free
  · split at idle <;> cases idle

/-- A turn that did not fail. -/
inductive Took (o : Office R) : Office R → Prop where
  | looked {due : Due} {errand : Errand (List Gcode)} {stage : Stage} {logged : Logged R} :
      o.turn? = some (.look due errand) → attend (due.start o.now) errand o.logged = .ok stage logged →
      Took o ({ o with now := due.start o.now, logged, errand := none }.enter stage)
  | printed {due : Due} {plotter : Plotter (Motor.Simulated R) Panel} :
      o.turn? = some (.status due) → printStatus (due.start o.now) o.logged.plotter = .ok () plotter →
      Took o { o with
        now := due.start o.now
        status := if o.errand.isSome then some (Due.after (due.start o.now) statusPeriod) else none
        logged.plotter := plotter }

/-- A turn that failed. -/
inductive Broke (o : Office R) (reason : Failure) : Prop where
  | looked {due : Due} {errand : Errand (List Gcode)} {logged : Logged R} :
      o.turn? = some (.look due errand) → attend (due.start o.now) errand o.logged = .error reason logged →
      Broke o reason
  | printed {due : Due} {plotter : Plotter (Motor.Simulated R) Panel} :
      o.turn? = some (.status due) → printStatus (due.start o.now) o.logged.plotter = .error reason plotter →
      Broke o reason

theorem take_cases {turn : Turn} (next : o.turn? = some turn) (taken : o.take turn = (result,o')) :
    (result = .ok () ∧ o.Took o') ∨ ∃ reason, result = .error reason ∧ o.Broke reason := by
  cases turn with
  | look due errand =>
    simp only [take,look] at taken
    cases made : attend (due.start o.now) errand o.logged with
    | ok stage logged =>
      simp only [made] at taken
      cases taken
      exact .inl ⟨rfl,.looked next made⟩
    | error reason logged =>
      simp only [made] at taken
      cases taken
      exact .inr ⟨reason,rfl,.looked next made⟩
  | status due =>
    simp only [take,printLine] at taken
    cases made : printStatus (due.start o.now) o.logged.plotter with
    | ok told plotter =>
      simp only [made] at taken
      cases taken
      exact .inl ⟨rfl,.printed next made⟩
    | error reason plotter =>
      simp only [made] at taken
      cases taken
      exact .inr ⟨reason,rfl,.printed next made⟩

/-- What every turn keeps holds at the end of a run, or up to the turn that failed. -/
theorem run_ends {holds : Office R → Prop} (keeps : ∀ o o', holds o → o.Took o' → holds o') (start : holds o)
    (ran : o.run fuel = some (result,last)) :
    (result = .ok () ∧ holds last ∧ last.turn? = none) ∨
      ∃ before reason, holds before ∧ before.Broke reason ∧ result = .error reason := by
  induction fuel generalizing o with
  | zero => cases ran
  | succ fuel ih =>
    unfold run at ran
    cases next : o.turn? with
    | none =>
      simp only [next] at ran
      cases ran
      exact .inl ⟨rfl,start,next⟩
    | some turn =>
      simp only [next] at ran
      cases taken : o.take turn with
      | mk made after =>
        simp only [taken] at ran
        rcases take_cases next taken with ⟨rfl,took⟩ | ⟨reason,rfl,broke⟩
        · exact ih (keeps _ _ start took) ran
        · cases ran
          exact .inr ⟨o,reason,start,broke,rfl⟩

theorem Took.extends (took : o.Took o') : o.logged.log <+: o'.logged.log := by
  cases took with
  | @looked due errand stage logged turn made => cases stage <;> exact attend_extends made
  | printed => exact List.prefix_refl _

theorem run_extends (ran : o.run fuel = some (.ok (),last)) : o.logged.log <+: last.logged.log := by
  have keeps (a b : Office R) (soFar : o.logged.log <+: a.logged.log) (took : a.Took b) :
      o.logged.log <+: b.logged.log := soFar.trans took.extends
  rcases run_ends keeps (List.prefix_refl _) ran with ⟨_,whole,_⟩ | ⟨_,_,_,_,broke⟩
  · exact whole
  · cases broke

end Office

/-- The office in which the beginning of a program has left something. -/
def begun (s : Session R) (stage : Stage) (logged : Logged R) : Office R :=
  { ({ now := s.schedule.now, logged } : Office R).enter stage with status := some .immediate }

/-- How a program ends: it cannot be begun, a turn fails, or there is nothing left to do. -/
theorem work_ends {holds : Office R → Prop} {s : Session R} {fuel : Nat} {program : List Gcode}
    {result : Except Failure Unit} {last : Office R} (keeps : ∀ o o', holds o → o.Took o' → holds o')
    (opens : ∀ stage logged, undertake s.schedule.now program { plotter := s.plotter } = .ok stage logged →
      holds (s.begun stage logged)) (ran : s.work fuel program = some (result,last)) :
    (result = last.verdict ∧ holds last ∧ last.turn? = none) ∨
      ∃ reason, result = .error reason ∧
        ((∃ before, holds before ∧ before.Broke reason) ∨
          ∃ logged, undertake s.schedule.now program { plotter := s.plotter } = .error reason logged) := by
  unfold work opened at ran
  cases made : undertake s.schedule.now program { plotter := s.plotter } with
  | error reason logged =>
    simp only [made] at ran
    cases ran
    exact .inr ⟨reason,rfl,.inr ⟨logged,rfl⟩⟩
  | ok stage logged =>
    simp only [made] at ran
    obtain ⟨⟨_,_⟩,run,told⟩ := Option.map_eq_some_iff.mp ran
    cases told
    rcases Office.run_ends keeps (opens stage logged made) run with ⟨rfl,holds,idle⟩ | ⟨before,reason,holds,broke,rfl⟩
    · exact .inl ⟨rfl,holds,idle⟩
    · exact .inr ⟨reason,rfl,.inl ⟨before,holds,broke⟩⟩

end PenPlotter.Session
