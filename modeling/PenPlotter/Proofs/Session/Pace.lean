import PenPlotter.Proofs.Homing.Pace
import PenPlotter.Proofs.Schedule.Instants
import PenPlotter.Proofs.Session.Opening
import PenPlotter.Proofs.Session.Progress

/-! How many tasks a session runs at one instant. A command that replies at once is followed by the next within the
same task. An operation has at most two looks at one instant and one more at its end, with which a command is used up;
a status line that has been printed comes back later. -/

namespace PenPlotter

open Motor

variable {R : Type} [Scalar R]

/-- An operation whose motor was set going at an instant and has not moved since. -/
def Operation.Launched {δ : Type} (now : Nat) (p : Plotter (Simulated R) δ) (operation : Operation) : Prop :=
  ∃ pass leg, operation = .homing pass ∧ pass.phase = .running leg ∧ (p.motor leg.axis).Launched now

/-- Time passes between two looks. -/
def Motion.Waits (motion : Motion) : Prop := 0 < motion.goPoll ∧ 0 < motion.homingPoll

namespace Operation

variable {δ : Type} [Display δ] {now delay : Nat} {p p' : Plotter (Simulated R) δ} {operation next : Operation}

/-- The next look waits, unless a motor was set going. -/
theorem poll_paced (waits : p.motion.Waits) (safe : operation.refuses = true ∨ p.Connected)
    (ran : operation.poll now p = .ok (.again delay next) p') : 0 < delay ∨ next.Launched now p' := by
  cases operation with
  | homing pass =>
    rw [poll_homing] at ran
    cases looked : pass.poll now p with
    | error => simp [looked] at ran
    | ok made q =>
      simp only [looked] at ran
      cases made <;> cases ran
      rcases pass.poll_paced safe looked with rfl | ⟨leg,running,launched⟩
      · exact .inl waits.2
      · exact .inr ⟨_,leg,rfl,running,launched⟩
  | move targets =>
    rw [poll_move] at ran
    have connected : p.Connected := safe.resolve_left (by simp [refuses])
    cases pressed : p.confirmed now with
    | true => rw [targets.poll_confirmed pressed] at ran; cases ran
    | false =>
      obtain ⟨q,_,⟨looked,_⟩ | ⟨looked,_⟩⟩ := targets.poll_connected connected pressed
      all_goals
        rw [looked] at ran
        cases ran
      exact .inl waits.1

/-- A look at the instant at which the motor was set going is followed by one that waits, unless it cancels. -/
theorem poll_launched {made : Progress Operation Completion} (waits : p.motion.Waits)
    (safe : operation.refuses = true ∨ p.Connected) (launched : operation.Launched now p)
    (ran : operation.poll now p = .ok made p') :
    made = .done (.homed (.error .homingCancelled)) ∨ ∃ delay next, made = .again delay next ∧ 0 < delay := by
  obtain ⟨pass,leg,rfl,running,launched⟩ := launched
  have connected : p.Connected := safe.resolve_left (by simp [refuses,running,Homing.Phase.refuses])
  rw [poll_homing] at ran
  cases looked : pass.poll now p with
  | error => simp [looked] at ran
  | ok found q =>
    simp only [looked] at ran
    cases ran
    rcases pass.poll_launched running connected launched looked with rfl | ⟨next,rfl⟩
    · exact .inl rfl
    · exact .inr ⟨_,_,rfl,waits.2⟩

omit [Display δ] in
/-- To look at motors that are set going at the same instant does not move them. -/
theorem Launched.glanced (launched : operation.Launched now p) (glanced : Plotter.Glanced now p p') :
    operation.Launched now p' := by
  obtain ⟨pass,leg,rfl,running,launched⟩ := launched
  refine ⟨pass,leg,rfl,running,?_⟩
  rcases glanced.motor leg.axis with same | up
  · rwa [same]
  · rwa [up,Simulated.advance_of_updated launched.updated]

end Operation

/-- Neither a command nor its reply changes the times of motion. -/
theorem Gcode.dispatch_motion {μ δ : Type} [Motor μ] [Display δ] (previous : Screen) (command : Gcode) :
    Plotter.Keeps (fun _ => True) Plotter.motion (dispatch previous command : PlotterM μ δ Dispatched) := by
  cases command with
  | go x y z =>
    refine .bind .get fun p => ?_
    split
    · exact .pure _
    · exact .bind (targets_keeps .motion x y z) fun targets =>
        .bind ((targets.start_keeps .motion).imp fun _ _ => trivial) fun _ => .pure _
  | home => exact .bind (Homing.Pass.start_keeps .motion previous) fun _ => .pure _
  | useMillimeters | useInches | absolute | relative => exact fun _ _ => ⟨rfl,fun _ _ => nofun⟩

theorem Gcode.reply_motion {μ δ : Type} (completion : Completion) :
    Plotter.Keeps (fun _ => True) Plotter.motion (reply completion : PlotterM μ δ (Except Fault Unit)) := by
  cases completion with
  | arrived => exact .pure _
  | homed outcome => cases outcome <;> exact fun _ _ => ⟨rfl,fun _ _ => nofun⟩

namespace Session

variable {now delay : Nat} {l logged : Logged R} {stage : Stage} {errand next : Errand (List Gcode)}

theorem undertake_motion {row : List Gcode} (ran : undertake now row l = .ok stage logged) :
    logged.plotter.motion = l.plotter.motion := by
  induction row generalizing l with
  | nil => cases ran; rfl
  | cons command row ih =>
    simp only [undertake,Logged.write] at ran
    cases made : command.dispatch mainMenu now l.plotter with
    | error => simp [made] at ran
    | ok dispatched plotter =>
      have kept := (Gcode.dispatch_motion mainMenu command).of_ok made
      simp only [made] at ran
      cases dispatched with
      | started operation => cases ran; exact kept
      | replied reply =>
        cases reply with
        | error fault => cases ran; exact kept
        | ok => exact (ih ran).trans kept

theorem attend_motion (ran : attend now errand l = .ok stage logged) :
    logged.plotter.motion = l.plotter.motion := by
  simp only [attend,Logged.write] at ran
  cases made : errand.operation.poll now l.plotter with
  | error => simp [made] at ran
  | ok progress plotter =>
    have kept : plotter.motion = l.plotter.motion := (errand.operation.poll_yields .motion).of_ok made
    simp only [made] at ran
    cases progress with
    | again | dropped => cases ran; exact kept
    | done completion =>
      simp only [conclude,Logged.write] at ran
      cases told : Gcode.reply completion now plotter with
      | error => simp [told] at ran
      | ok reply plotter =>
        have replied := (Gcode.reply_motion completion).of_ok told
        simp only [told] at ran
        cases reply with
        | error fault => cases ran; exact replied.trans kept
        | ok => exact (undertake_motion ran).trans (replied.trans kept)

theorem printStatus_motion {p p' : Plotter (Simulated R) Panel} (told : printStatus now p = .ok () p') :
    p'.motion = p.motion := by
  obtain ⟨q,line,glanced,rfl⟩ := printStatus_ok told
  exact glanced.motion

theorem Office.Took.motion {o o' : Office R} (took : o.Took o') :
    o'.logged.plotter.motion = o.logged.plotter.motion := by
  cases took with
  | @looked due errand stage logged turn made => cases stage <;> exact attend_motion made
  | printed _ made => exact printStatus_motion made

theorem Lived.motion {first s : Session R} {log : List (Entry R)} (lived : Lived first log s)
    (settled : first.Settled) : s.plotter.motion = first.plotter.motion := by
  induction lived with
  | opened => rfl
  | @ran log s fuel program result last before ran worked returned ih =>
    have begins (stage : Stage) (logged : Logged R)
        (made : undertake s.schedule.now program { plotter := s.plotter } = .ok stage logged) :
        (s.begun stage logged).logged.plotter.motion = first.plotter.motion := by
      have kept := (undertake_motion made).trans ih
      cases stage <;> exact kept
    have keeps (o o' : Office R) (_ : o.Wired) (same : o.logged.plotter.motion = first.plotter.motion)
        (took : o.Took o') : o'.logged.plotter.motion = first.plotter.motion := took.motion.trans same
    rcases (before.settled settled).work_ends keeps begins worked with ⟨overflow,rfl⟩ | ⟨_,_,same,_⟩
    · exact absurd rfl (returned overflow)
    · exact same
  | waited _ _ ih => exact ih
  | asked _ glances ih =>
    rw [ask_plotter]
    exact (glances _ _).motion.trans ih

/-- A command that takes time is used up when it is begun. -/
theorem undertake_shorter {row : List Gcode} (ran : undertake now row l = .ok (.waiting delay next) logged) :
    next.next.length < row.length := by
  induction row generalizing l with
  | nil => cases ran
  | cons command row ih =>
    simp only [undertake,Logged.write] at ran
    cases made : command.dispatch mainMenu now l.plotter with
    | error => simp [made] at ran
    | ok dispatched plotter =>
      simp only [made] at ran
      cases dispatched with
      | started operation => cases ran; exact Nat.lt_succ_self _
      | replied reply =>
        cases reply with
        | error fault => cases ran
        | ok => exact Nat.lt_succ_of_lt (ih ran)

/-- After a look that leaves something under way a command is used up, or the next look waits, or a motor has just
been set going. -/
theorem attend_paced (waits : l.plotter.motion.Waits) (safe : errand.operation.refuses = true ∨ l.plotter.Connected)
    (ran : attend now errand l = .ok (.waiting delay next) logged) :
    next.next.length < errand.next.length ∨
      next.next = errand.next ∧ (0 < delay ∨ next.operation.Launched now logged.plotter) := by
  simp only [attend,Logged.write] at ran
  cases made : errand.operation.poll now l.plotter with
  | error => simp [made] at ran
  | ok progress plotter =>
    simp only [made] at ran
    cases progress with
    | again => cases ran; exact .inr ⟨rfl,Operation.poll_paced waits safe made⟩
    | dropped => cases ran
    | done completion =>
      simp only [conclude,Logged.write] at ran
      cases told : Gcode.reply completion now plotter with
      | error => simp [told] at ran
      | ok reply plotter =>
        simp only [told] at ran
        cases reply with
        | error fault => cases ran
        | ok => exact .inl (undertake_shorter ran)

/-- At the instant at which a motor was set going no second look comes. -/
theorem attend_launched (waits : l.plotter.motion.Waits)
    (safe : errand.operation.refuses = true ∨ l.plotter.Connected) (launched : errand.operation.Launched now l.plotter)
    (ran : attend now errand l = .ok (.waiting delay next) logged) : 0 < delay := by
  simp only [attend,Logged.write] at ran
  cases made : errand.operation.poll now l.plotter with
  | error => simp [made] at ran
  | ok progress plotter =>
    simp only [made] at ran
    rcases Operation.poll_launched waits safe launched made with rfl | ⟨_,_,rfl,later⟩
    · cases ran
    · cases ran
      exact later

def Turn.due : Turn → Due
  | .look due _ | .status due => due

namespace Office

variable {o o' : Office R} {looks lines : Nat}

/-- A bound on the looks that are taken before the clock moves on. -/
def Looks (o : Office R) (n : Nat) : Prop :=
  ∀ due errand, o.errand = some (due, errand) → due.start o.now = o.now →
    errand.operation.Launched o.now o.logged.plotter ∧ 1 ≤ n ∨ errand.next.length + 2 ≤ n

/-- A bound on the status lines that are printed before the clock moves on. -/
def Lines (o : Office R) (n : Nat) : Prop :=
  ∀ due, o.status = some due → due.start o.now = o.now → 1 ≤ n

/-- A bound on the tasks that are run at any one instant from now on. -/
def allowance (o : Office R) : Nat :=
  (o.errand.elim 0 fun waiting => waiting.2.next.length + 2) + 1

/-- An office whose motors are there where they are needed and whose looks wait for each other. -/
structure Paced (o : Office R) : Prop extends o.Wired where
  waits : o.logged.plotter.motion.Waits

theorem Paced.took (paced : o.Paced) (took : o.Took o') : o'.Paced where
  toWired := paced.toWired.took took
  waits := by
    rw [took.motion]
    exact paced.waits

/-- What a look leaves to be looked at before the clock moves on. -/
theorem Paced.looked {due : Due} {errand : Errand (List Gcode)} {stage : Stage} {logged : Logged R}
    (paced : o.Paced) (turn : o.turn? = some (.look due errand))
    (made : attend (due.start o.now) errand o.logged = .ok stage logged) :
    let o' := { o with now := due.start o.now, logged, errand := none }.enter stage
    o'.Looks (errand.next.length + 1) ∧
      (errand.operation.Launched (due.start o.now) o.logged.plotter → o'.Looks 0) ∧ o'.allowance ≤ o.allowance := by
  have waiting := errand_of_turn turn
  have safe := paced.errand _ _ waiting
  cases stage with
  | ended | dropped => exact ⟨fun _ _ => nofun,fun _ _ _ => nofun,by simp [enter,allowance]⟩
  | waiting delay next =>
    have late (later : 0 < delay) : (Due.after (due.start o.now) delay).start (due.start o.now) ≠ due.start o.now :=
      Nat.ne_of_gt (Due.start_after later)
    have paces := attend_paced paced.waits safe made
    refine ⟨?_,?_,?_⟩
    · rintro _ _ ⟨⟩ here
      rcases paces with fewer | ⟨_,later | launched⟩
      · right; omega
      · exact absurd here (late later)
      · exact .inl ⟨launched,by omega⟩
    · rintro launched _ _ ⟨⟩ here
      exact absurd here (late (attend_launched paced.waits safe launched made))
    · simp only [enter,allowance,waiting,Option.elim_some]
      rcases paces with fewer | ⟨same,_⟩
      · omega
      · rw [same]

/-- A turn that is taken before the clock moves on uses up one task of the bounds. -/
theorem Took.spends (paced : o.Paced) (took : o.Took o') (still : o'.now = o.now) (few : o.Looks looks)
    (once : o.Lines lines) : ∃ looks' lines', o'.Looks looks' ∧ o'.Lines lines' ∧ looks' + lines' + 1 ≤ looks + lines := by
  cases took with
  | @looked due errand stage logged turn made =>
    obtain ⟨fewer,last,_⟩ := paced.looked turn made
    have here : due.start o.now = o.now := by cases stage <;> exact still
    have once' : Lines ({ o with now := due.start o.now, logged, errand := none }.enter stage) lines := by
      intro line status later
      refine once line ?_ ?_
      · cases stage <;> exact status
      · rw [← here]
        cases stage <;> exact later
    rcases few due errand (errand_of_turn turn) here with ⟨launched,one⟩ | two
    · exact ⟨0,lines,last (by rwa [here]),once',by omega⟩
    · exact ⟨_,lines,fewer,once',by omega⟩
  | @printed due plotter turn made =>
    obtain ⟨q,line,glanced,rfl⟩ := printStatus_ok made
    have here : due.start o.now = o.now := still
    have one := once due (status_of_turn turn) here
    refine ⟨looks,0,fun other errand waits now => ?_,fun next back soon => ?_,by omega⟩
    · rw [here] at glanced now
      rcases few other errand waits now with ⟨launched,one⟩ | two
      · exact .inl ⟨by rw [here]; exact (launched.glanced glanced :),one⟩
      · exact .inr two
    · dsimp only at back soon
      split at back
      · cases back
        exact absurd soon (Nat.ne_of_gt (Due.start_after statusPeriod_pos))
      · cases back

/-- After any turn no more tasks are left than are allowed at one instant. -/
theorem Took.allows (paced : o.Paced) (took : o.Took o') :
    o'.allowance ≤ o.allowance ∧
      ∃ looks lines, o'.Looks looks ∧ o'.Lines lines ∧ looks + lines + 1 ≤ o.allowance := by
  cases took with
  | @looked due errand stage logged turn made =>
    obtain ⟨fewer,_,less⟩ := paced.looked turn made
    exact ⟨less,_,1,fewer,fun _ _ _ => Nat.le_refl 1,by simp [allowance,errand_of_turn turn]⟩
  | @printed due plotter turn made =>
    refine ⟨Nat.le_refl _,o.errand.elim 0 fun waiting => waiting.2.next.length + 2,0,?_,?_,Nat.le_refl _⟩
    · intro other errand waits _
      rw [show o.errand = _ from waits]
      exact .inr (Nat.le_refl _)
    · intro next back soon
      dsimp only at back soon
      split at back
      · cases back
        exact absurd soon (Nat.ne_of_gt (Due.start_after statusPeriod_pos))
      · cases back

/-- The instants at which turns are taken, but no more than a number of them. -/
def instants : Nat → Office R → List Nat
  | 0, _ => []
  | fuel + 1, o =>
    match o.turn? with
    | none => []
    | some turn =>
      turn.due.start o.now ::
        match o.take turn with
        | (.ok (), o) => instants fuel o
        | (.error _, _) => []

theorem now_of_take {turn : Turn} {result : Except Failure Unit} (taken : o.take turn = (result,o')) :
    o'.now = turn.due.start o.now := by
  cases turn with
  | look due errand =>
    simp only [take,look] at taken
    split at taken
    next stage _ _ => cases taken; cases stage <;> rfl
    · cases taken; rfl
  | status due =>
    simp only [take,printLine] at taken
    split at taken <;> cases taken <;> rfl

omit [Scalar R] in
/-- A turn that comes before the clock moves on is within the bounds. -/
theorem spends_one {turn : Turn} (next : o.turn? = some turn) (here : turn.due.start o.now = o.now)
    (few : o.Looks looks) (once : o.Lines lines) : 1 ≤ looks + lines := by
  cases turn with
  | look due errand =>
    rcases few due errand (errand_of_turn next) here with ⟨_,one⟩ | two <;> omega
  | status due =>
    have one := once due (status_of_turn next) here
    omega

/-- At each instant no more tasks are run than are allowed, and at the present one no more than are left. -/
theorem Paced.count_instants (paced : o.Paced) (fuel instant : Nat) :
    (instant < o.now → (o.instants fuel).count instant = 0) ∧
      (∀ looks lines, o.Looks looks → o.Lines lines → instant = o.now →
        (o.instants fuel).count instant ≤ looks + lines) ∧
      (o.instants fuel).count instant ≤ o.allowance := by
  induction fuel generalizing o with
  | zero => simp [instants]
  | succ fuel ih =>
    unfold instants
    cases next : o.turn? with
    | none => simp
    | some turn =>
      have onward := turn.due.le_start o.now
      have positive : 1 ≤ o.allowance := Nat.le_add_left ..
      cases taken : o.take turn with
      | mk result o' =>
        rcases take_cases next taken with ⟨rfl,took⟩ | ⟨reason,rfl,_⟩
        · obtain ⟨past,present,most⟩ := ih (paced.took took)
          have now := now_of_take taken
          simp only [taken]
          by_cases same : instant = turn.due.start o.now
          · subst same
            rw [List.count_cons_self]
            refine ⟨fun before => by omega,fun looks lines few once here => ?_,?_⟩
            · obtain ⟨looks',lines',few',once',spent⟩ := took.spends paced (by omega) few once
              have rest := present looks' lines' few' once' now.symm
              omega
            · obtain ⟨_,looks',lines',few',once',fits⟩ := took.allows paced
              have rest := present looks' lines' few' once' now.symm
              omega
          · rw [List.count_cons_of_ne (Ne.symm same)]
            refine ⟨fun before => past (by omega),fun looks lines few once here => ?_,?_⟩
            · rw [past (by omega)]
              exact Nat.zero_le _
            · exact most.trans (took.allows paced).1
        · simp only [taken]
          by_cases same : instant = turn.due.start o.now
          · subst same
            rw [List.count_singleton_self]
            exact ⟨fun before => by omega,fun looks lines few once here => spends_one next here few once,positive⟩
          · rw [List.count_cons_of_ne (Ne.symm same)]
            exact ⟨fun _ => rfl,fun _ _ _ _ _ => Nat.zero_le _,Nat.zero_le _⟩

/-- The tasks of a schedule start when the turns of its office are taken. -/
theorem instants_holds (fuel : Nat) {s : Schedule Job} (holds : o.Holds s) :
    behaviour.instants fuel s o.desk = o.instants fuel := by
  induction fuel generalizing o s with
  | zero => rfl
  | succ fuel ih =>
    have step := step_holds holds
    obtain ⟨now,queue⟩ := holds_iff.mp holds
    unfold instants Behaviour.instants
    cases next : o.turn? with
    | none => rw [queue,queue_idle next]
    | some turn =>
      have first : ∃ task rest, s.queue = task :: rest ∧ task.due = turn.due := by
        cases turn with
        | look due errand => exact ⟨_,_,queue.trans (queue_look next),rfl⟩
        | status due => exact ⟨_,_,queue.trans (queue_status next),rfl⟩
      obtain ⟨task,rest,queue,due⟩ := first
      simp only [next] at step
      cases taken : o.take turn with
      | mk result after =>
        simp only [taken] at step
        cases result with
        | error reason => simp only [queue,due,now,step,taken]
        | ok =>
          obtain ⟨s',step,holds⟩ := step
          simp only [queue,due,now,step,taken,ih holds]

end Office

/-- The instants at which the tasks start that a program leaves to the schedule, but no more than a number of them. -/
def instants (fuel : Nat) (s : Session R) (program : List Gcode) : List Nat :=
  let first := (proceed program).outcome ⟨s.schedule.now, s.schedule.size⟩ ⟨s.plotter, none⟩
  match first.result with
  | .error _ => []
  | .ok () =>
    behaviour.instants fuel ((s.schedule.applyAll first.requests).apply (.submit statusPriority 0 .status))
      first.context

/-- A program that is not over has started as many tasks as it may. -/
theorem length_instants {fuel : Nat} {s : Session R} {program : List Gcode}
    (unfinished : s.runProgram fuel program = none) : (s.instants fuel program).length = fuel := by
  unfold runProgram at unfinished
  unfold instants
  generalize (proceed program).outcome ⟨s.schedule.now,s.schedule.size⟩ ⟨s.plotter,none⟩ = first at unfinished ⊢
  obtain ⟨context,requests,result⟩ := first
  cases result with
  | error => cases unfinished
  | ok =>
    dsimp only at unfinished ⊢
    split at unfinished
    next ran => exact Behaviour.length_instants ran
    · cases unfinished

theorem instants_sorted (fuel : Nat) (s : Session R) (program : List Gcode) :
    (s.instants fuel program).Pairwise (· ≤ ·) := by
  unfold instants
  dsimp only
  split
  · exact .nil
  · exact Behaviour.instants_sorted ..

/-- A program of `n` commands starts no more than `n + 2` tasks at one instant. -/
theorem Settled.count_instants {s : Session R} (settled : s.Settled) (waits : s.plotter.motion.Waits) (fuel : Nat)
    (program : List Gcode) (instant : Nat) :
    (s.instants fuel program).count instant ≤ program.length + 2 := by
  have begun := proceed_outcome settled.idle program true
  unfold instants
  cases made : undertake s.schedule.now program { plotter := s.plotter } with
  | error reason logged =>
    simp only [made] at begun
    simp [begun]
  | ok stage logged =>
    simp only [made,↓reduceIte] at begun
    obtain ⟨result,desk,holds⟩ := begun
    simp only [result,← desk,Office.instants_holds fuel holds]
    have paced : (s.begunWith true stage logged).Paced := by
      refine ⟨settled.begun made,?_⟩
      have same := undertake_motion made
      cases stage <;> exact same ▸ waits
    refine (paced.count_instants fuel instant).2.2.trans ?_
    cases stage with
    | waiting delay errand =>
      have shorter := undertake_shorter made
      simp only [begunWith,Office.enter,Office.allowance,Option.elim_some]
      omega
    | ended | dropped => simp [begunWith,Office.enter,Office.allowance]

/-- A session cannot spin without time passing: a program of `n` commands runs no more than `2n + 2` tasks at any one
instant, so that a task that comes that many turns later runs at a later instant, however long the program runs. -/
theorem clock_moves_on {settings : Settings} {presses : List Nat} {out : Writer} {first s : Session R}
    {log : List (Entry R)} (valid : settings.validate = .ok ()) (started : start settings presses out = .ok first)
    (lived : Lived first log s) (fuel : Nat) (program : List Gcode) :
    let instants := s.instants fuel program
    (∀ instant, instants.count instant ≤ 2 * program.length + 2) ∧
      (∀ i j (inside : j < instants.length) (far : i + (2 * program.length + 2) ≤ j),
        instants[i] < instants[j]) ∧
      (s.runProgram fuel program = none → instants.length = fuel) := by
  have sound := Settings.sound_of_validate valid
  have begun := (start_settled started).1
  have waits : s.plotter.motion.Waits := by
    rw [lived.motion begun,eq_opening valid started]
    exact ⟨sound.goPoll,sound.homingPoll⟩
  have few (instant : Nat) : (s.instants fuel program).count instant ≤ 2 * program.length + 2 := by
    have fewer := (lived.settled begun).count_instants waits fuel program instant
    omega
  refine ⟨few,fun i j inside far => ?_,length_instants⟩
  exact lt_of_count_le (s.instants_sorted fuel program) few far inside

/-- The settings of a machine that needs no time to get moving, and that crosses its travels within a few looks. -/
def briskSettings : Settings where
  motion := { spinUp := 0, homingPoll := milliseconds 1 }
  machine := { Machine.standard with ticksPerDuty := 100000 }

/-- Homing a brisk machine takes eighteen tasks, three of them at the first instant. If the run is broken off after
twelve tasks, it has started all twelve. -/
theorem brisk_machine_moves_on :
    ∃ first : Session Rat, start briskSettings [] = .ok first ∧
      let instants := first.instants 40 [.home]
      (instants = [0,0,0,1,1,2,2,3,3,4,4,5,6,6,7,8,9,100].map milliseconds ∧
        (first.runProgram 40 [.home]).isSome) ∧
      ((∀ instant, instants.count instant ≤ 2 * [Gcode.home].length + 2) ∧
        (∀ i j (inside : j < instants.length) (far : i + (2 * [Gcode.home].length + 2) ≤ j),
          instants[i] < instants[j]) ∧
        (first.runProgram 40 [.home] = none → instants.length = 40)) ∧
      first.runProgram 12 [.home] = none ∧ (first.instants 12 [.home]).length = 12 := by
  have valid : briskSettings.validate = .ok () :=
    briskSettings.validate_eq_ok_iff.mpr (by decide +kernel)
  have started : start briskSettings [] = .ok (opening briskSettings [] {} : Session Rat) := start_eq_opening valid
  have broken : (opening briskSettings [] {} : Session Rat).runProgram 12 [.home] = none :=
    Option.isNone_iff_eq_none.mp (by decide +kernel)
  refine ⟨_,started,by decide +kernel,clock_moves_on valid started .opened 40 [.home],broken,?_⟩
  exact (clock_moves_on valid started .opened 12 [.home]).2.2 broken

end Session
end PenPlotter
