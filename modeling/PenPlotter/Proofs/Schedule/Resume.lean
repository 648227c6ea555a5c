import PenPlotter.Proofs.Schedule.Turn

/-! Running again after an error. A task that fails only pauses the schedule: to run again after every
error until all is done comes to the same as one run in which nothing fails. -/

namespace PenPlotter.Behaviour

/-- Runs again after every error until a run succeeds. -/
inductive RunsAgain (b : Behaviour ε α γ) : Schedule α → γ → Schedule α → γ → Prop where
  | finished : b.run fuel s context = .finished (.ok ()) left last → RunsAgain b s context left last
  | again : b.run fuel s context = .finished (.error error) between context' →
      RunsAgain b between context' left last → RunsAgain b s context left last

variable {b : Behaviour ε α γ} {s between left : Schedule α} {context context' last : γ}

/-- The behaviour in which the tasks do the same and all succeed. -/
def forgiving (b : Behaviour ε α γ) : Behaviour ε α γ where
  perform action moment context := { b.perform action moment context with result := .ok () }
  afterTask := b.afterTask

/-- A turn begins with placing the submitted tasks, so that placing them before changes nothing. -/
theorem run_settle (b : Behaviour ε α γ) (fuel : Nat) (s : Schedule α) (context : γ) :
    b.run (fuel + 1) s.settle context = b.run (fuel + 1) s context := rfl

/-- Without a hook, the forgiving behaviour goes on where the other one stops. -/
theorem step_forgiving (quiet : b.afterTask = none) (s : Schedule α) (context : γ) :
    match b.step s context with
    | .idle left last => b.forgiving.step s context = .idle left last
    | .continued left last => b.forgiving.step s context = .continued left last
    | .failed _ left last => ∃ before : Schedule α, left = before.settle ∧
        b.forgiving.step s context = .continued before last := by
  cases first : s.queue with
  | nil =>
    rw [b.step_idle context first]
    exact b.forgiving.step_idle context first
  | cons task rest =>
    rw [b.step_taken context first,b.forgiving.step_taken context first]
    simp only [forgiving,after,quiet]
    cases result : (b.perform task.action ⟨(s.taken task rest).now,(s.taken task rest).size⟩ context).result with
    | ok => rfl
    | error => exact ⟨_,rfl,rfl⟩

theorem run_forgiving_ok (quiet : b.afterTask = none) {fuel : Nat}
    (ran : b.run fuel s context = .finished (.ok ()) left last) :
    b.forgiving.run fuel s context = .finished (.ok ()) left last := by
  induction fuel generalizing s context with
  | zero => simp [run] at ran
  | succ fuel ih =>
    have step := step_forgiving quiet s context
    simp only [run] at ran ⊢
    cases made : b.step s context with
    | idle =>
      simp only [made] at step ran
      rw [step]
      exact ran
    | failed => simp [made] at ran
    | continued between context' =>
      simp only [made] at step ran
      rw [step]
      exact ih ran

/-- After a run that fails there is something left to do for the forgiving behaviour: what a further run
does, and the turns so far before it. -/
theorem run_forgiving_error (quiet : b.afterTask = none) {fuel : Nat} {error : ε}
    (ran : b.run fuel s context = .finished (.error error) between context') :
    ∃ turns, ∀ more, b.forgiving.run (turns + (more + 1)) s context =
      b.forgiving.run (more + 1) between context' := by
  induction fuel generalizing s context with
  | zero => simp [run] at ran
  | succ fuel ih =>
    have step := step_forgiving quiet s context
    simp only [run] at ran
    cases made : b.step s context with
    | idle => simp [made] at ran
    | failed =>
      simp only [made,Ran.finished.injEq] at step ran
      obtain ⟨_,rfl,rfl⟩ := ran
      obtain ⟨before,rfl,goes⟩ := step
      refine ⟨1,fun more => ?_⟩
      rw [Nat.add_comm 1,run_settle]
      simp only [run,goes]
    | continued next context'' =>
      simp only [made] at step ran
      obtain ⟨turns,rest⟩ := ih ran
      refine ⟨turns + 1,fun more => ?_⟩
      rw [Nat.add_right_comm turns 1,← rest more]
      simp only [run,step]

theorem RunsAgain.of_continued (step : b.step s context = .continued between context')
    (runs : b.RunsAgain between context' left last) : b.RunsAgain s context left last := by
  have longer (fuel : Nat) : b.run (fuel + 1) s context = b.run fuel between context' := by
    simp only [run,step]
  cases runs with
  | finished ran => exact .finished ((longer _).trans ran)
  | again ran rest => exact .again ((longer _).trans ran) rest

theorem runsAgain_iff (quiet : b.afterTask = none) :
    b.RunsAgain s context left last ↔
      ∃ fuel, b.forgiving.run fuel s context = .finished (.ok ()) left last := by
  constructor
  · intro runs
    induction runs with
    | finished ran => exact ⟨_,run_forgiving_ok quiet ran⟩
    | again ran _ ih =>
      obtain ⟨fuel,rest⟩ := ih
      obtain ⟨turns,whole⟩ := run_forgiving_error quiet ran
      cases fuel with
      | zero => simp [run] at rest
      | succ fuel => exact ⟨turns + (fuel + 1),(whole fuel).trans rest⟩
  · rintro ⟨fuel,ran⟩
    induction fuel generalizing s context with
    | zero => simp [run] at ran
    | succ fuel ih =>
      have step := step_forgiving quiet s context
      simp only [run] at ran
      cases made : b.step s context with
      | idle =>
        simp only [made] at step
        rw [step] at ran
        have once : b.run 1 s context = .finished (.ok ()) left last := by simpa only [run,made] using ran
        exact .finished once
      | continued between context' =>
        simp only [made] at step
        rw [step] at ran
        exact .of_continued made (ih ran)
      | failed error between context' =>
        simp only [made] at step
        obtain ⟨before,rfl,goes⟩ := step
        rw [goes] at ran
        have once : b.run 1 s context = .finished (.error error) before.settle context' := by
          simp only [run,made]
        refine .again once (ih ?_)
        cases fuel with
        | zero => simp [run] at ran
        | succ fuel => exact ran

end PenPlotter.Behaviour
