import PenPlotter.Proofs.Schedule.Turn

/-! A schedule at work in two contexts that are alike. If every task asks for the same in both, succeeds or fails in
both and leaves them alike, so does a whole run: it executes the same tasks at the same instants and ends in the same
way. -/

namespace PenPlotter

variable {ε α γ : Type}

/-- Two outcomes that ask for the same and have succeeded alike, and leave contexts that are alike. -/
structure Outcome.Alike (like : γ → γ → Prop) (o o' : Outcome ε α γ) : Prop where
  context : like o.context o'.context
  requests : o'.requests = o.requests
  result : o'.result = o.result

inductive Stepped.Alike (like : γ → γ → Prop) : Stepped ε α γ → Stepped ε α γ → Prop where
  | idle (s : Schedule α) {c c' : γ} : like c c' → Alike like (.idle s c) (.idle s c')
  | continued (s : Schedule α) {c c' : γ} : like c c' → Alike like (.continued s c) (.continued s c')
  | failed (error : ε) (s : Schedule α) {c c' : γ} : like c c' → Alike like (.failed error s c) (.failed error s c')

inductive Ran.Alike (like : γ → γ → Prop) : Ran ε α γ → Ran ε α γ → Prop where
  | finished (result : Except ε Unit) (s : Schedule α) {c c' : γ} :
      like c c' → Alike like (.finished result s c) (.finished result s c')
  | unfinished (s : Schedule α) {c c' : γ} : like c c' → Alike like (.unfinished s c) (.unfinished s c')

namespace Behaviour

/-- In contexts that are alike all tasks come to the same, and so does what is done after them. -/
structure Treats (b : Behaviour ε α γ) (like : γ → γ → Prop) : Prop where
  perform : ∀ {c c'} action moment, like c c' → (b.perform action moment c).Alike like (b.perform action moment c')
  after : ∀ {c c'} now, like c c' → like (b.after now c) (b.after now c')

/-- The tasks that a run executes, with the instants at which they start, but no more than a number of them. -/
def executed (b : Behaviour ε α γ) : Nat → Schedule α → γ → List (Nat × α)
  | 0, _, _ => []
  | fuel + 1, s, context =>
    match s.queue with
    | [] => []
    | task :: _ =>
      (task.due.start s.now, task.action) ::
        match b.step s context with
        | .continued s context => b.executed fuel s context
        | .idle .. | .failed .. => []

namespace Treats

variable {b : Behaviour ε α γ} {like : γ → γ → Prop} {c c' : γ}

theorem step (treats : b.Treats like) (s : Schedule α) (alike : like c c') : (b.step s c).Alike like (b.step s c') := by
  cases first : s.queue with
  | nil =>
    rw [b.step_idle c first,b.step_idle c' first]
    exact .idle _ alike
  | cons task rest =>
    obtain ⟨left,requests,result⟩ := treats.perform task.action ⟨(s.taken task rest).now,(s.taken task rest).size⟩ alike
    rw [b.step_taken c first,b.step_taken c' first]
    simp only [requests,result]
    split
    · exact .failed _ _ left
    · exact .continued _ (treats.after _ left)

theorem run (treats : b.Treats like) (fuel : Nat) (s : Schedule α) (alike : like c c') :
    (b.run fuel s c).Alike like (b.run fuel s c') := by
  induction fuel generalizing s c c' with
  | zero => exact .unfinished s alike
  | succ fuel ih =>
    have step := treats.step s alike
    unfold Behaviour.run
    generalize b.step s c = stepped,b.step s c' = stepped' at step
    cases step with
    | idle s alike => exact .finished _ s alike
    | failed error s alike => exact .finished _ s alike
    | continued s alike => exact ih s alike

theorem executed (treats : b.Treats like) (fuel : Nat) (s : Schedule α) (alike : like c c') :
    b.executed fuel s c' = b.executed fuel s c := by
  induction fuel generalizing s c c' with
  | zero => rfl
  | succ fuel ih =>
    have step := treats.step s alike
    unfold Behaviour.executed
    generalize b.step s c = stepped,b.step s c' = stepped' at step
    cases step with
    | idle | failed => rfl
    | continued s alike => simp only [ih s alike]

end Treats

end Behaviour
end PenPlotter
