import PenPlotter.Motor.Recorded
import PenPlotter.Proofs.Motor.Trial

/-! Calls that are refused. A motor checks a call before it changes anything, so that a call it refuses might as well
not have been made: all others are answered as without it, however long ago it was and whatever happens in between. -/

namespace PenPlotter.Motor

/-- A motor that a refused call leaves as it was. -/
structure Unruffled (μ : Type) [Motor μ] : Prop where
  perform {now : Nat} {command : Command} {m left : μ} {error : DeviceError} :
    Motor.perform now command m = .error error left → left = m
  position {now : Nat} {m left : μ} {error : DeviceError} : Motor.position now m = .error error left → left = m
  state {now : Nat} {m left : μ} {error : DeviceError} : Motor.state now m = .error error left → left = m

theorem Simulated.unruffled (R : Type) [Scalar R] : Unruffled (Simulated R) where
  perform {now command m left error} refused := by
    have checked : Simulated.perform now command m = .error error left := refused
    unfold Simulated.perform at checked
    split at checked
    · exact (EStateM.Result.error.inj checked).2.symm
    · nomatch checked
  position {now m left error} refused := by
    have checked : Simulated.position now m = .error error left := refused
    unfold Simulated.position at checked
    split at checked
    · nomatch checked
    · exact (EStateM.Result.error.inj checked).2.symm
  state {now m left error} refused := by
    have checked : Simulated.state now m = .error error left := refused
    unfold Simulated.state at checked
    split at checked
    · nomatch checked
    · exact (EStateM.Result.error.inj checked).2.symm

theorem Recorded.answer_refused {α : Type} {f : Recorded → α × Recorded} {m left : Recorded} {error : DeviceError}
    (refused : answer f m = .error error left) : left = m := by
  unfold answer at refused
  split at refused
  · exact (EStateM.Result.error.inj refused).2.symm
  · nomatch refused

theorem Recorded.unruffled : Unruffled Recorded where
  perform := answer_refused
  position := answer_refused
  state := answer_refused

theorem Call.made_refused {μ α : Type} {call : Call μ α} {m : μ} (refused : (call.made m).1.isOk = false)
    (leaves : ∀ {left error}, call m = .error error left → left = m) : (call.made m).2 = m := by
  unfold Call.made at refused ⊢
  cases came : call m with
  | ok value left => simp [came,Except.isOk,Except.toBool] at refused
  | error error left => exact leaves came

/-- A motor in use, and the clock it goes by. -/
structure Usage (μ : Type) where
  now : Nat
  motor : μ

namespace Usage

inductive Act (μ β : Type) where
  | wait (time : Nat)
  | command (command : Command)
  | position
  | state
  | connected
  /-- Anything else that is done with a motor and cannot be refused: it is set from outside, or looked at. -/
  | handle (how : Nat → μ → β × μ)

/-- What there is to tell when an act was not refused. -/
inductive Told (β : Type) where
  | done
  | position (position : Raw)
  | state (state : State)
  | connected (connected : Bool)
  | handled (value : β)

variable {μ β : Type} [Motor μ]

def act (u : Usage μ) : Act μ β → Except DeviceError (Told β) × Usage μ
  | .wait time => (.ok .done, { u with now := u.now + time })
  | .command command =>
    let (made, motor) := (Motor.perform u.now command).made u.motor
    (made.map fun () => .done, { u with motor })
  | .position =>
    let (made, motor) := (Motor.position u.now).made u.motor
    (made.map .position, { u with motor })
  | .state =>
    let (made, motor) := (Motor.state u.now).made u.motor
    (made.map .state, { u with motor })
  | .connected => (.ok (.connected (Motor.connected u.motor)), u)
  | .handle how =>
    let (value, motor) := how u.now u.motor
    (.ok (.handled value), { u with motor })

/-- What a row of acts comes to, one after the other. -/
def results (u : Usage μ) : List (Act μ β) → List (Except DeviceError (Told β))
  | [] => []
  | act :: rest => (u.act act).1 :: results (u.act act).2 rest

/-- The motor and the clock after a row of acts. -/
def after (u : Usage μ) (acts : List (Act μ β)) : Usage μ := acts.foldl (fun u act => (u.act act).2) u

/-- The acts of a row without the calls that are refused in it. -/
def accepted (u : Usage μ) : List (Act μ β) → List (Act μ β)
  | [] => []
  | act :: rest =>
    if (u.act act).1.isOk then act :: accepted (u.act act).2 rest else accepted (u.act act).2 rest

/-- An act that is refused is a call, and changes nothing. -/
theorem act_refused (unruffled : Unruffled μ) {u : Usage μ} {act : Act μ β}
    (refused : (u.act act).1.isOk = false) : (u.act act).2 = u := by
  have isOk_map {α : Type} (made : Except DeviceError α) (f : α → Told β) : (made.map f).isOk = made.isOk := by
    cases made <;> rfl
  cases act with
  | wait | connected | handle => nomatch refused
  | command command =>
    have same := Call.made_refused ((isOk_map _ _).symm.trans refused) unruffled.perform
    exact congrArg (Usage.mk u.now) same
  | position =>
    have same := Call.made_refused ((isOk_map _ _).symm.trans refused) unruffled.position
    exact congrArg (Usage.mk u.now) same
  | state =>
    have same := Call.made_refused ((isOk_map _ _).symm.trans refused) unruffled.state
    exact congrArg (Usage.mk u.now) same

/-- Two runs of a row, one with the refused calls and one without, are at the same point after each act that is in
both. -/
theorem unaffected (unruffled : Unruffled μ) (u : Usage μ) (acts : List (Act μ β)) :
    u.results (u.accepted acts) = (u.results acts).filter Except.isOk ∧ u.after (u.accepted acts) = u.after acts := by
  induction acts generalizing u with
  | nil => exact ⟨rfl,rfl⟩
  | cons act rest ih =>
    obtain ⟨results,after⟩ := ih (u.act act).2
    cases made : (u.act act).1.isOk with
    | true =>
      have kept : u.accepted (act :: rest) = act :: (u.act act).2.accepted rest := by simp [accepted,made]
      rw [kept]
      exact ⟨(congrArg _ results).trans (List.filter_cons_of_pos made).symm,after⟩
    | false =>
      have still : (u.act act).2 = u := act_refused unruffled made
      have dropped : u.accepted (act :: rest) = (u.act act).2.accepted rest := by simp [accepted,made]
      have untold : (u.results (act :: rest)).filter Except.isOk = ((u.act act).2.results rest).filter Except.isOk :=
        List.filter_cons_of_neg (by simp [made])
      have passed : u.after (act :: rest) = (u.act act).2.after rest := rfl
      rw [dropped,untold,passed]
      rw [still] at results after ⊢
      exact ⟨results,after⟩

end Usage

/-- On a simulated motor, whatever it calculates with, and on a recording one, calls that are refused can be left out
of any row of acts: every other act is answered as before, and the motor is left as before. -/
theorem refused_calls_change_nothing {R β : Type} [Scalar R] :
    (∀ (u : Usage (Simulated R)) (acts : List (Usage.Act (Simulated R) β)),
      u.results (u.accepted acts) = (u.results acts).filter Except.isOk ∧ u.after (u.accepted acts) = u.after acts) ∧
    ∀ (u : Usage Recorded) (acts : List (Usage.Act Recorded β)),
      u.results (u.accepted acts) = (u.results acts).filter Except.isOk ∧ u.after (u.accepted acts) = u.after acts :=
  ⟨Usage.unaffected (Simulated.unruffled R),Usage.unaffected Recorded.unruffled⟩

end PenPlotter.Motor
