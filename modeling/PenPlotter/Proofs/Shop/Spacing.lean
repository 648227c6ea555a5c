import Mathlib.Data.List.Induction
import PenPlotter.Proofs.Homing.Watch
import PenPlotter.Proofs.Shop.Instants
import PenPlotter.Proofs.Shop.MotorSafety

/-! How far apart the looks at a homing pass are. Whatever else is waiting and however long it takes, a look is taken no
earlier than the one before has asked for, and at that very instant if nothing but the schedule moves the clock. So a leg
that was started is given its time before its motor is looked at, and the time between two looks after that. -/

namespace PenPlotter

namespace Due

theorem start_mono (due : Due) {now later : Nat} (order : now ≤ later) : due.start now ≤ due.start later := by
  cases due with
  | immediate => exact order
  | dated instant =>
    simp only [start,Clock.sleepUntil_eq_max]
    omega

/-- What was asked for starts no earlier than after its delay. -/
theorem le_start_of_after {asked now : Nat} (past : asked ≤ now) (delay : Nat) :
    asked + delay ≤ (Due.after asked delay).start now := by
  have exact := start_of_after asked delay
  have later := (Due.after asked delay).start_mono past
  omega

end Due

namespace Shop

variable {access : Access} {μ δ χ : Type} [Motor μ] [Display δ]

/-- The instant that a look has asked for stands in a relation to the one at which the next look is taken, or at which it
would be taken now. -/
structure Spaced (rel : Nat → Nat → Prop) (n : Nat) (shop : Shop access μ δ χ) : Prop where
  looks : ∀ before a b after, shop.books.looksAt n = before ++ a :: b :: after → ∀ delay operation p',
    a.result = .ok (.again delay operation) p' → rel (a.now + delay) b.now
  waits : ∀ before a, shop.books.looksAt n = before ++ [a] → ∀ delay operation p',
    a.result = .ok (.again delay operation) p' → ∀ task ∈ shop.schedule.queue, ∀ errand, task.action = .errand errand →
      errand.next.number = n → rel (a.now + delay) (task.due.start shop.schedule.now)

section Spaced

variable {shop after : Shop access μ δ χ} {event : Event access μ δ χ} {rel : Nat → Nat → Prop} {n : Nat}

/-- An event without a look at the operation. -/
theorem Spaced.unlooked (spaced : shop.Spaced rel n) (accepted : n < shop.books.accepted)
    (made : shop.next event = .ok after) (same : after.books.looksAt n = shop.books.looksAt n)
    (other : ∀ look, after.books.looks = look :: shop.books.looks → look.number ≠ n)
    (kept : ∀ instant, ∀ task ∈ shop.waiting event, rel instant (task.due.start shop.schedule.now) →
      rel instant (task.due.start after.schedule.now)) : after.Spaced rel n where
  looks := by
    rw [same]
    exact spaced.looks
  waits := by
    intro before a whole delay operation p' result task inside errand acts number
    rw [same] at whole
    have waits := unlooked_waits accepted made other inside acts number
    have later := spaced.waits before a whole delay operation p' result task (mem_waiting waits) errand acts number
    exact kept _ task waits later

/-- A look at the operation is taken when its task was due, and puts off the next one. -/
theorem Spaced.looked (spaced : shop.Spaced rel n) (sound : shop.books.Sound) (accepted : n < shop.books.accepted)
    (made : shop.next event = .ok after) {look : Look access μ δ χ} (latest : after.books.looks = look :: shop.books.looks)
    (number : look.number = n)
    (put : ∀ asked delay, look.now ≤ asked → asked ≤ after.schedule.now →
      rel (look.now + delay) ((Due.after asked delay).start after.schedule.now)) : after.Spaced rel n := by
  obtain ⟨head,rest,first,rfl,acting,instant⟩ := look_next made latest
  have grown : after.books.looksAt n = shop.books.looksAt n ++ [look] := by
    rw [Books.looksAt_cons latest,if_pos number]
  rw [instant_turn first] at instant
  constructor
  · intro before a b later whole delay operation p' result
    rw [grown] at whole
    rcases List.eq_nil_or_concat later with rfl | ⟨between,last,rfl⟩
    · have split : shop.books.looksAt n = before ++ [a] ∧ look = b := by
        have ends : shop.books.looksAt n ++ [look] = (before ++ [a]) ++ [b] := by simpa using whole
        obtain ⟨same,tail⟩ := List.append_inj' ends rfl
        exact ⟨same,List.singleton_inj.mp tail⟩
      obtain ⟨earlier,rfl⟩ := split
      rw [instant]
      exact spaced.waits before a earlier delay operation p' result head (by rw [first]; exact List.mem_cons_self)
        look.errand acting number
    · have ends : shop.books.looksAt n ++ [look] = (before ++ a :: b :: between) ++ [last] := by simpa using whole
      obtain ⟨earlier,_⟩ := List.append_inj' ends rfl
      exact spaced.looks before a b between earlier delay operation p' result
  · intro before a whole delay operation p' result task inside errand acts its
    rw [grown] at whole
    obtain ⟨_,same⟩ := List.append_inj' whole rfl
    obtain rfl := List.singleton_inj.mp same
    obtain ⟨asked,other,q,early,late,due,again⟩ := looked_asks sound accepted made latest number inside acts its
    rw [result] at again
    cases again
    rw [due]
    exact put asked delay early late

theorem Spaced.next (spaced : shop.Spaced rel n) (sound : shop.books.Sound) (accepted : n < shop.books.accepted)
    (made : shop.next event = .ok after)
    (kept : ∀ instant, ∀ task ∈ shop.waiting event, rel instant (task.due.start shop.schedule.now) →
      rel instant (task.due.start after.schedule.now))
    (put : ∀ asked delay, shop.instant event ≤ asked → asked ≤ after.schedule.now →
      rel (shop.instant event + delay) ((Due.after asked delay).start after.schedule.now)) : after.Spaced rel n := by
  rcases (books_next made).looks with same | ⟨look,latest⟩
  · refine spaced.unlooked accepted made (by simp only [Books.looksAt,same]) (fun look looked => ?_) kept
    rw [same] at looked
    exact absurd (congrArg List.length looked) (by simp)
  obtain ⟨_,_,_,_,_,instant⟩ := look_next made latest
  by_cases number : look.number = n
  · exact spaced.looked sound accepted made latest number (instant ▸ put)
  · refine spaced.unlooked accepted made ?_ (fun other looked => ?_) kept
    · rw [Books.looksAt_cons latest,if_neg number,List.append_nil]
    · obtain ⟨rfl,_⟩ := List.cons.inj (latest.symm.trans looked)
      exact number

omit [Motor μ] [Display δ] in
theorem now_le_instant (shop : Shop access μ δ χ) (event : Event access μ δ χ) :
    shop.schedule.now ≤ shop.instant event := by
  cases event with
  | script | world => exact Nat.le_refl _
  | turn =>
    cases first : shop.schedule.queue with
    | nil => simp [instant,first]
    | cons =>
      rw [instant_turn first]
      exact Due.le_start _ _

theorem instant_le_now (made : shop.next event = .ok after) : shop.instant event ≤ after.schedule.now := by
  rw [(schedule_next made).1]
  exact Request.le_clock _ _

theorem spaced_unseen (unseen : shop.books.looksAt n = []) : shop.Spaced rel n where
  looks before a b after whole := by simp [unseen] at whole
  waits before a whole := by simp [unseen] at whole

/-- An event keeps the looks at all operations apart that keeps those of an operation apart that was accepted. -/
theorem spaced_next (spaced : ∀ n, shop.Spaced rel n) (sound : shop.books.Sound) (made : shop.next event = .ok after)
    (kept : ∀ instant, ∀ task ∈ shop.waiting event, rel instant (task.due.start shop.schedule.now) →
      rel instant (task.due.start after.schedule.now))
    (put : ∀ asked delay, shop.instant event ≤ asked → asked ≤ after.schedule.now →
      rel (shop.instant event + delay) ((Due.after asked delay).start after.schedule.now)) : ∀ n, after.Spaced rel n := by
  intro n
  by_cases accepted : n < shop.books.accepted
  · exact (spaced n).next sound accepted made kept put
  · exact spaced_unseen (unseen_accepted sound (Nat.le_of_not_lt accepted) made)

end Spaced

section Live

variable {now : Nat} {plotter : Plotter μ δ} {notes : χ} {events : List (Event access μ δ χ)} {shop : Shop access μ δ χ}

/-- No look is taken earlier than the one before it has asked for. -/
theorem spaced_live (lived : (opened now plotter notes).live events = .ok shop) (n : Nat) : shop.Spaced (· ≤ ·) n := by
  have spaced := live_preserves (P := fun shop : Shop access μ δ χ => shop.books.Sound ∧ ∀ n, shop.Spaced (· ≤ ·) n) ?_
    ⟨sound_opened now plotter notes,fun _ => spaced_unseen rfl⟩ lived
  · exact spaced.2 n
  rintro shop event after ⟨sound,spaced⟩ made
  refine ⟨sound.step (books_next made),spaced_next spaced sound made ?_ ?_⟩
  · intro instant task _ early
    exact Nat.le_trans early (task.due.start_mono (Nat.le_trans (now_le_instant shop event) (instant_le_now made)))
  · intro asked delay early late
    exact Nat.le_trans (Nat.add_le_add_right early delay) (Due.le_start_of_after late delay)

/-- As long as nothing but the schedule moves the clock, each look is taken when the one before it has asked for it. -/
theorem spaced_unhurried (unhurried : (opened now plotter notes).Unhurried events)
    (lived : (opened now plotter notes).live events = .ok shop) (n : Nat) : shop.Spaced Eq n := by
  have spaced := unhurried_preserves (P := fun shop : Shop access μ δ χ => shop.books.Sound ∧
    shop.schedule.queue.Pairwise Task.precedes ∧ ∀ n, shop.Spaced Eq n) unhurried ?_
    ⟨sound_opened now plotter notes,.nil,fun _ => spaced_unseen rfl⟩ lived
  · exact spaced.2.2 n
  rintro shop event after ⟨sound,sorted,spaced⟩ made punctual
  refine ⟨sound.step (books_next made),sorted_next sorted made,spaced_next spaced sound made ?_ ?_⟩
  · rintro instant task waits rfl
    rw [punctual,start_instant sorted waits]
  · intro asked delay early late
    obtain rfl : asked = shop.instant event := Nat.le_antisymm (punctual ▸ late) early
    rw [punctual,Due.start_of_after]

end Live

open Homing

namespace Look

/-- A look asks for the state of the motor of an axis. -/
def ReadsState (axis : Axis) (look : Look access μ δ χ) : Prop := ∃ answered, ⟨axis,.state,answered⟩ ∈ look.calls

/-- A look obeys all commands that start a leg. -/
def Starts (leg : Leg) (look : Look access μ δ χ) : Prop := answers (Effect.asks (.startLeg leg)) <:+: look.calls

/-- A look at a pass that runs a leg asks for the state of its motor. -/
def Polls (leg : Leg) (look : Look access μ δ χ) : Prop :=
  (∃ pass, look.errand.operation = .homing pass ∧ pass.phase = .running leg) ∧ look.ReadsState leg.axis

variable {look : Look access μ δ χ} {errand : Errand (Ticket access μ δ χ)} {pass : Pass} {leg : Leg}

theorem again_homing (homing : look.errand.operation = .homing pass) (goes : look.next? = some errand) :
    ∃ delay next p', pass.poll look.now look.plotter = .ok (.again delay next) p' ∧
      look.result = .ok (.again delay (.homing next)) p' ∧ errand.operation = .homing next := by
  obtain ⟨delay,next,p',ran,operation⟩ := next?_homing homing goes
  refine ⟨delay,next,p',ran,?_,operation⟩
  unfold result
  rw [homing,Operation.poll_homing,ran]
  rfl

/-- Only a homing pass starts legs. -/
theorem Starts.homing (starts : look.Starts leg) : ∃ pass, look.errand.operation = .homing pass := by
  cases kind : look.errand.operation with
  | homing pass => exact ⟨pass,rfl⟩
  | move targets =>
    unfold Starts calls at starts
    rw [kind] at starts
    simp [answers,Effect.asks] at starts

/-- A look at a leg after which the pass goes on polls it. -/
theorem polls_of_next? (homing : look.errand.operation = .homing pass) (running : pass.phase = .running leg)
    (goes : look.next? = some errand) : look.Polls leg := by
  refine ⟨⟨pass,homing,running⟩,?_⟩
  unfold ReadsState
  rw [calls_homing homing]
  refine pass.state_asked running ?_
  cases pressed : look.plotter.confirmed look.now with
  | false => rfl
  | true =>
    obtain ⟨outcome,p',ended⟩ := pass.poll_confirmed (by rw [running]; rfl) pressed
    rw [next?_done homing ended] at goes
    cases goes

end Look

namespace Followed

variable {first errand : Errand (Ticket access μ δ χ)} {before between after : List (Look access μ δ χ)}
variable {a b : Look access μ δ χ} {going : Option (Errand (Ticket access μ δ χ))} {pass : Pass} {leg : Leg}

theorem next?_isSome (followed : Followed first (before ++ a :: (between ++ b :: after)) going) :
    ∃ errand, a.next? = some errand := by
  cases goes : a.next? with
  | some errand => exact ⟨errand,rfl⟩
  | none =>
    have last := followed.split.2 goes
    simp at last

/-- A pass that has come to run a leg is polled at its next look, or is not looked at again after that. -/
theorem polled_next (followed : Followed first (before ++ a :: (between ++ b :: after)) going)
    (onward : a.next? = some errand) (homing : errand.operation = .homing pass) (running : pass.phase = .running leg)
    (unpolled : ∀ c ∈ between, ¬ c.Polls leg) : between = [] := by
  cases between with
  | nil => rfl
  | cons c rest =>
    have later : Followed first ((before ++ [a]) ++ c :: (rest ++ b :: after)) going := by simpa using followed
    obtain ⟨_,goes⟩ := later.next?_isSome
    obtain ⟨_,same⟩ := later.split.1.last
    rw [onward] at same
    cases same
    exact absurd (Look.polls_of_next? homing running goes) (unpolled c List.mem_cons_self)

/-- A leg that is behind a pass after a look is behind it at all later ones. -/
theorem done_later (followed : Followed first (before ++ a :: after) (some errand)) {onward : Errand (Ticket access μ δ χ)}
    (goes : a.next? = some onward) (homing : onward.operation = .homing pass) :
    ∃ later, errand.operation = .homing later ∧ pass.phase.done <+: later.phase.done := by
  induction after using List.reverseRecOn generalizing errand with
  | nil =>
    obtain ⟨_,same⟩ := followed.last
    rw [goes] at same
    cases same
    exact ⟨pass,homing,List.prefix_rfl⟩
  | append_singleton rest look ih =>
    have row : Followed first ((before ++ a :: rest) ++ [look]) (some errand) := by simpa using followed
    obtain ⟨here,same⟩ := row.last
    obtain ⟨now,current,past⟩ := ih here
    obtain ⟨_,next,_,ran,operation⟩ := Look.next?_homing current same.symm
    exact ⟨next,operation,past.trans (Pass.done_again ran)⟩

end Followed

/-- The motor of a leg is given its time to get moving before its state is asked for, and between two looks at a leg is
the time that they are to be apart; these are the very times if nothing but the schedule moves the clock. -/
theorem legs_are_given_their_time (now : Nat) (plotter : Plotter μ δ) (notes : χ) (events : List (Event access μ δ χ))
    (shop : Shop access μ δ χ) (lived : (opened now plotter notes).live events = .ok shop) (n : Nat) (leg : Leg)
    (before between after : List (Look access μ δ χ)) (a b : Look access μ δ χ)
    (row : shop.books.looksAt n = before ++ a :: (between ++ b :: after)) :
    (a.Starts leg → (∀ c ∈ between, ¬ c.ReadsState leg.axis) → b.ReadsState leg.axis →
      a.now + a.plotter.motion.spinUp ≤ b.now ∧
        ((opened now plotter notes : Shop access μ δ χ).Unhurried events → b.now = a.now + a.plotter.motion.spinUp)) ∧
    (a.Polls leg → (∀ c ∈ between, ¬ c.Polls leg) → b.Polls leg →
      a.now + a.plotter.motion.homingPoll ≤ b.now ∧
        ((opened now plotter notes : Shop access μ δ χ).Unhurried events →
          b.now = a.now + a.plotter.motion.homingPoll)) := by
  obtain ⟨sound,rowed⟩ := rowed_live lived
  obtain ⟨seen,number⟩ := Books.mem_looksAt.mp (show a ∈ shop.books.looksAt n by simp [row])
  obtain ⟨first,going,followed,_⟩ := rowed n (number ▸ sound.past a seen)
  rw [row] at followed
  obtain ⟨errand,goes⟩ := followed.next?_isSome
  -- what the first look has asked for is kept if no other look comes between the two
  have kept {delay : Nat} {operation : Operation} {p' : Plotter μ δ} (result : a.result = .ok (.again delay operation) p')
      (none : between = []) : a.now + delay ≤ b.now ∧
        ((opened now plotter notes : Shop access μ δ χ).Unhurried events → b.now = a.now + delay) := by
    subst none
    refine ⟨(spaced_live lived n).looks before a b after row delay operation p' result,fun unhurried => ?_⟩
    exact ((spaced_unhurried unhurried lived n).looks before a b after row delay operation p' result).symm
  constructor
  · intro starts unread _
    obtain ⟨pass,homing⟩ := starts.homing
    obtain ⟨delay,next,p',ran,result,onward⟩ := Look.again_homing homing goes
    unfold Look.Starts at starts
    rw [Look.calls_homing homing] at starts
    obtain ⟨running,rfl⟩ := Pass.again_of_started ran starts
    refine kept result (followed.polled_next goes onward running fun c inside polls => ?_)
    exact unread c inside polls.2
  · rintro ⟨⟨pass,homing,running⟩,_⟩ unpolled ⟨⟨last,lastly,again⟩,_⟩
    obtain ⟨delay,next,p',ran,result,onward⟩ := Look.again_homing homing goes
    rcases Pass.again_of_watched ran running with ⟨still,rfl⟩ | behind
    · exact kept result (followed.polled_next goes onward still unpolled)
    · -- a leg that was left behind is not run again
      have whole : Followed first ((before ++ a :: between) ++ b :: after) going := by simpa using followed
      obtain ⟨later,current,past⟩ := whole.split.1.done_later goes onward
      rw [lastly] at current
      cases current
      have inside := past.subset behind
      rw [again] at inside
      exact absurd inside (Phase.not_mem_done leg)

/-- A pass whose first leg is started and looked at twice, beside a task of the client. -/
theorem first_leg_is_given_its_time :
    let still : Plotter Motor.Recorded Journal := { tool := {}, x := {}, y := {}, display := {} }
    let urgent : Script .full Motor.Recorded Journal Unit :=
      .submit 1 (milliseconds 300) (.stop (.ok ())) (homeOnly (.menu "main menu") fun _ => .stop (.ok ()))
    ∃ shop : Shop .full Motor.Recorded Journal Unit, ∃ a b c,
      (opened 0 still ()).live [.script urgent,.turn,.turn,.turn,.turn] = .ok shop ∧
        shop.books.looksAt 0 = [a,b,c] ∧ a.Starts .toolUp ∧ b.now = a.now + still.motion.spinUp ∧ b.Polls .toolUp ∧
        c.Polls .toolUp ∧ c.now = b.now + still.motion.homingPoll := by
  intro still urgent
  let begun : Operation := .homing (.begun (.menu "main menu") [])
  let watching : Operation := .homing { phase := .running .toolUp, previous := .menu "main menu" }
  let launch : List Called := answers (Effect.asks .resetMotors ++ Effect.asks (.startLeg .toolUp))
  obtain ⟨shop,lived,told⟩ := exists_ok
    (f := fun shop : Shop .full Motor.Recorded Journal Unit => (shop.books.looksAt 0).map fun look =>
      (look.errand.operation,look.calls,look.plotter.motion))
    (show Option.map _ ((opened 0 still ()).live [.script urgent,.turn,.turn,.turn,.turn]).toOption =
        some [(begun,launch,{}),(watching,[⟨.tool,.state,true⟩],{}),(watching,[⟨.tool,.state,true⟩],{})] by
      decide +kernel)
  obtain ⟨a,_,row,start,told⟩ := List.map_eq_cons_iff.mp told
  obtain ⟨b,_,rfl,early,told⟩ := List.map_eq_cons_iff.mp told
  obtain ⟨c,_,rfl,late,told⟩ := List.map_eq_cons_iff.mp told
  obtain rfl := List.map_eq_nil_iff.mp told
  simp only [Prod.mk.injEq] at start early late
  have starts : a.Starts .toolUp := by
    unfold Look.Starts
    rw [start.2.1]
    exact ⟨answers (Effect.asks .resetMotors),[],rfl⟩
  have polls {look : Look .full Motor.Recorded Journal Unit} (kind : look.errand.operation = watching)
      (calls : look.calls = [⟨.tool,.state,true⟩]) : look.Polls .toolUp :=
    ⟨⟨_,kind,rfl⟩,true,by rw [calls]; exact List.mem_singleton.mpr rfl⟩
  have unhurried : (opened 0 still () : Shop .full Motor.Recorded Journal Unit).Unhurried
      [.script urgent,.turn,.turn,.turn,.turn] := by decide +kernel
  have first := polls early.1 early.2.1
  have second := polls late.1 late.2.1
  obtain ⟨grace,_⟩ := legs_are_given_their_time 0 still () _ shop lived 0 .toolUp [] [] [c] a b row
  obtain ⟨_,pause⟩ := legs_are_given_their_time 0 still () _ shop lived 0 .toolUp [a] [] [] b c row
  refine ⟨shop,a,b,c,lived,row,starts,?_,first,second,?_⟩
  · rw [(grace starts (by simp) first.2).2 unhurried,start.2.2]
  · rw [(pause first (by simp) second).2 unhurried,early.2.2]

end Shop
end PenPlotter
