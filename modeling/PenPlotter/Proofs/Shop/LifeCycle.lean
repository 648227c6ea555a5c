import PenPlotter.Display.Journal
import PenPlotter.Motor.Recorded
import PenPlotter.Proofs.Shop.Sound

/-! The life cycle of operations. An accepted operation is live until a look ends it, and how it stands
then is final; nothing but a look at an operation itself changes how it stands. -/

namespace PenPlotter.Shop

variable {access : Access} {μ δ χ : Type}

/-- How an accepted operation stands. -/
inductive Standing where
  | live
  | completed
  /-- A move whose last look took a confirm. -/
  | cancelled
  /-- Broken off by a device at its last look. -/
  | lost
  deriving DecidableEq, Repr

namespace Books

structure Agree (before after : Books access μ δ χ) (n : Nat) : Prop where
  tasks : after.tasks n = before.tasks n
  calls : after.calls.count n = before.calls.count n
  last : after.last? n = before.last? n

theorem Agree.trans {before between after : Books access μ δ χ} {n : Nat} (first : before.Agree between n)
    (second : between.Agree after n) : before.Agree after n :=
  ⟨second.tasks.trans first.tasks,second.calls.trans first.calls,second.last.trans first.last⟩

theorem Adds.agree {before after : Books access μ δ χ} {n : Nat} {new : Errands access μ δ χ}
    (adds : before.Adds new after) (accepted : n < before.accepted) : before.Agree after n where
  tasks := by
    rw [adds.tasks,if_neg (by omega),Nat.add_zero]
  calls := by rw [adds.calls]
  last := by simp [last?,adds.looks]

variable [Motor μ] [Display δ]

/-- How an operation stands, by its tasks, the calls of its callback and the last look at it. -/
def Stands (b : Books access μ δ χ) (n : Nat) : Standing → Prop
  | .live => b.tasks n = 1 ∧ b.calls.count n = 0
  | .completed => b.tasks n = 0 ∧ b.calls.count n = 1
  | .cancelled => b.tasks n = 0 ∧ b.calls.count n = 0 ∧ ∃ look, b.last? n = some look ∧
      look.errand.next.order.isHoming = false ∧ look.confirmed = true
  | .lost => b.tasks n = 0 ∧ b.calls.count n = 0 ∧ ∃ look reason p', b.last? n = some look ∧
      look.result = .error reason p' ∧ reason.OfDevice

variable {b before after : Books access μ δ χ} {n : Nat}

/-- A last look at which the button was pressed was not broken off. -/
theorem Sound.not_lost (sound : b.Sound) {look : Look access μ δ χ} {reason : Failure} {p' : Plotter μ δ}
    (latest : b.last? n = some look) (pressed : look.confirmed = true) : look.result ≠ .error reason p' := by
  obtain ⟨⟨readings,known⟩,_⟩ := sound.seen look (last?_eq_some latest).1
  obtain ⟨made,q,ran⟩ := Operation.poll_confirmed known.measured pressed
  intro broken
  rw [show look.result = .ok made q from ran] at broken
  cases broken

theorem Sound.unique (sound : b.Sound) {standing other : Standing} (one : b.Stands n standing)
    (two : b.Stands n other) : other = standing := by
  have apart (cancelled : b.Stands n .cancelled) (lost : b.Stands n .lost) : False := by
    obtain ⟨_,_,look,latest,_,pressed⟩ := cancelled
    obtain ⟨_,_,other,reason,p',latest',broken,_⟩ := lost
    rw [latest] at latest'
    cases latest'
    exact sound.not_lost latest pressed broken
  cases standing <;> cases other
  case cancelled.lost => exact (apart one two).elim
  case lost.cancelled => exact (apart two one).elim
  all_goals first | rfl | (simp only [Stands] at one two; omega)

/-- How an operation stands after its last look. -/
theorem Sound.stands_looked (sound : b.Sound) {look : Look access μ δ χ} (latest : b.last? n = some look) :
    match look.result with
    | .error .. => b.Stands n .lost
    | .ok (.again ..) _ => b.Stands n .live
    | .ok (.done _) _ => b.Stands n .completed
    | .ok .dropped _ => b.Stands n .cancelled := by
  obtain ⟨inside,rfl⟩ := last?_eq_some latest
  obtain ⟨⟨readings,known⟩,device⟩ := sound.seen look inside
  have tasks := sound.tasks look.number
  have calls := sound.calls look.number
  simp only [latest,sound.past look inside,true_and,Option.all_some,Option.any_some] at tasks calls
  cases made : look.result with
  | error reason p' =>
    simp only [Look.next?,Look.completion?,made] at tasks calls
    exact ⟨tasks,calls,look,reason,p',latest,made,device reason p' made⟩
  | ok progress p' =>
    simp only [Look.next?,Look.completion?,made] at tasks calls
    cases Operation.poll_ok known.measured made with
    | dropped pressed which =>
      refine ⟨tasks,calls,look,latest,?_,pressed⟩
      rw [← known.kind,which]
      rfl
    | homed | failed | arrived | again => exact ⟨tasks,calls⟩

theorem Sound.stands (sound : b.Sound) (accepted : n < b.accepted) : ∃ standing, b.Stands n standing := by
  cases latest : b.last? n with
  | none =>
    have tasks := sound.tasks n
    have calls := sound.calls n
    rw [latest] at tasks calls
    exact ⟨.live,by simpa [accepted] using tasks,by simpa using calls⟩
  | some look =>
    have stands := sound.stands_looked latest
    split at stands <;> exact ⟨_,stands⟩

theorem Agree.stands (agree : before.Agree after n) (standing : Standing) :
    after.Stands n standing ↔ before.Stands n standing := by
  cases standing <;> simp only [Stands,agree.tasks,agree.calls,agree.last]

theorem agree_took {look : Look access μ δ χ} {waiting : Errands access μ δ χ}
    (queued : b.errands.Perm (look.errand :: waiting)) (other : look.number ≠ n) :
    b.Agree (b.took look waiting) n where
  tasks := by simp [tasks_took,tasks_queued queued,other]
  calls := by simp [calls_took,other]
  last := by simp [last?_took,other]

/-- A step changes only how the operation stands that it looks at. -/
theorem Step.agree (step : before.Step after) (accepted : n < before.accepted)
    (elsewhere : ∀ look, after.looks = look :: before.looks → look.number ≠ n) : before.Agree after n := by
  cases step with
  | added adds => exact adds.agree accepted
  | looked look waiting new queued broken adds =>
    exact (agree_took queued (elsewhere look adds.looks)).trans (adds.agree accepted)

theorem Sound.live_of_looked (sound : before.Sound) (step : before.Step after) {look : Look access μ δ χ}
    (looked : after.looks = look :: before.looks) : before.Stands look.number .live := by
  cases step with
  | added adds => simp [adds.looks] at looked
  | looked other waiting new queued broken adds =>
    rw [adds.looks] at looked
    obtain rfl := (List.cons.inj looked).1
    obtain ⟨accepted,going,alone⟩ := sound.waits queued
    obtain ⟨standing,stands⟩ := sound.stands accepted
    have tasks := tasks_queued queued other.number
    simp only [alone,↓reduceIte] at tasks
    cases standing with
    | live => exact stands
    | completed | cancelled | lost => simp [stands.1] at tasks

/-- How an operation stands that is not live is final. -/
theorem Sound.final (sound : before.Sound) (step : before.Step after) (accepted : n < before.accepted)
    {standing : Standing} (ended : standing ≠ .live) (stands : before.Stands n standing) :
    after.Stands n standing := by
  refine ((step.agree accepted ?_).stands standing).mpr stands
  rintro look looked rfl
  exact ended (sound.unique (sound.live_of_looked step looked) stands)

/-- A confirm ends the operation that is looked at. -/
theorem Sound.confirm (sound : before.Sound) (step : before.Step after) {look : Look access μ δ χ}
    (looked : after.looks = look :: before.looks) (pressed : look.confirmed = true) :
    after.Stands look.number (if look.errand.next.order.isHoming then .completed else .cancelled) := by
  have latest : after.last? look.number = some look := by simp [last?,looked]
  have stands := (sound.step step).stands_looked latest
  obtain ⟨⟨readings,known⟩,_⟩ := (sound.step step).seen look (last?_eq_some latest).1
  obtain ⟨progress,p',ran⟩ := Operation.poll_confirmed known.measured pressed
  have made : look.result = .ok progress p' := ran
  simp only [made] at stands
  rw [← known.kind]
  have unpressed (h : look.plotter.confirmed look.now = false) : False := by
    rw [show look.plotter.confirmed look.now = true from pressed] at h
    cases h
  cases Operation.poll_ok known.measured made with
  | dropped _ which => rw [which]; exact stands
  | homed _ which | failed which => rw [which]; exact stands
  | arrived h | again h => exact (unpressed h).elim

end Books

variable [Motor μ] [Display δ]

/-- What a shop promises of the operations it has accepted. -/
structure LifeCycle (shop : Shop access μ δ χ) : Prop where
  /-- Every one stands in exactly one way. -/
  stands : ∀ n < shop.books.accepted, ∃ standing, shop.books.Stands n standing ∧
    ∀ other, shop.books.Stands n other → other = standing
  /-- There are no tasks and no calls but theirs. -/
  others : ∀ n, shop.books.accepted ≤ n → shop.books.tasks n = 0 ∧ shop.books.calls.count n = 0
  /-- Whatever happens later, one that is not live stands as it does. -/
  final : ∀ events later, shop.live events = .ok later → ∀ n < shop.books.accepted, ∀ standing,
    standing ≠ .live → shop.books.Stands n standing → later.books.Stands n standing
  /-- An event changes only how the operation stands that it looks at, also when that look fails. -/
  apart : ∀ event after, shop.next event = .ok after → ∀ n < shop.books.accepted,
    (∀ look, after.books.looks = look :: shop.books.looks → look.number ≠ n) →
    ∀ standing, after.books.Stands n standing ↔ shop.books.Stands n standing
  /-- An event is at most one look. -/
  looks : ∀ event after, shop.next event = .ok after → after.books.looks = shop.books.looks ∨
    ∃ look, after.books.looks = look :: shop.books.looks
  /-- A confirm that is taken ends the one operation that is looked at, and silently only a move. -/
  confirm : ∀ event after look, shop.next event = .ok after →
    after.books.looks = look :: shop.books.looks → look.confirmed = true →
    shop.books.Stands look.number .live ∧
      after.books.Stands look.number (if look.errand.next.order.isHoming then .completed else .cancelled)
  /-- A look asks for a confirm exactly once. -/
  asked : ∀ look ∈ shop.books.looks, ∀ {γ : Type} (view : Plotter μ δ → γ), Plotter.Aside view →
    view (Plotter.left look.errand.operation.poll look.now look.plotter) = view (look.plotter.asked look.now)

theorem live_final {shop later : Shop access μ δ χ} {events : List (Event access μ δ χ)} {n : Nat}
    {standing : Standing} (sound : shop.books.Sound) (lived : shop.live events = .ok later)
    (accepted : n < shop.books.accepted) (ended : standing ≠ .live) (stands : shop.books.Stands n standing) :
    later.books.Stands n standing := by
  have kept := live_preserves (P := fun shop : Shop access μ δ χ =>
    shop.books.Sound ∧ n < shop.books.accepted ∧ shop.books.Stands n standing) ?_ ⟨sound,accepted,stands⟩ lived
  · exact kept.2.2
  rintro shop event after ⟨sound,accepted,stands⟩ made
  have step := books_next made
  exact ⟨sound.step step,Nat.lt_of_lt_of_le accepted step.accepted,sound.final step accepted ended stands⟩

theorem operations_live_or_end_once (now : Nat) (plotter : Plotter μ δ) (notes : χ)
    (events : List (Event access μ δ χ)) (shop : Shop access μ δ χ)
    (lived : (opened now plotter notes).live events = .ok shop) : shop.LifeCycle := by
  have sound := sound_live (sound_opened now plotter notes) lived
  constructor
  case stands =>
    intro n accepted
    obtain ⟨standing,stands⟩ := sound.stands accepted
    exact ⟨standing,stands,fun other also => sound.unique stands also⟩
  case others =>
    intro n beyond
    rw [sound.tasks,sound.calls,sound.last?_new beyond]
    simp [Nat.not_lt_of_le beyond]
  case final =>
    intro more later lived n accepted standing ended stands
    exact live_final sound lived accepted ended stands
  case apart =>
    intro event after made n accepted elsewhere standing
    exact ((books_next made).agree accepted elsewhere).stands standing
  case looks => exact fun event after made => (books_next made).looks
  case confirm =>
    intro event after look made looked pressed
    exact ⟨sound.live_of_looked (books_next made) looked,sound.confirm (books_next made) looked pressed⟩
  case asked =>
    intro look _ γ view aside
    exact (look.errand.operation.poll_yields aside look.now look.plotter).1

/-- A homing pass and a move that each take a confirm: the callback of the pass is called. -/
theorem homing_and_move_confirmed : ∃ shop : Shop .full Motor.Recorded Journal Unit,
    (opened 0 { tool := {}, x := {}, y := {}, display := { presses := 2 } } ()).live
        [.script (.startAll [.home rfl (.menu "main menu"),.go rfl {}]),.turn,.turn] = .ok shop ∧
      (shop.books.accepted,shop.books.errands.length,shop.books.calls) = (2,0,[0]) ∧ shop.LifeCycle := by
  obtain ⟨shop,lived,told⟩ := exists_ok
    (f := fun shop : Shop .full Motor.Recorded Journal Unit =>
      (shop.books.accepted,shop.books.errands.length,shop.books.calls))
    (show Option.map _ ((opened 0 { tool := {}, x := {}, y := {}, display := { presses := 2 } } ()).live
        [.script (.startAll [.home rfl (.menu "main menu"),.go rfl {}]),.turn,.turn]).toOption = some (2,0,[0]) by
      decide +kernel)
  refine ⟨shop,lived,told,?_⟩
  exact operations_live_or_end_once _ _ _ _ _ lived

end PenPlotter.Shop
