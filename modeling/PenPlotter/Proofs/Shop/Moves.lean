import PenPlotter.Proofs.Plotter.Targets
import PenPlotter.Proofs.Shop.Endings
import PenPlotter.Proofs.Shop.Instants

/-! The looks at a move. The first is taken at once and each other one a period after the one before, until a look takes
a confirm or finds every axis at its target; only in the second case the callback is called. No look does more to
the motors than to read axes that have a target. -/

namespace PenPlotter.Shop

variable {access : Access} {μ δ χ : Type} [Motor μ] [Display δ]

namespace Look

variable {look : Look access μ δ χ} {targets : Targets}

/-- A look takes a confirm, or it finds a move at its targets. -/
def Settles (targets : Targets) (look : Look access μ δ χ) : Prop :=
  look.confirmed = true ∨ targets.Found look.now look.plotter

/-- A look finds a move at its targets and takes no confirm. -/
def Completes (targets : Targets) (look : Look access μ δ χ) : Prop :=
  look.confirmed = false ∧ targets.Found look.now look.plotter

theorem result_move (moves : look.errand.operation = .move targets) {progress : Progress Operation Completion}
    {p' : Plotter μ δ} (made : look.result = .ok progress p') :
    (look.confirmed = true ∧ progress = .dropped) ∨ (look.Completes targets ∧ progress = .done .arrived) ∨
      (¬ look.Settles targets ∧ progress = .again look.plotter.motion.goPoll (.move targets)) := by
  unfold result at made
  rw [moves,Operation.poll_move] at made
  cases looked : targets.poll look.now look.plotter with
  | error => simp [looked] at made
  | ok here q =>
    simp only [looked] at made
    cases made
    rcases Targets.poll_ok looked with ⟨pressed,rfl⟩ | ⟨unpressed,found,rfl⟩ | ⟨unpressed,short,rfl⟩
    · exact .inl ⟨pressed,rfl⟩
    · exact .inr (.inl ⟨⟨unpressed,found⟩,rfl⟩)
    · refine .inr (.inr ⟨?_,rfl⟩)
      rintro (pressed | found)
      · exact Bool.noConfusion (unpressed.symm.trans pressed)
      · exact short found

theorem completion_move (moves : look.errand.operation = .move targets) :
    look.completion?.isSome = true ↔ look.Completes targets := by
  constructor
  · intro ended
    obtain ⟨completion,ended⟩ := Option.isSome_iff_exists.mp ended
    obtain ⟨_,made⟩ := completion?_eq_some ended
    rcases result_move moves made with ⟨_,⟨⟩⟩ | ⟨completes,_⟩ | ⟨_,⟨⟩⟩
    exact completes
  · rintro ⟨unpressed,found⟩
    obtain ⟨p',looked⟩ := Targets.poll_found unpressed found
    unfold completion? result
    rw [moves,Operation.poll_move,looked]
    rfl

/-- A move that goes on was not settled, and it goes on as it was. -/
theorem next_move (moves : look.errand.operation = .move targets) {errand : Errand (Ticket access μ δ χ)}
    (going : look.next? = some errand) : ¬ look.Settles targets ∧ errand = look.errand := by
  obtain ⟨delay,operation,p',made,rfl⟩ := next?_eq_some going
  rcases result_move moves made with ⟨_,⟨⟩⟩ | ⟨_,⟨⟩⟩ | ⟨short,same⟩
  cases same
  exact ⟨short,by rw [← moves]⟩

/-- A look that neither settles a move nor is broken off lets it go on. -/
theorem next_move_of_short (moves : look.errand.operation = .move targets) (short : ¬ look.Settles targets)
    (answered : ∀ reason p', look.result ≠ .error reason p') : look.next?.isSome = true := by
  cases made : look.result with
  | error reason p' => exact absurd made (answered reason p')
  | ok progress p' =>
    rcases result_move moves made with ⟨pressed,_⟩ | ⟨⟨_,found⟩,_⟩ | ⟨_,rfl⟩
    · exact absurd (.inl pressed) short
    · exact absurd (.inr found) short
    · simp [next?,made]

end Look

namespace Followed

variable {first : Errand (Ticket access μ δ χ)} {before after looks : List (Look access μ δ χ)}
variable {look : Look access μ δ χ} {going : Option (Errand (Ticket access μ δ χ))} {targets : Targets}

theorem same_move {errand : Errand (Ticket access μ δ χ)} (followed : Followed first looks (some errand))
    (moves : first.operation = .move targets) : errand = first := by
  generalize waits : some errand = going at followed
  induction followed generalizing errand with
  | begun =>
    cases waits
    rfl
  | @looked looks look _ ih =>
    have same := ih rfl
    have still : look.errand.operation = .move targets := by rw [same,moves]
    exact (Look.next_move still waits.symm).2.trans same

/-- Every look finds the move as it was begun, and only the last one may settle it. -/
theorem move_split (followed : Followed first (before ++ look :: after) going)
    (moves : first.operation = .move targets) : look.errand = first ∧ (look.Settles targets → after = []) := by
  obtain ⟨here,onward⟩ := followed.split
  have same := here.same_move moves
  refine ⟨same,fun settles => onward ?_⟩
  cases going : look.next? with
  | none => rfl
  | some errand => exact absurd settles (Look.next_move (by rw [same,moves]) going).1

end Followed

namespace Books

variable {b : Books access μ δ χ} {n : Nat} {targets : Targets} {ticket : Ticket access μ δ χ}
variable {before after : List (Look access μ δ χ)} {look : Look access μ δ χ}

theorem Follows.move_split (follows : b.Follows ⟨.move targets,ticket⟩ n)
    (whole : b.looksAt n = before ++ look :: after) :
    look.errand = ⟨.move targets,ticket⟩ ∧ (look.Settles targets → after = []) := by
  obtain ⟨_,followed,_⟩ := follows
  exact (whole ▸ followed).move_split rfl

theorem Follows.of_move (follows : b.Follows ⟨.move targets,ticket⟩ n) (inside : look ∈ b.looksAt n) :
    look.errand = ⟨.move targets,ticket⟩ := by
  obtain ⟨_,_,whole⟩ := List.append_of_mem inside
  exact (follows.move_split whole).1

/-- Only the last look at a move can settle it. -/
theorem Follows.move_settled (follows : b.Follows ⟨.move targets,ticket⟩ n) (inside : look ∈ b.looksAt n)
    (settles : look.Settles targets) : b.last? n = some look := by
  obtain ⟨before,_,whole⟩ := List.append_of_mem inside
  rw [(follows.move_split whole).2 settles] at whole
  exact last?_eq_some_iff.mpr ⟨before,whole⟩

/-- A move that no look has settled, and none has broken off, waits for the next look. -/
theorem Sound.move_goes_on (sound : b.Sound) (accepted : n < b.accepted)
    (follows : b.Follows ⟨.move targets,ticket⟩ n) (short : ∀ look ∈ b.looksAt n, ¬ look.Settles targets)
    (answered : ∀ look ∈ b.looksAt n, ∀ reason p', look.result ≠ .error reason p') :
    ⟨.move targets,ticket⟩ ∈ b.errands := by
  have onward : (b.last? n).all (fun look => look.next?.isSome) = true := by
    cases latest : b.last? n with
    | none => rfl
    | some look =>
      have inside := mem_looksAt.mpr (last?_eq_some latest)
      have moves : look.errand.operation = .move targets := by rw [follows.of_move inside]
      exact Look.next_move_of_short moves (short look inside) (answered look inside)
  obtain ⟨errand,queued,number⟩ := sound.queued_iff.mpr ⟨accepted,onward⟩
  obtain ⟨_,followed,waits⟩ := follows
  obtain rfl := waits errand queued number
  obtain rfl := followed.same_move rfl
  exact queued

theorem Sound.move_called_iff (sound : b.Sound) (follows : b.Follows ⟨.move targets,ticket⟩ n) :
    b.calls.count n = 1 ↔ ∃ look ∈ b.looksAt n, look.Completes targets := by
  rw [sound.called_iff]
  constructor
  · rintro ⟨look,latest,ended⟩
    have inside := mem_looksAt.mpr (last?_eq_some latest)
    exact ⟨look,inside,(Look.completion_move (by rw [follows.of_move inside])).mp ended⟩
  · rintro ⟨look,inside,completes⟩
    exact ⟨look,follows.move_settled inside (.inr completes.2),
      (Look.completion_move (by rw [follows.of_move inside])).mpr completes⟩

theorem Sound.move_cancelled (sound : b.Sound) (follows : b.Follows ⟨.move targets,ticket⟩ n)
    (inside : look ∈ b.looksAt n) (pressed : look.confirmed = true) : b.calls.count n = 0 := by
  rw [sound.calls,follows.move_settled inside (.inl pressed),Option.any_some,if_neg]
  intro ended
  have unpressed := ((Look.completion_move (by rw [follows.of_move inside])).mp ended).1
  exact Bool.noConfusion (unpressed.symm.trans pressed)

/-- A settled move does not wait any more. -/
theorem Sound.move_over (sound : b.Sound) (follows : b.Follows ⟨.move targets,ticket⟩ n)
    (inside : look ∈ b.looksAt n) (settles : look.Settles targets) : b.tasks n = 0 := by
  rw [sound.tasks,follows.move_settled inside settles,Option.all_some,if_neg]
  rintro ⟨_,goes⟩
  obtain ⟨errand,next⟩ := Option.isSome_iff_exists.mp goes
  exact (Look.next_move (by rw [follows.of_move inside]) next).1 settles

end Books

/-- The looks at a move that was begun at an instant, and what has come of them. -/
structure Attended (targets : Targets) (ticket : Ticket access μ δ χ) (start period : Nat)
    (shop : Shop access μ δ χ) : Prop where
  /-- They come one period after the other. -/
  instants : ∀ k look, (shop.books.looksAt ticket.number)[k]? = some look → look.now = start + k * period
  /-- None comes after one that settles the move. -/
  unsettled : ∀ before look after, shop.books.looksAt ticket.number = before ++ look :: after →
    look.errand = ⟨.move targets,ticket⟩ ∧ (look.Settles targets → after = [])
  /-- The next one is due a period after the last. -/
  waits : (∀ look ∈ shop.books.looksAt ticket.number, ¬ look.Settles targets) →
    ∃ task ∈ shop.schedule.queue, task.action = .errand ⟨.move targets,ticket⟩ ∧
      task.due.start shop.schedule.now = start + (shop.books.looksAt ticket.number).length * period
  /-- The callback is called once if a look completes the move, and not at all if none does. -/
  called : shop.books.calls.count ticket.number ≤ 1 ∧ (shop.books.calls.count ticket.number = 1 ↔
    ∃ look ∈ shop.books.looksAt ticket.number, look.Completes targets)
  cancelled : (∃ look ∈ shop.books.looksAt ticket.number, look.confirmed = true) →
    shop.books.calls.count ticket.number = 0
  /-- Once the move is settled, no look comes and no callback is called, whatever happens. -/
  closed : (∃ look ∈ shop.books.looksAt ticket.number, look.Settles targets) →
    ∀ events later, shop.live events = .ok later →
      later.books.looksAt ticket.number = shop.books.looksAt ticket.number ∧
        later.books.calls.count ticket.number = shop.books.calls.count ticket.number
  /-- A look takes the confirm and reads axes that have a target, and does nothing else. -/
  reads : ∀ look ∈ shop.books.looksAt ticket.number, ∃ asks : List (Axis × Ask),
    (∀ ask ∈ asks, ask.2 = .position ∧ (targets.on ask.1).isSome = true) ∧
      Plotter.left look.errand.operation.poll look.now look.plotter =
        (look.plotter.asked look.now).withMotors (attempt look.now look.plotter.motor asks).2

theorem attended_of_followed {targets : Targets} {ticket : Ticket access μ δ χ} {start period : Nat}
    {shop : Shop access μ δ χ} (sound : shop.books.Sound) (accepted : ticket.number < shop.books.accepted)
    (follows : shop.books.Follows ⟨.move targets,ticket⟩ ticket.number)
    (answered : ∀ look ∈ shop.books.looksAt ticket.number, ∀ reason p', look.result ≠ .error reason p')
    (timed : shop.Timed ticket.number start period) : shop.Attended targets ticket start period where
  instants := timed.looks
  unsettled _ _ _ whole := follows.move_split whole
  waits short := by
    have queued := sound.move_goes_on accepted follows short answered
    obtain ⟨task,inside,acts⟩ := mem_errands.mp queued
    exact ⟨task,inside,acts,timed.waits task inside _ acts rfl⟩
  called := by
    refine ⟨?_,sound.move_called_iff follows⟩
    rw [sound.calls]
    split <;> omega
  cancelled := by
    rintro ⟨look,inside,pressed⟩
    exact sound.move_cancelled follows inside pressed
  closed := by
    rintro ⟨look,inside,settles⟩ events later lived
    exact over_live sound accepted (sound.move_over follows inside settles) lived
  reads := by
    intro look inside
    refine ⟨targets.asks look.now look.plotter,Targets.asks_targeted,?_⟩
    rw [follows.of_move inside,Operation.left_move]
    exact targets.poll_left look.now look.plotter

/-- What holds of a move from event to event, as long as every look at it finds the same period. -/
structure Underway (targets : Targets) (ticket : Ticket access μ δ χ) (start period : Nat)
    (shop : Shop access μ δ χ) : Prop where
  sound : shop.books.Sound
  sorted : shop.schedule.queue.Pairwise Task.precedes
  accepted : ticket.number < shop.books.accepted
  follows : shop.books.Follows ⟨.move targets,ticket⟩ ticket.number
  timed : (∀ look ∈ shop.books.looksAt ticket.number, look.plotter.motion.goPoll = period) →
    shop.Timed ticket.number start period

section Underway

variable {targets : Targets} {ticket : Ticket access μ δ χ} {start period : Nat}
variable {before after : Shop access μ δ χ} {event : Event access μ δ χ}

theorem Underway.next (underway : before.Underway targets ticket start period) (made : before.next event = .ok after)
    (punctual : after.schedule.now = before.instant event) : after.Underway targets ticket start period := by
  have step := books_next made
  have follows := underway.follows.step underway.sound underway.accepted step
  refine ⟨underway.sound.step step,sorted_next underway.sorted made,
    Nat.lt_of_lt_of_le underway.accepted step.accepted,follows,fun same => ?_⟩
  have seen (look : Look access μ δ χ) (inside : look ∈ before.books.looksAt ticket.number) :
      look ∈ after.books.looksAt ticket.number := by
    obtain ⟨inside,number⟩ := Books.mem_looksAt.mp inside
    refine Books.mem_looksAt.mpr ⟨?_,number⟩
    rcases step.looks with kept | ⟨_,grown⟩
    · rw [kept]; exact inside
    · rw [grown]; exact List.mem_cons_of_mem _ inside
  refine (underway.timed fun look inside => same look (seen look inside)).next underway.sound underway.sorted
    underway.accepted made punctual ?_
  intro look inside delay operation p' result
  have moves : look.errand.operation = .move targets := by rw [follows.of_move inside]
  rcases Look.result_move moves result with ⟨_,⟨⟩⟩ | ⟨_,⟨⟩⟩ | ⟨_,again⟩
  cases again
  exact same look inside

/-- A move is under way as soon as it is accepted. -/
theorem underway_accepted (sound : before.books.Sound) (rowed : before.books.Rowed)
    (sorted : before.schedule.queue.Pairwise Task.precedes) (fresh : before.books.accepted ≤ ticket.number)
    (made : before.next event = .ok after) (punctual : after.schedule.now = before.instant event)
    (accepted : ⟨.move targets,ticket⟩ ∈ after.books.errands) (period : Nat) :
    after.Underway targets ticket (before.instant event) period := by
  have step := books_next made
  have known := ((sound.step step).queued_iff.mp ⟨_,accepted,rfl⟩).1
  obtain ⟨unseen,timed⟩ := timed_accepted sound fresh made punctual period
  obtain ⟨first,going,followed,waits⟩ := rowed.step sound step ticket.number known
  have first_going := followed
  rw [unseen] at first_going
  obtain rfl : first = ⟨.move targets,ticket⟩ :=
    Option.some.inj (first_going.going_nil.symm.trans (waits _ accepted rfl))
  exact ⟨sound.step step,sorted_next sorted made,known,⟨going,followed,waits⟩,fun _ => punctual ▸ timed⟩

end Underway

/-- A move that is accepted in a shop, as long as nothing but the schedule moves the clock and no device breaks a look
off: it is looked at where it begins and then every period until it is settled, and its callback is called at the
first look that finds every axis at its target, unless that or an earlier one takes a confirm. The start of the move
commands the axes with a target, and the looks at it only read those. -/
theorem move_completes_at_first_look_there (now : Nat) (plotter : Plotter μ δ) (notes : χ)
    (earlier events : List (Event access μ δ χ)) (event : Event access μ δ χ) (before begun shop : Shop access μ δ χ)
    (lived : (opened now plotter notes).live earlier = .ok before) (made : before.next event = .ok begun)
    (went : begun.live events = .ok shop) (unhurried : before.Unhurried (event :: events))
    (targets : Targets) (ticket : Ticket access μ δ χ) (fresh : before.books.accepted ≤ ticket.number)
    (accepted : ⟨.move targets,ticket⟩ ∈ begun.books.errands) (period : Nat)
    (same : ∀ look ∈ shop.books.looksAt ticket.number, look.plotter.motion.goPoll = period)
    (answered : ∀ look ∈ shop.books.looksAt ticket.number, ∀ reason p', look.result ≠ .error reason p') :
    shop.Attended targets ticket (before.instant event) period ∧
      ∀ (now : Nat) (p : Plotter μ δ),
        Plotter.Performs (targets.launches p.motion.goSpeed) (targets.start : PlotterM μ δ Unit) now p ∧
        ∀ ask ∈ targets.launches p.motion.goSpeed, (targets.on ask.1).isSome = true := by
  obtain ⟨punctual,calm⟩ := unhurried begun (by rw [made]; rfl)
  obtain ⟨sound,rowed⟩ := rowed_live lived
  have start := underway_accepted sound rowed (sorted_live lived) fresh made punctual accepted period
  have underway := unhurried_preserves (P := fun shop => shop.Underway targets ticket (before.instant event) period)
    calm (fun _ _ _ underway made punctual => underway.next made punctual) start went
  refine ⟨attended_of_followed underway.sound underway.accepted underway.follows answered (underway.timed same),
    fun now p => ⟨targets.start_performs now p,?_⟩⟩
  exact fun ask inside => Targets.launches_targeted inside

/-- A plotter whose motor along x reads a position. -/
def standing (here : Raw) : Plotter Motor.Recorded Journal :=
  { tool := {}, x := { position := here }, y := {}, display := {} }

/-- A move along x that is not there at its first look and is there at the second. -/
theorem short_move_completes :
    let goal : Raw := { ticks := 100 }
    let move : Ticket .full Motor.Recorded Journal Unit := ⟨0,.go rfl { x := some goal },fun _ => .stop (.ok ())⟩
    let event : Event .full Motor.Recorded Journal Unit := .script (.startAll [move.order])
    ∃ shop : Shop .full Motor.Recorded Journal Unit,
      (opened 0 (standing .zero) ()).live (event :: [.turn,.world (standing goal),.turn]) = .ok shop ∧
        (shop.books.looksAt 0).map Look.now = [0,milliseconds 200] ∧ shop.books.calls = [0] ∧
        shop.Attended { x := some goal } move 0 (milliseconds 200) := by
  intro goal move event
  let events : List (Event .full Motor.Recorded Journal Unit) := [.turn,.world (standing goal),.turn]
  let seen (look : Look .full Motor.Recorded Journal Unit) :=
    (look.now,look.plotter.motion.goPoll,look.next?.isSome || look.completion?.isSome)
  obtain ⟨shop,lived,told⟩ := exists_ok
    (f := fun shop : Shop .full Motor.Recorded Journal Unit => ((shop.books.looksAt 0).map seen,shop.books.calls))
    (show Option.map _ ((opened 0 (standing .zero) ()).live (event :: events)).toOption =
        some ([(0,milliseconds 200,true),(milliseconds 200,milliseconds 200,true)],[0]) by
      decide +kernel)
  obtain ⟨looks,calls⟩ := Prod.mk.inj told
  obtain ⟨begun,made,accepted⟩ : ∃ begun, (opened 0 (standing .zero) ()).next event = .ok begun ∧
      ⟨.move { x := some goal },move⟩ ∈ begun.books.errands := ⟨_,rfl,List.mem_singleton.mpr rfl⟩
  have went : begun.live events = .ok shop := by
    rw [live_cons,made] at lived
    exact lived
  have each (look : Look .full Motor.Recorded Journal Unit) (inside : look ∈ shop.books.looksAt move.number) :
      look.plotter.motion.goPoll = milliseconds 200 ∧ (look.next?.isSome || look.completion?.isSome) = true := by
    have among : seen look ∈ (shop.books.looksAt 0).map seen := List.mem_map_of_mem inside
    rw [looks] at among
    simp only [seen,List.mem_cons,Prod.mk.injEq,List.not_mem_nil,or_false] at among
    rcases among with ⟨_,poll,ok⟩ | ⟨_,poll,ok⟩ <;> exact ⟨poll,ok⟩
  have answered (look : Look .full Motor.Recorded Journal Unit) (inside : look ∈ shop.books.looksAt move.number)
      (reason : Failure) (p' : Plotter Motor.Recorded Journal) : look.result ≠ .error reason p' := by
    intro broken
    have ok := (each look inside).2
    simp [Look.next?,Look.completion?,broken] at ok
  have times := congrArg (List.map Prod.fst) looks
  rw [List.map_map] at times
  exact ⟨shop,lived,times,calls,(move_completes_at_first_look_there 0 (standing .zero) () [] events event _ begun shop
    rfl made went (by decide +kernel) { x := some goal } move (Nat.le_refl 0) accepted (milliseconds 200)
    (fun look inside => (each look inside).1) answered).1⟩

end PenPlotter.Shop
