import PenPlotter.Proofs.Homing.Driving
import PenPlotter.Proofs.Shop.Calibration
import PenPlotter.Proofs.Shop.Followed

/-! What a homing pass does to the motors, from the order on which it is begun to the call of its callback.
One motor is driven at a time, none before all are reset, and a pass that finds a motor missing at its
beginning leaves all of them alone. -/

namespace PenPlotter

namespace Homing

theorem Phase.Step.confirmed_of_terminal {phase next : Phase} {seen : Observation} {asked : List Effect}
    (step : phase.Step seen next asked) (alive : phase.isTerminal = false) (terminal : next.isTerminal = true) :
    seen.confirm = true := by
  cases step with
  | ended => simp [alive] at terminal
  | @stalled _ leg => cases leg <;> cases terminal
  | dismissed confirm | refused confirm | cancelled _ confirm => exact confirm
  | _ => cases terminal

namespace Pass

variable {μ δ : Type} [Motor μ] [Display δ] {pass : Pass} {now : Nat} {p p' : Plotter μ δ}

/-- A pass ends at a confirm, unless it is broken off. -/
theorem confirmed_of_done {outcome : Except Fault Calibration} (alive : pass.phase.isTerminal = false)
    (ran : pass.poll now p = .ok (.done outcome) p') : p.confirmed now = true := by
  obtain ⟨phase,effects,step,made⟩ := poll_ok ran
  rcases step.ending alive with ⟨terminal,_⟩ | ⟨going,none⟩
  · exact step.confirmed_of_terminal alive terminal
  · have outcome := (addAll_going none p.motion.spinUp ⟨pass.recorded,p.motion.homingPoll,.none⟩).1
    simp [progress,outcome,going] at made

theorem closing_of_done {c : Calibration} (alive : pass.phase.isTerminal = false)
    (ran : pass.poll now p = .ok (.done (.ok c)) p') : pass.phase = .closing none := by
  obtain ⟨phase,effects,step,made⟩ := poll_ok ran
  rcases step.ending alive with ⟨_,ending,isEnding,rfl⟩ | ⟨going,none⟩
  · cases ending with
    | complete => exact step.complete
    | fail => cases made
    | _ => cases isEnding
  · have outcome := (addAll_going none p.motion.spinUp ⟨pass.recorded,p.motion.homingPoll,.none⟩).1
    simp [progress,outcome,going] at made

/-- The pass that begins with some motors missing. -/
def begun (previous : Screen) (missing : List Axis) : Pass where
  phase := if missing = [] then .start else .closing (some (.disconnected missing))
  previous := previous

theorem begun_past (previous : Screen) (missing : List Axis) : (begun previous missing).phase.past = [] := by
  unfold begun
  dsimp only
  split <;> rfl

theorem start_apply (previous : Screen) (now : Nat) (p : Plotter μ δ) :
    ∃ p', start previous now p = .ok (begun previous p.disconnectedAxes) p' ∧ p'.motor = p.motor := by
  unfold start begun
  simp only [bind_apply,Plotter.get_apply]
  cases p.disconnectedAxes <;> exact ⟨_,rfl,rfl⟩

/-- A pass that only shows what is missing stays as it is until that is dismissed, and asks for nothing. -/
theorem poll_refused {fault : Fault} (closing : pass.phase = .closing (some fault)) (now : Nat)
    (p : Plotter μ δ) : pass.calls now p = [] ∧
      if p.confirmed now then ∃ p', pass.poll now p = .ok (.done (.error fault)) p'
      else ∃ delay p', pass.poll now p = .ok (.again delay pass) p' := by
  obtain ⟨phase,recorded,previous⟩ := pass
  obtain rfl : phase = .closing (some fault) := closing
  have looked : observe (.closing (some fault)) now p = .ok ⟨p.confirmed now,none⟩ (p.asked now) := rfl
  simp only [calls,asks,poll_apply,looked,Phase.next]
  cases p.confirmed now with
  | true => exact ⟨rfl,_,rfl⟩
  | false => exact ⟨rfl,_,_,rfl⟩

end Pass
end Homing

namespace Shop

variable {access : Access} {μ δ χ : Type} [Motor μ] [Display δ]

namespace Look

/-- The calls that a look at a homing pass makes of the motors. -/
def calls (look : Look access μ δ χ) : List Called :=
  match look.errand.operation with
  | .homing pass => pass.calls look.now look.plotter
  | .move _ => []

/-- A look makes some calls of the motors and no others: the motors are left as these calls leave them
when they are made one after the other, and the look is broken off by a device if one is refused. -/
def Makes (look : Look access μ δ χ) (calls : List Called) : Prop :=
  (∃ asks, attempt look.now look.plotter.motor asks =
    (calls, (Plotter.left look.errand.operation.poll look.now look.plotter).motor)) ∧
  (Refused calls ↔ ∃ reason p', look.result = .error reason p' ∧ reason.OfDevice)

theorem makes_calls {look : Look access μ δ χ} {pass : Homing.Pass}
    (homing : look.errand.operation = .homing pass) : look.Makes look.calls := by
  obtain ⟨motors,refused⟩ := pass.poll_asks look.now look.plotter
  unfold Makes calls result
  rw [homing]
  refine ⟨⟨pass.asks look.now look.plotter,?_⟩,?_⟩
  · rw [Operation.left_homing,motors]
    rfl
  · rw [refused,Operation.poll_homing]
    cases pass.poll look.now look.plotter <;> simp

end Look

/-- A pass that goes on after it has made some calls. -/
structure Drives (begun : Homing.Pass) (calls : List Called) (pass : Homing.Pass) : Prop where
  alive : pass.phase.isTerminal = false
  past : calls.filter Called.isCommand = pass.phase.past
  answered : ¬ Refused calls
  refused : ∀ fault, begun.phase = .closing (some fault) → pass = begun ∧ calls = []

theorem Drives.driving {begun pass : Homing.Pass} {calls : List Called} (drives : Drives begun calls pass) :
    calls.foldl Driving.hear {} = pass.phase.driving := by
  rw [← Called.hear_filter,drives.past]
  rfl

theorem Drives.again {begun pass next : Homing.Pass} {calls : List Called} {now delay : Nat} {p p' : Plotter μ δ}
    (drives : Drives begun calls pass) (ran : pass.poll now p = .ok (.again delay next) p') :
    Drives begun (calls ++ pass.calls now p) next where
  alive := by
    obtain ⟨phase,effects,_,made⟩ := Homing.Pass.poll_ok ran
    obtain ⟨same,going⟩ := Homing.Pass.progress_again made.symm
    rw [same,going]
  past := by rw [List.filter_append,drives.past,Homing.Pass.calls_again ran]
  answered := by
    have fine : ¬ Refused (pass.calls now p) := by
      rw [(pass.poll_asks now p).2,ran]
      simp
    simp [drives.answered,fine]
  refused := by
    intro fault closing
    obtain ⟨rfl,none⟩ := drives.refused fault closing
    obtain ⟨still,ends⟩ := pass.poll_refused closing now p
    split at ends
    · obtain ⟨_,ended⟩ := ends
      rw [ended] at ran
      cases ran
    · obtain ⟨_,_,goes⟩ := ends
      rw [goes] at ran
      cases ran
      exact ⟨rfl,by simp [none,still]⟩

namespace Look

variable {look : Look access μ δ χ} {pass : Homing.Pass}

theorem next?_homing (homing : look.errand.operation = .homing pass) {errand : Errand (Ticket access μ δ χ)}
    (going : look.next? = some errand) : ∃ delay next p',
      pass.poll look.now look.plotter = .ok (.again delay next) p' ∧ errand.operation = .homing next := by
  obtain ⟨delay,operation,p',made,rfl⟩ := next?_eq_some going
  unfold result at made
  rw [homing,Operation.poll_homing] at made
  cases ran : pass.poll look.now look.plotter with
  | error => simp [ran] at made
  | ok progress q =>
    cases progress <;> simp only [ran,Operation.ofPass] at made <;> cases made
    exact ⟨_,_,_,rfl,rfl⟩

theorem next?_done (homing : look.errand.operation = .homing pass) {outcome : Except Fault Calibration}
    {p' : Plotter μ δ} (ended : pass.poll look.now look.plotter = .ok (.done outcome) p') : look.next? = none := by
  unfold next? result
  rw [homing,Operation.poll_homing,ended]
  rfl

theorem completion?_homing (homing : look.errand.operation = .homing pass) :
    look.completion? =
      match pass.poll look.now look.plotter with
      | .ok (.done outcome) _ => some (.homed outcome)
      | _ => none := by
  unfold completion? result
  rw [homing,Operation.poll_homing]
  cases pass.poll look.now look.plotter with
  | error => rfl
  | ok progress => cases progress <;> rfl

theorem poll_of_homed (homing : look.errand.operation = .homing pass) {outcome : Except Fault Calibration}
    (ended : look.completion? = some (.homed outcome)) :
    ∃ p', pass.poll look.now look.plotter = .ok (.done outcome) p' := by
  rw [completion?_homing homing] at ended
  split at ended
  next ran =>
    cases ended
    exact ⟨_,ran⟩
  · cases ended

theorem calls_homing (homing : look.errand.operation = .homing pass) :
    look.calls = pass.calls look.now look.plotter := by
  unfold calls
  rw [homing]

end Look

/-- How a homing pass treats the motors by the looks at it, given which motors it found missing. -/
structure Careful (missing : List Axis) (looks : List (Look access μ δ χ)) : Prop where
  /-- The calls are all that the looks do to the motors. -/
  real : ∀ look ∈ looks, look.Makes look.calls
  /-- A motor is run when all were reset and none is driven, and only the one that was run last is looked at.
  There are no other commands than to reset, set up, run and stop. -/
  permitted : Throughout (fun before call => (before.foldl Driving.hear {}).Permits call)
    (looks.flatMap Look.calls)
  alone : ∀ before after, looks.flatMap Look.calls = before ++ after →
    (before.foldl Driving.hear {}).driven.length ≤ 1
  completed : ∀ look ∈ looks, ∀ c, look.completion? = some (.homed (.ok c)) →
    ¬ Refused (looks.flatMap Look.calls) ∧
      ∀ axis, Called.motions axis (looks.flatMap Look.calls) = [.reset, .runDirect, .stop, .runDirect, .stop]
  /-- A look that finds a confirm makes no calls, and there is none after it. -/
  confirmed : ∀ before look after, looks = before ++ look :: after → look.confirmed = true →
    look.calls = [] ∧ after = []
  missing : missing ≠ [] → looks.flatMap Look.calls = [] ∧
    ∀ look ∈ looks, look.completion? =
      if look.confirmed then some (.homed (.error (.disconnected missing))) else none

namespace Followed

variable {first : Errand (Ticket access μ δ χ)} {looks before after : List (Look access μ δ χ)}
variable {look : Look access μ δ χ} {going : Option (Errand (Ticket access μ δ χ))} {begun : Homing.Pass}

/-- All calls of a pass are permitted, and as long as it goes on its phase tells which commands it gave. -/
theorem drives (followed : Followed first looks going) (homing : first.operation = .homing begun)
    (fresh : begun.phase.past = []) (alive : begun.phase.isTerminal = false) :
    Driving.Orderly {} (looks.flatMap Look.calls) ∧ ∀ errand, going = some errand →
      ∃ pass, errand.operation = .homing pass ∧ Drives begun (looks.flatMap Look.calls) pass := by
  induction followed with
  | begun =>
    refine ⟨Driving.orderly_nil,?_⟩
    rintro _ ⟨⟩
    exact ⟨begun,homing,alive,fresh.symm,by simp,fun _ _ => ⟨rfl,rfl⟩⟩
  | @looked looks look _ ih =>
    obtain ⟨orderly,here⟩ := ih
    obtain ⟨pass,current,drives⟩ := here look.errand rfl
    have calls : (looks ++ [look]).flatMap Look.calls =
        looks.flatMap Look.calls ++ pass.calls look.now look.plotter := by
      simp [Look.calls_homing current]
    rw [calls]
    constructor
    · rw [Driving.orderly_append,drives.driving]
      exact ⟨orderly,pass.calls_orderly look.now look.plotter⟩
    · intro errand goes
      obtain ⟨delay,next,p',ran,onward⟩ := Look.next?_homing current goes
      exact ⟨next,onward,drives.again ran⟩

/-- The pass that a look among others is taken at. -/
theorem drives_at (followed : Followed first (before ++ look :: after) going)
    (homing : first.operation = .homing begun) (fresh : begun.phase.past = [])
    (alive : begun.phase.isTerminal = false) :
    ∃ pass, look.errand.operation = .homing pass ∧ Drives begun (before.flatMap Look.calls) pass :=
  (followed.split.1.drives homing fresh alive).2 look.errand rfl

theorem careful (followed : Followed first looks going) (previous : Screen) (missing : List Axis)
    (homing : first.operation = .homing (.begun previous missing)) : Careful missing looks := by
  have fresh := Homing.Pass.begun_past previous missing
  have alive : (Homing.Pass.begun previous missing).phase.isTerminal = false := by
    unfold Homing.Pass.begun
    dsimp only
    split <;> rfl
  obtain ⟨orderly,_⟩ := followed.drives homing fresh alive
  constructor
  case real =>
    intro look inside
    obtain ⟨before,after,rfl⟩ := List.append_of_mem inside
    obtain ⟨pass,current,_⟩ := followed.drives_at homing fresh alive
    exact Look.makes_calls current
  case permitted => exact orderly
  case alone =>
    intro before after whole
    rw [whole] at orderly
    exact (Driving.orderly_append.mp orderly).1.driven (Nat.zero_le _)
  case confirmed =>
    rintro before look after rfl pressed
    obtain ⟨pass,current,drives⟩ := followed.drives_at homing fresh alive
    refine ⟨by rw [Look.calls_homing current,pass.calls_confirmed pressed],followed.split.2 ?_⟩
    obtain ⟨outcome,p',ended⟩ := pass.poll_confirmed drives.alive pressed
    exact Look.next?_done current ended
  case completed =>
    intro look inside c homed
    obtain ⟨before,after,rfl⟩ := List.append_of_mem inside
    obtain ⟨pass,current,drives⟩ := followed.drives_at homing fresh alive
    obtain ⟨_,ended⟩ := Look.poll_of_homed current homed
    have last : after = [] := followed.split.2 (Look.next?_done current ended)
    have silent := pass.calls_confirmed (Homing.Pass.confirmed_of_done drives.alive ended)
    have calls : (before ++ look :: after).flatMap Look.calls = before.flatMap Look.calls := by
      simp [last,Look.calls_homing current,silent]
    rw [calls]
    refine ⟨drives.answered,fun axis => ?_⟩
    rw [← Called.motions_filter,drives.past,Homing.Pass.closing_of_done drives.alive ended]
    cases axis <;> decide
  case missing =>
    intro some
    have closing : (Homing.Pass.begun previous missing).phase = .closing (.some (.disconnected missing)) :=
      if_neg some
    have each : ∀ look ∈ looks, look.calls = [] ∧ look.completion? =
        if look.confirmed then .some (.homed (.error (.disconnected missing))) else none := by
      intro look inside
      obtain ⟨before,after,rfl⟩ := List.append_of_mem inside
      obtain ⟨pass,current,drives⟩ := followed.drives_at homing fresh alive
      obtain ⟨rfl,_⟩ := drives.refused _ closing
      obtain ⟨silent,ends⟩ := Homing.Pass.poll_refused closing look.now look.plotter
      rw [Look.calls_homing current,Look.completion?_homing current]
      refine ⟨silent,?_⟩
      unfold Look.confirmed
      split at ends
      next pressed =>
        obtain ⟨_,ended⟩ := ends
        rw [ended,if_pos pressed]
      next unpressed =>
        obtain ⟨_,_,goes⟩ := ends
        rw [goes,if_neg unpressed]
    exact ⟨List.flatMap_eq_nil_iff.mpr fun look inside => (each look inside).1,fun look inside => (each look inside).2⟩

end Followed

/-- The order on which a client begins a homing pass, and nothing else. -/
def homeOnly (previous : Screen) (callback : Told → Script .full μ δ χ) : Script .full μ δ χ :=
  .order (.home rfl previous) callback fun _ => .stop (.ok ())

theorem next_homeOnly {now : Nat} {plotter : Plotter μ δ} {notes : χ} {previous : Screen}
    {callback : Told → Script .full μ δ χ} {shop : Shop .full μ δ χ}
    (made : (opened now plotter notes).next (.script (homeOnly previous callback)) = .ok shop) :
    shop.desk.plotter.motor = plotter.motor ∧ shop.books.accepted = 1 ∧ shop.books.looks = [] ∧
      shop.books.errands =
        [⟨.homing (.begun previous plotter.disconnectedAxes),⟨0,.home rfl previous,callback⟩⟩] := by
  obtain ⟨p',started,still⟩ := Homing.Pass.start_apply previous now plotter
  have placed : (Order.home rfl previous : Order .full).place now plotter =
      .ok (.started (.homing (.begun previous plotter.disconnectedAxes))) p' := by
    simp only [Order.place,bind_apply,started]
    rfl
  simp only [next,homeOnly,Script.run,Request.clock,opened,placed] at made
  cases made
  exact ⟨still,rfl,rfl,rfl⟩

/-- What a shop begins with that is opened for a homing pass. -/
theorem live_homeOnly {now : Nat} {plotter : Plotter μ δ} {notes : χ} {previous : Screen}
    {callback : Told → Script .full μ δ χ} {events : List (Event .full μ δ χ)} {shop : Shop .full μ δ χ}
    (lived : (opened now plotter notes).live (.script (homeOnly previous callback) :: events) = .ok shop) :
    ∃ begun, (opened now plotter notes).next (.script (homeOnly previous callback)) = .ok begun ∧
      begun.live events = .ok shop ∧ begun.books.Sound ∧ begun.books.accepted = 1 ∧ begun.books.looks = [] ∧
      begun.books.Follows ⟨.homing (.begun previous plotter.disconnectedAxes),⟨0,.home rfl previous,callback⟩⟩ 0 := by
  rw [live_cons] at lived
  cases made : (opened now plotter notes).next (.script (homeOnly previous callback)) with
  | error => rw [made] at lived; cases lived
  | ok begun =>
    rw [made] at lived
    obtain ⟨_,accepted,unseen,errands⟩ := next_homeOnly made
    let first : Errand (Ticket .full μ δ χ) :=
      ⟨.homing (.begun previous plotter.disconnectedAxes),⟨0,.home rfl previous,callback⟩⟩
    have sound := (sound_opened now plotter notes).step (books_next made)
    refine ⟨begun,rfl,lived,sound,accepted,unseen,some first,?_,?_⟩
    · simp only [Books.looksAt,unseen]
      exact .begun
    · intro errand inside _
      rw [errands] at inside
      rw [List.mem_singleton.mp inside]

/-- A homing pass and its motors, whatever they answer, whatever becomes of them in the meantime and whenever
the button is pressed. The order leaves the motors alone, and all holds too with whatever look comes next, also
if that one leaves the range of positions. -/
theorem homing_pass_is_careful (now : Nat) (plotter : Plotter μ δ) (notes : χ) (previous : Screen)
    (callback : Told → Script .full μ δ χ) (events : List (Event .full μ δ χ)) (shop : Shop .full μ δ χ)
    (lived : (opened now plotter notes).live (.script (homeOnly previous callback) :: events) = .ok shop) :
    let missing := [Axis.tool,.x,.y].filter fun axis => !Motor.connected (plotter.motor axis)
    let looks := shop.books.looksAt 0
    (∀ begun, (opened now plotter notes).next (.script (homeOnly previous callback)) = .ok begun →
      begun.desk.plotter.motor = plotter.motor) ∧
    Careful missing looks ∧
      ∀ errand ∈ shop.books.errands, errand.next.number = 0 →
        ∀ now p, Careful missing (looks ++ [⟨errand,now,p⟩]) := by
  intro missing looks
  refine ⟨fun _ made => (next_homeOnly made).1,?_⟩
  obtain ⟨begun,_,lived,sound,accepted,_,follows⟩ := live_homeOnly lived
  obtain ⟨going,followed,waits⟩ := follows_live follows sound (by omega) lived
  refine ⟨followed.careful previous missing rfl,?_⟩
  intro errand inside number now p
  obtain rfl := waits errand inside number
  have further : Followed _ (looks ++ [(⟨errand,now,p⟩ : Look .full μ δ χ)]) _ := followed.looked
  exact further.careful previous missing rfl

/-- A pass whose motors stall at 1000, 2000 and 3000 and whose results are dismissed. -/
theorem stalled_pass_is_careful :
    let still : Plotter Motor.Recorded Journal := { tool := {}, x := {}, y := {}, display := {} }
    let stuck : Plotter Motor.Recorded Journal := { still with
      tool := stalledAt { ticks := 1000 }
      x := stalledAt { ticks := 2000 }
      y := stalledAt { ticks := 3000 } }
    ∃ shop : Shop .full Motor.Recorded Journal Unit,
      (opened 0 still ()).live (.script (homeOnly (.menu "main menu") fun _ => .stop (.ok ())) ::
        [.turn,.world stuck,.turn,.turn,.turn,.turn,.turn,.turn,.turn,.turn,
          .world { still with display := { presses := 1 } },.turn]) = .ok shop ∧
      shop.books.calls = [0] ∧ (shop.books.looksAt 0).flatMap Look.calls ≠ [] ∧ Careful [] (shop.books.looksAt 0) := by
  intro still stuck
  obtain ⟨shop,lived,told⟩ := exists_ok
    (f := fun shop : Shop .full Motor.Recorded Journal Unit =>
      (shop.books.calls,((shop.books.looksAt 0).flatMap Look.calls).length))
    (show Option.map _ ((opened 0 still ()).live (.script (homeOnly (.menu "main menu") fun _ => .stop (.ok ())) ::
        [.turn,.world stuck,.turn,.turn,.turn,.turn,.turn,.turn,.turn,.turn,
          .world { still with display := { presses := 1 } },.turn])).toOption = some ([0],39) by
      decide +kernel)
  simp only [Prod.mk.injEq] at told
  refine ⟨shop,lived,told.1,?_,(homing_pass_is_careful 0 still () _ _ _ shop lived).2.1⟩
  intro none
  simp [none] at told

end Shop
end PenPlotter
