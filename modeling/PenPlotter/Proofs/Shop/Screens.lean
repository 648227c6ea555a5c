import PenPlotter.Proofs.Homing.Screens
import PenPlotter.Proofs.Shop.Clock
import PenPlotter.Proofs.Shop.MotorSafety

/-! The screens of a homing pass in a shop. As long as nobody else writes to the display, it tells at every moment which
leg the pass has started last, then what it has recorded, and at last the screen from before. -/

namespace PenPlotter.Shop

variable {access : Access} {μ δ χ : Type} [Motor μ] [Display δ]

/-- A look at an operation that goes on or is broken off is all that its event does to the plotter. -/
theorem look_leaves {shop after : Shop access μ δ χ} {event : Event access μ δ χ} (made : shop.next event = .ok after)
    {look : Look access μ δ χ} (latest : after.books.looks = look :: shop.books.looks) :
    look.plotter = shop.desk.plotter ∧
      (∀ delay operation p', look.result = .ok (.again delay operation) p' → after.desk.plotter = p') ∧
      ∀ reason p', look.result = .error reason p' → after.desk.plotter = p' := by
  obtain ⟨task,rest,first,rfl,acts,_⟩ := look_next made latest
  obtain ⟨_,desk,_⟩ := next_turn first made
  rw [acts] at desk
  have looked := looks_perform look.errand
    ⟨(shop.schedule.taken task rest).now,(shop.schedule.taken task rest).size⟩ shop.desk
  have whole := perform_errand look.errand
    ⟨(shop.schedule.taken task rest).now,(shop.schedule.taken task rest).size⟩ { context := shop.desk }
  unfold books at latest
  rw [desk,looked] at latest
  obtain ⟨same,_⟩ := List.cons.inj latest
  simp only [same] at whole
  refine ⟨by rw [← same],?_,?_⟩
  · intro delay operation p' result
    simp only [result] at whole
    rw [desk,left_of_ok whole]
    rfl
  · intro reason p' result
    simp only [result] at whole
    rw [desk,left_of_error whole]
    rfl

/-- Events throughout which nobody but an operation writes to the display: one that takes no look at it keeps all
screens. -/
def Unwritten (n : Nat) (shop : Shop access μ Journal χ) : List (Event access μ Journal χ) → Prop
  | [] => True
  | event :: events => ∀ after ∈ (shop.next event).toOption,
    ((after.books.looksAt n).length = (shop.books.looksAt n).length →
      after.desk.plotter.display.screens = shop.desk.plotter.display.screens) ∧ after.Unwritten n events

instance decidableUnwritten (n : Nat) (shop : Shop access μ Journal χ) :
    (events : List (Event access μ Journal χ)) → Decidable (shop.Unwritten n events)
  | [] => .isTrue trivial
  | event :: events =>
    have (after : Shop access μ Journal χ) := decidableUnwritten n after events
    inferInstanceAs (Decidable (∀ after ∈ (shop.next event).toOption,
      ((after.books.looksAt n).length = (shop.books.looksAt n).length →
        after.desk.plotter.display.screens = shop.desk.plotter.display.screens) ∧ after.Unwritten n events))

section Screens

variable {shop after : Shop access μ Journal χ} {events : List (Event access μ Journal χ)}
variable {event : Event access μ Journal χ} {first errand : Errand (Ticket access μ Journal χ)}
variable {look : Look access μ Journal χ} {n : Nat} {previous : Screen}

open Homing in
/-- What the display shows of a pass. -/
inductive Posted (n : Nat) (previous : Screen) (first : Errand (Ticket access μ Journal χ))
    (shop : Shop access μ Journal χ) : Prop where
  | going (errand : Errand (Ticket access μ Journal χ)) (pass : Pass) :
      Followed first (shop.books.looksAt n) (some errand) → errand.operation = .homing pass →
      pass.previous = previous → pass.Shows ((shop.books.looksAt n).flatMap Look.calls) shop.desk.plotter →
      Posted n previous first shop
  | broken (before : List (Look access μ Journal χ)) (look : Look access μ Journal χ) (reason : Failure)
      (p' : Plotter μ Journal) (leg : Leg) :
      shop.books.looksAt n = before ++ [look] → look.result = .error reason p' →
      LastStarted .toolUp ((shop.books.looksAt n).flatMap Look.calls) leg → shop.desk.plotter.Names leg →
      Posted n previous first shop
  | ended (before : List (Look access μ Journal χ)) (look : Look access μ Journal χ)
      (outcome : Except Fault Calibration) (p' : Plotter μ Journal) :
      shop.books.looksAt n = before ++ [look] → look.result = .ok (.done (.homed outcome)) p' →
      p'.display.current = some previous → Posted n previous first shop

/-- An event without a look at the pass leaves everything as it is shown. -/
theorem Posted.unlooked (posted : shop.Posted n previous first) (same : after.books.looksAt n = shop.books.looksAt n)
    (screens : after.desk.plotter.display.screens = shop.desk.plotter.display.screens) :
    after.Posted n previous first := by
  cases posted with
  | going errand pass followed homing back shows =>
    refine .going errand pass (same ▸ followed) homing back ?_
    rw [same]
    exact (Homing.Pass.shows_congr screens).mpr shows
  | broken before look reason p' leg looks result last names =>
    refine .broken before look reason p' leg (same ▸ looks) result ?_ ((Plotter.names_congr screens).mpr names)
    rw [same]
    exact last
  | ended before look outcome p' looks result back => exact .ended before look outcome p' (same ▸ looks) result back

/-- A look at the pass shows what it does. -/
theorem Posted.looked (posted : shop.Posted n previous first) (follows : after.books.Follows first n)
    (made : shop.next event = .ok after) (latest : after.books.looks = look :: shop.books.looks)
    (number : look.number = n) : after.Posted n previous first := by
  have grown : after.books.looksAt n = shop.books.looksAt n ++ [look] := by
    rw [Books.looksAt_cons latest,if_pos number]
  obtain ⟨going,followed,_⟩ := follows
  have whole := followed
  rw [grown] at followed
  obtain ⟨here,rfl⟩ := followed.last
  obtain ⟨plotter,again,broken⟩ := look_leaves made latest
  cases posted with
  | broken before last reason p' leg looks result =>
    rw [looks] at here
    have ended := here.last.2
    simp [Look.next?,result] at ended
  | ended before last outcome p' looks result =>
    rw [looks] at here
    have ended := here.last.2
    simp [Look.next?,result] at ended
  | going errand pass waits homing back shows =>
    obtain rfl := Option.some.inj (waits.unique here)
    rw [← plotter] at shows
    have result := Operation.poll_homing pass look.now look.plotter
    rw [← homing] at result
    have calls : (after.books.looksAt n).flatMap Look.calls =
        (shop.books.looksAt n).flatMap Look.calls ++ pass.calls look.now look.plotter := by
      rw [grown]
      simp [Look.calls_homing homing]
    cases ran : pass.poll look.now look.plotter with
    | error reason p' =>
      rw [ran] at result
      obtain ⟨leg,last,names⟩ := shows.broken ran
      rw [← calls] at last
      exact .broken _ look reason p' leg grown result last (broken reason p' result ▸ names)
    | ok progress p' =>
      rw [ran] at result
      rcases shows.look ran with ⟨outcome,rfl,restored⟩ | ⟨delay,next,rfl,same,after_⟩
      · exact .ended _ look outcome p' grown result (back ▸ restored)
      · have onward : look.next? = some { look.errand with operation := .homing next } := by
          unfold Look.next? Look.result
          rw [result]
          rfl
        rw [onward] at whole
        rw [← calls] at after_
        refine .going _ next whole rfl (same.trans back) ?_
        rw [again _ _ _ result]
        exact after_

theorem Posted.next (posted : shop.Posted n previous first) (follows : after.books.Follows first n)
    (made : shop.next event = .ok after)
    (unwritten : (after.books.looksAt n).length = (shop.books.looksAt n).length →
      after.desk.plotter.display.screens = shop.desk.plotter.display.screens) : after.Posted n previous first := by
  rcases (books_next made).looks with same | ⟨look,latest⟩
  · have same : after.books.looksAt n = shop.books.looksAt n := by simp only [Books.looksAt,same]
    exact posted.unlooked same (unwritten (congrArg List.length same))
  by_cases number : look.number = n
  · exact posted.looked follows made latest number
  · have same : after.books.looksAt n = shop.books.looksAt n := by
      rw [Books.looksAt_cons latest,if_neg number,List.append_nil]
    exact posted.unlooked same (unwritten (congrArg List.length same))

theorem posted_live (posted : shop.Posted n previous first) (sound : shop.books.Sound) (accepted : n < shop.books.accepted)
    (follows : shop.books.Follows first n) (unwritten : shop.Unwritten n events) (lived : shop.live events = .ok after) :
    after.Posted n previous first := by
  induction events generalizing shop with
  | nil =>
    cases lived
    exact posted
  | cons event events ih =>
    rw [live_cons] at lived
    cases made : shop.next event with
    | error => rw [made] at lived; cases lived
    | ok between =>
      rw [made] at lived
      obtain ⟨kept,unwritten⟩ := unwritten between (by rw [made]; rfl)
      have step := books_next made
      have follows := follows.step sound accepted step
      exact ih (posted.next follows made kept) (sound.step step) (Nat.lt_of_lt_of_le accepted step.accepted) follows
        unwritten lived

/-- A pass that waits for its results to be dismissed completes with what it has recorded, whatever happens. -/
theorem results_received (sound : shop.books.Sound) (accepted : n < shop.books.accepted)
    (follows : shop.books.Follows first n) (waits : Followed first (shop.books.looksAt n) (some errand))
    {pass : Homing.Pass} (homing : errand.operation = .homing pass) (closing : pass.phase = .closing none)
    (lived : shop.live events = .ok after) :
    ∀ look ∈ after.books.looksAt n, ∀ c, look.completion? = some (.homed (.ok c)) → c = pass.recorded := by
  have kept := live_preserves (P := fun shop : Shop access μ Journal χ => shop.books.Sound ∧ n < shop.books.accepted ∧
    shop.books.Follows first n ∧
    (∀ look ∈ shop.books.looksAt n, ∀ c, look.completion? = some (.homed (.ok c)) → c = pass.recorded) ∧
    ∀ errand, Followed first (shop.books.looksAt n) (some errand) → errand.operation = .homing pass) ?_ ?_ lived
  · exact kept.2.2.2.1
  · rintro shop event after ⟨sound,accepted,follows,received,still⟩ made
    have step := books_next made
    have onward := follows.step sound accepted step
    refine ⟨sound.step step,Nat.lt_of_lt_of_le accepted step.accepted,onward,?_⟩
    rcases step.looks with same | ⟨look,latest⟩
    · rw [show after.books.looksAt n = shop.books.looksAt n by simp only [Books.looksAt,same]]
      exact ⟨received,still⟩
    rw [Books.looksAt_cons latest]
    by_cases number : look.number = n
    · rw [if_pos number]
      obtain ⟨going,followed,_⟩ := onward
      rw [Books.looksAt_cons latest,if_pos number] at followed
      have here := still look.errand followed.last.1
      have ends := Homing.Pass.poll_closing closing look.now look.plotter
      constructor
      · intro other inside c homed
        rcases List.mem_append.mp inside with earlier | last
        · exact received other earlier c homed
        · rw [List.mem_singleton.mp last,Look.completion?_homing here] at homed
          split at ends
          · obtain ⟨_,ended,_⟩ := ends
            rw [ended] at homed
            cases homed
            rfl
          · obtain ⟨_,_,goes,_⟩ := ends
            rw [goes] at homed
            cases homed
      · intro errand waits
        obtain ⟨delay,next,p',ran,operation⟩ := Look.next?_homing here waits.last.2.symm
        split at ends
        · obtain ⟨_,ended,_⟩ := ends
          rw [ended] at ran
          cases ran
        · obtain ⟨_,_,goes,_⟩ := ends
          rw [goes] at ran
          cases ran
          exact operation
    · rw [if_neg number,List.append_nil]
      exact ⟨received,still⟩
  · refine ⟨sound,accepted,follows,?_,?_⟩
    · intro look inside c homed
      rw [Look.completion?_of_next? (waits.goes_on look inside)] at homed
      cases homed
    · intro other waiting
      obtain rfl := Option.some.inj (waits.unique waiting)
      exact homing

end Screens

open Homing in
/-- Where a homing pass stands that was begun with all motors plugged in, and what its display shows there. -/
inductive Displays (n : Nat) (previous : Screen) (shop : Shop access μ Journal χ) : Prop where
  /-- Its results were not shown yet: the message names the leg that was started last, the first one before any. -/
  | running (errand : Errand (Ticket access μ Journal χ)) (pass : Pass) (leg : Leg) :
      errand ∈ shop.books.errands → errand.next.number = n → errand.operation = .homing pass →
      pass.phase.cancellable = true → shop.books.calls.count n = 0 →
      LastStarted .toolUp ((shop.books.looksAt n).flatMap Look.calls) leg →
      shop.desk.plotter.display.current = some (.message ⟨"Homing, please wait...",leg.progress,.stop⟩) →
      Displays n previous shop
  /-- A device has broken it off: nothing waits any more, and the message is as it was. -/
  | brokenOff (look : Look access μ Journal χ) (reason : Failure) (p' : Plotter μ Journal) (leg : Leg) :
      shop.books.last? n = some look → look.result = .error reason p' → reason.OfDevice →
      (∀ errand ∈ shop.books.errands, errand.next.number ≠ n) → shop.books.calls.count n = 0 →
      LastStarted .toolUp ((shop.books.looksAt n).flatMap Look.calls) leg →
      shop.desk.plotter.display.current = some (.message ⟨"Homing, please wait...",leg.progress,.stop⟩) →
      Displays n previous shop
  /-- Its results are shown, and whatever happens a success that its callback is told of is one with these. -/
  | results (errand : Errand (Ticket access μ Journal χ)) (pass : Pass) :
      errand ∈ shop.books.errands → errand.next.number = n → errand.operation = .homing pass →
      pass.phase = .closing none → shop.books.calls.count n = 0 →
      shop.desk.plotter.display.current = some (.message ⟨"Homing results:",pass.recorded.report,.exit⟩) →
      (∀ events later, shop.live events = .ok later → ∀ look ∈ later.books.looksAt n, ∀ c,
        look.completion? = some (.homed (.ok c)) → c = pass.recorded) → Displays n previous shop
  /-- Its callback was called, with limits or with a fault, on a plotter that showed the screen from before. -/
  | ended (look : Look access μ Journal χ) (outcome : Except Fault Calibration) (p' : Plotter μ Journal) :
      shop.books.last? n = some look → look.result = .ok (.done (.homed outcome)) p' → shop.books.calls.count n = 1 →
      p'.display.current = some previous → Displays n previous shop

theorem Posted.displays {shop : Shop access μ Journal χ} {first : Errand (Ticket access μ Journal χ)} {n : Nat}
    {previous : Screen} (posted : shop.Posted n previous first) (sound : shop.books.Sound)
    (accepted : n < shop.books.accepted) (follows : shop.books.Follows first n) : shop.Displays n previous := by
  have calls := sound.calls n
  rw [shop.books.last?_eq_getLast? n] at calls
  obtain ⟨going,followed,waits⟩ := id follows
  cases posted with
  | going errand pass waiting homing back shows =>
    have goes : ((shop.books.looksAt n).getLast?.all fun look => look.next?.isSome) = true := by
      cases last : (shop.books.looksAt n).getLast? with
      | none => rfl
      | some look => exact waiting.goes_on look (List.mem_of_getLast? last)
    have uncalled : shop.books.calls.count n = 0 := by
      cases last : (shop.books.looksAt n).getLast? with
      | none => simpa [last] using calls
      | some look =>
        rw [last] at goes
        simpa [last,Look.completion?_of_next? goes] using calls
    obtain ⟨other,inside,number⟩ := sound.queued_iff.mpr ⟨accepted,by rwa [shop.books.last?_eq_getLast? n]⟩
    obtain rfl := Option.some.inj ((waiting.unique followed).trans (waits other inside number))
    rcases shows with ⟨open_,leg,last,names⟩ | ⟨closing,shown⟩
    · exact .running errand pass leg inside number homing open_ uncalled last names
    · refine .results errand pass inside number homing closing uncalled shown fun events later lived => ?_
      exact results_received sound accepted follows waiting homing closing lived
  | broken before look reason p' leg looks result last names =>
    rw [looks] at followed calls
    have ended : look.next? = none := by simp [Look.next?,result]
    have incomplete : look.completion? = none := by simp [Look.completion?,result]
    have latest : shop.books.last? n = some look := by simp [shop.books.last?_eq_getLast?,looks]
    have device := (sound.seen look (Books.last?_eq_some latest).1).2 reason p' result
    refine .brokenOff look reason p' leg latest result device ?_ (by simpa [incomplete] using calls) last names
    intro errand inside number
    have none := waits errand inside number
    rw [followed.last.2,ended] at none
    cases none
  | ended before look outcome p' looks result back =>
    have complete : look.completion? = some (.homed outcome) := by simp [Look.completion?,result]
    have latest : shop.books.last? n = some look := by simp [shop.books.last?_eq_getLast?,looks]
    rw [looks] at calls
    exact .ended look outcome p' latest result (by simpa [complete] using calls) back

/-- A homing pass that is begun with all motors plugged in, whatever they answer and whenever the button is pressed. As
long as nobody else writes to the display, it shows after every event where the pass stands. -/
theorem homing_screens_tell_the_truth (now : Nat) (plotter : Plotter μ Journal) (notes : χ) (previous : Screen)
    (callback : Told → Script .full μ Journal χ) (events : List (Event .full μ Journal χ)) (shop : Shop .full μ Journal χ)
    (connected : plotter.disconnectedAxes = [])
    (unwritten : ∀ begun, (opened now plotter notes).next (.script (homeOnly previous callback)) = .ok begun →
      begun.Unwritten 0 events)
    (lived : (opened now plotter notes).live (.script (homeOnly previous callback) :: events) = .ok shop) :
    shop.Displays 0 previous := by
  obtain ⟨begun,made,lived,sound,accepted,unseen,follows⟩ := live_homeOnly lived
  have none : begun.books.looksAt 0 = [] := by simp only [Books.looksAt,unseen,List.filter_nil,List.reverse_nil]
  have shown : begun.desk.plotter.Names .toolUp := by
    simp only [next,homeOnly,Script.run,Request.clock,opened,Order.place,bind_apply,Homing.Pass.start,Plotter.get_apply,
      connected] at made
    cases made
    rfl
  let first : Errand (Ticket .full μ Journal χ) :=
    ⟨.homing (.begun previous plotter.disconnectedAxes),⟨0,.home rfl previous,callback⟩⟩
  have posted : begun.Posted 0 previous first := by
    refine .going first (.begun previous plotter.disconnectedAxes) ?_ rfl rfl ?_
    · rw [none]
      exact .begun
    · rw [none,connected]
      exact .inl ⟨rfl,.toolUp,.none (by simp),shown⟩
  have sound' := sound_live sound lived
  have follows' := follows_live follows sound (by omega) lived
  have accepted' : 0 < shop.books.accepted :=
    live_preserves (P := fun shop : Shop .full μ Journal χ => 0 < shop.books.accepted)
      (fun _ _ _ before made => Nat.lt_of_lt_of_le before (books_next made).accepted) (by omega) lived
  exact (posted_live posted sound (by omega) follows (unwritten begun made) lived).displays sound' accepted' follows'

/-- A pass whose motors stall at 1000, 2000 and 3000, up to its results. -/
theorem stalled_pass_shows_its_limits :
    let still : Plotter Motor.Recorded Journal := { tool := {}, x := {}, y := {}, display := {} }
    let stuck : Plotter Motor.Recorded Journal := { still with
      tool := stalledAt { ticks := 1000 }
      x := stalledAt { ticks := 2000 }
      y := stalledAt { ticks := 3000 }
      display := { screens := [
        .message ⟨"Homing, please wait...","Step 1 of 6: tool up\nPress 'ok' to stop.",.stop⟩] } }
    let events : List (Event .full Motor.Recorded Journal Unit) :=
      [.turn,.world stuck,.turn,.turn,.turn,.turn,.turn,.turn,.turn,.turn]
    ∃ shop : Shop .full Motor.Recorded Journal Unit,
      (opened 0 still ()).live (.script (homeOnly (.menu "main menu") fun _ => .stop (.ok ())) :: events) = .ok shop ∧
        shop.Displays 0 (.menu "main menu") ∧
        shop.desk.plotter.display.texts = ["Step 2 of 6: x min (left)\nPress 'ok' to stop.",
          "Step 3 of 6: x max (right)\nPress 'ok' to stop.","Step 4 of 6: y min\nPress 'ok' to stop.",
          "Step 5 of 6: y max\nPress 'ok' to stop.","Step 6 of 6: tool down\nPress 'ok' to stop."] ∧
        shop.desk.plotter.display.current = some (.message ⟨"Homing results:",
          "X: [1970, 2030]-> 60\nY: [3350, 2970]-> 380\nTool: [1020, 985]-> 35\n",.exit⟩) := by
  intro still stuck events
  obtain ⟨shop,lived,shown⟩ := exists_ok (f := fun shop : Shop .full Motor.Recorded Journal Unit =>
      (shop.desk.plotter.display.texts,shop.desk.plotter.display.current))
    (show Option.map _ ((opened 0 still ()).live
        (.script (homeOnly (.menu "main menu") fun _ => .stop (.ok ())) :: events)).toOption =
        some (["Step 2 of 6: x min (left)\nPress 'ok' to stop.",
          "Step 3 of 6: x max (right)\nPress 'ok' to stop.","Step 4 of 6: y min\nPress 'ok' to stop.",
          "Step 5 of 6: y max\nPress 'ok' to stop.","Step 6 of 6: tool down\nPress 'ok' to stop."],
          some (.message ⟨"Homing results:",
            "X: [1970, 2030]-> 60\nY: [3350, 2970]-> 380\nTool: [1020, 985]-> 35\n",.exit⟩)) by
      decide +kernel)
  obtain ⟨texts,shown⟩ := Prod.mk.inj shown
  refine ⟨shop,lived,?_,texts,shown⟩
  refine homing_screens_tell_the_truth 0 still () _ _ events shop (by decide) ?_ lived
  intro begun made
  have unwritten : ∀ begun ∈ ((opened 0 still ()).next
      (.script (homeOnly (.menu "main menu") fun _ => .stop (.ok ())))).toOption, begun.Unwritten 0 events := by
    decide +kernel
  exact unwritten begun (by rw [made]; rfl)

end PenPlotter.Shop
