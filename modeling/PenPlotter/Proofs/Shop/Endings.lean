import PenPlotter.Proofs.Shop.LifeCycle
import PenPlotter.Proofs.Shop.MotorSafety

/-! How a homing pass ends that has begun. Unless it was refused for want of a motor it completes with a
calibration or because it is cancelled, or a device breaks it off. What has ended is left alone from then on. -/

namespace PenPlotter

namespace Homing

/-- A pass that found a motor missing when it was ordered only shows that. -/
def Phase.refuses : Phase → Bool
  | .closing (some _) => true
  | _ => false

namespace Phase.Step

variable {phase next : Phase} {seen : Observation} {effects : List Effect} {fault : Fault}

theorem refuses (step : phase.Step seen next effects) (going : next.isTerminal = false) :
    next.refuses = phase.refuses := by
  cases step with
  | dismissed | refused | cancelled => cases going
  | @stalled _ leg => cases leg <;> rfl
  | _ => rfl

theorem failed (step : phase.Step seen next [.restoreScreen,.fail fault]) :
    phase.refuses = true ∨ fault = .homingCancelled := by
  cases step with
  | refused => exact .inl rfl
  | cancelled => exact .inr rfl

end Phase.Step

variable {μ δ : Type} [Motor μ] [Display δ]

theorem Pass.cancelled_of_done {pass : Pass} {now : Nat} {p p' : Plotter μ δ} {fault : Fault}
    (alive : pass.phase.isTerminal = false) (ran : pass.poll now p = .ok (.done (.error fault)) p') :
    pass.phase.refuses = true ∨ fault = .homingCancelled := by
  obtain ⟨phase,effects,step,made⟩ := poll_ok ran
  rcases step.ending alive with ⟨_,ending,isEnding,rfl⟩ | ⟨going,none⟩
  · cases ending with
    | fail => cases made; exact step.failed
    | complete => cases made
    | _ => cases isEnding
  · have outcome := (addAll_going none p.motion.spinUp ⟨pass.recorded,p.motion.homingPoll,.none⟩).1
    simp [progress,outcome,going] at made

end Homing

namespace Operation

def refuses : Operation → Bool
  | .homing pass => pass.phase.refuses
  | .move _ => false

variable {μ δ : Type} [Motor μ] [Display δ]

theorem poll_again {operation next : Operation} {now delay : Nat} {p p' : Plotter μ δ}
    (ran : operation.poll now p = .ok (.again delay next) p') :
    next.isHoming = operation.isHoming ∧ next.refuses = operation.refuses := by
  cases operation with
  | homing pass =>
    rw [poll_homing] at ran
    cases looked : pass.poll now p with
    | error => simp [looked] at ran
    | ok progress q =>
      cases progress with
      | done | dropped => simp [looked,ofPass] at ran
      | again delay after =>
        simp only [looked] at ran
        cases ran
        obtain ⟨phase,effects,step,made⟩ := Homing.Pass.poll_ok looked
        obtain ⟨same,going⟩ := Homing.Pass.progress_again made.symm
        exact ⟨rfl,(congrArg Homing.Phase.refuses same).trans (step.refuses going)⟩
  | move targets =>
    rw [poll_move] at ran
    cases looked : targets.poll now p with
    | error => simp [looked] at ran
    | ok progress q =>
      cases progress with
      | done | dropped => simp [looked,ofMove] at ran
      | again =>
        simp only [looked] at ran
        cases ran
        exact ⟨rfl,rfl⟩

end Operation

namespace Shop

variable {access : Access} {μ δ χ : Type} [Motor μ] [Display δ]

/-- The ways in which a homing pass ends that was not refused. -/
def Look.Ends (b : Books access μ δ χ) (look : Look access μ δ χ) : Prop :=
  look.homed?.isSome = true ∨ look.completion? = some (.homed (.error .homingCancelled)) ∨
    b.Stands look.number .lost

namespace Followed

variable {first : Errand (Ticket access μ δ χ)} {before after : List (Look access μ δ χ)}
variable {look : Look access μ δ χ} {going : Option (Errand (Ticket access μ δ χ))}

/-- The kind of an operation stays the same, and so does whether it is refused. -/
theorem kept {errand : Errand (Ticket access μ δ χ)} (followed : Followed first before (some errand)) :
    errand.operation.isHoming = first.operation.isHoming ∧ errand.operation.refuses = first.operation.refuses := by
  refine (followed.iff (P := fun errand => errand.operation.isHoming = first.operation.isHoming ∧
    errand.operation.refuses = first.operation.refuses) ?_).mpr ⟨rfl,rfl⟩
  intro look next goes
  obtain ⟨_,_,_,made,rfl⟩ := Look.next?_eq_some goes
  obtain ⟨kind,refuses⟩ := Operation.poll_again made
  rw [kind,refuses]

end Followed

namespace Books

variable {b : Books access μ δ χ} {look other : Look access μ δ χ}

omit [Motor μ] [Display δ] in
theorem last?_eq_some_iff {n : Nat} : b.last? n = some look ↔ ∃ before, b.looksAt n = before ++ [look] := by
  unfold last?
  rw [← List.head?_filter,looksAt,← List.getLast?_eq_some_iff,List.getLast?_reverse]

/-- What the last look at a homing pass has come to. -/
theorem Sound.ended (sound : b.Sound) (latest : b.last? look.number = some look)
    (homing : look.errand.operation.isHoming = true) (accepted : look.errand.operation.refuses = false) :
    look.next?.isSome = true ∨ look.Ends b := by
  obtain ⟨⟨readings,known⟩,_⟩ := sound.seen look (last?_eq_some latest).1
  have stands := sound.stands_looked latest
  cases made : look.result with
  | error reason p' =>
    simp only [made] at stands
    exact .inr (.inr (.inr stands))
  | ok progress p' =>
    cases Operation.poll_ok known.measured made with
    | again => exact .inl (by simp [Look.next?,made])
    | dropped _ move | arrived _ move => simp [move,Operation.isHoming] at homing
    | homed => exact .inr (.inl (by simp [Look.homed?,Look.completion?,made]))
    | @failed fault pass which =>
      have ended : look.completion? = some (.homed (.error fault)) := by simp [Look.completion?,made]
      have measured := known.measured
      rw [which] at accepted measured
      obtain ⟨_,ran⟩ := Look.poll_of_homed which ended
      rcases Homing.Pass.cancelled_of_done measured.alive ran with refused | rfl
      · cases refused.symm.trans accepted
      · exact .inr (.inr (.inl ended))

/-- A homing pass that was not refused has ended once nothing is homing. -/
theorem Sound.pass_ends (sound : b.Sound) (rowed : b.Rowed)
    (idle : ∀ errand ∈ b.errands, errand.operation.isHoming = false) (inside : look ∈ b.looks)
    (homing : look.errand.operation.isHoming = true) (accepted : look.errand.operation.refuses = false) :
    ∃ last, b.last? look.number = some last ∧ last.number = look.number ∧ last.Ends b := by
  obtain ⟨first,going,followed,waits⟩ := rowed look.number (sound.past look inside)
  obtain ⟨last,latest⟩ : ∃ last, b.last? look.number = some last := by
    refine Option.isSome_iff_exists.mp (List.find?_isSome.mpr ⟨look,inside,by simp⟩)
  obtain ⟨_,number⟩ := last?_eq_some latest
  refine ⟨last,latest,number,?_⟩
  -- All looks at the pass agree about its kind with the first errand, and so does what waits.
  have among : look ∈ b.looksAt look.number := by simp [looksAt,inside]
  obtain ⟨earlier,later,split⟩ := List.append_of_mem among
  have here := (split ▸ followed).split.1.kept
  obtain ⟨before,whole⟩ := last?_eq_some_iff.mp latest
  have there := (whole ▸ followed).last.1.kept
  rw [homing,accepted] at here
  rw [← number] at latest
  refine (sound.ended latest (there.1.trans here.1.symm) (there.2.trans here.2.symm)).resolve_left ?_
  intro goes
  obtain ⟨errand,queued,same⟩ := sound.queued_iff.mpr ⟨sound.past look inside,by rw [← number,latest]; exact goes⟩
  obtain rfl := waits errand queued same
  have kind := followed.kept.1
  rw [idle errand queued,← here.1] at kind
  cases kind

end Books
/-- An operation that has no task any more is looked at no more, and its callback is not called again. -/
theorem over_live {shop later : Shop access μ δ χ} {events : List (Event access μ δ χ)} {n : Nat}
    (sound : shop.books.Sound) (accepted : n < shop.books.accepted) (idle : shop.books.tasks n = 0)
    (lived : shop.live events = .ok later) :
    later.books.looksAt n = shop.books.looksAt n ∧ later.books.calls.count n = shop.books.calls.count n := by
  have kept := live_preserves (P := fun now : Shop access μ δ χ => now.books.Sound ∧ n < now.books.accepted ∧
    now.books.tasks n = 0 ∧ now.books.looksAt n = shop.books.looksAt n ∧
      now.books.calls.count n = shop.books.calls.count n) ?_ ⟨sound,accepted,idle,rfl,rfl⟩ lived
  · exact kept.2.2.2
  rintro now event after ⟨sound,accepted,idle,looks,calls⟩ made
  have step := books_next made
  have elsewhere (look : Look access μ δ χ) (looked : after.books.looks = look :: now.books.looks) :
      look.number ≠ n := by
    rintro rfl
    have live := (sound.live_of_looked step looked).1
    omega
  have agree := step.agree accepted elsewhere
  refine ⟨sound.step step,Nat.lt_of_lt_of_le accepted step.accepted,agree.tasks.trans idle,?_,agree.calls.trans calls⟩
  rcases step.looks with same | ⟨look,looked⟩
  · rw [← looks]
    simp only [Books.looksAt,same]
  · rw [Books.looksAt_cons looked,if_neg (elsewhere look looked),List.append_nil,looks]

end Shop
end PenPlotter
