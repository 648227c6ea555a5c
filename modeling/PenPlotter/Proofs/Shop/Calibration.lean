import PenPlotter.Display.Journal
import PenPlotter.Motor.Recorded
import PenPlotter.Proofs.Shop.Sound

/-! The calibration in the hands of a client that only dispatches commands. It changes at the look at
which a homing pass completes, and then all of it comes from the stalls that looks at that pass have
found. -/

namespace PenPlotter.Shop

variable {μ δ χ : Type} [Motor μ] [Display δ]

/-- The calibration of a homing pass that completes successfully at a look. -/
def Look.homed? (look : Look access μ δ χ) : Option Calibration :=
  match look.completion? with
  | some (.homed (.ok c)) => some c
  | _ => none

theorem Look.homed?_eq_some {access : Access} {look : Look access μ δ χ} {c : Calibration}
    (homed : look.homed? = some c) : look.completion? = some (.homed (.ok c)) := by
  unfold Look.homed? at homed
  split at homed
  next ended =>
    cases homed
    exact ended
  · cases homed

namespace Books

variable {access : Access} {before after : Books access μ δ χ} {new waiting : Errands access μ δ χ}
variable {look : Look access μ δ χ} {c : Calibration}

theorem took_calibration (b : Books access μ δ χ) (look : Look access μ δ χ) (waiting : Errands access μ δ χ) :
    (b.took look waiting).calibration = look.homed?.or b.calibration := by
  unfold took Look.homed?
  cases look.completion? with
  | none => rfl
  | some completion =>
    cases completion with
    | arrived => rfl
    | homed outcome => cases outcome <;> rfl

/-- A calibration comes from a pass that was ordered, and from all that this pass has read. -/
theorem Sound.homed (sound : before.Sound) (queued : before.errands.Perm (look.errand :: waiting))
    (homed : look.homed? = some c) : look.errand.next.order.isHoming = true ∧
      c.ReadFrom ((before.took look waiting).readings look.number) := by
  have known : Fits (before.readings look.number) look.errand :=
    sound.fits look.errand (queued.mem_iff.mpr (by simp))
  obtain ⟨p',ran⟩ := Look.completion?_eq_some (Look.homed?_eq_some homed)
  cases Operation.poll_ok known.measured ran with
  | homed readFrom homing =>
    refine ⟨by rw [← known.kind,homing]; rfl,?_⟩
    rw [readings_took]
    simp only [↓reduceIte]
    exact readFrom

/-- The look at which a homing pass completed successfully that was the last to do so. -/
def calibrator? (b : Books access μ δ χ) : Option (Look access μ δ χ) :=
  b.looks.find? fun look => look.homed?.isSome

/-- The calibration is that of the pass that was the last to complete successfully, and it comes from the
stalls that looks at that pass have found. -/
def Backed (b : Books access μ δ χ) : Prop :=
  match b.calibrator? with
  | none => b.calibration = none
  | some look => b.last? look.number = some look ∧
      ∃ c, look.homed? = some c ∧ b.calibration = some c ∧ c.ReadFrom (b.readings look.number)

theorem Backed.added (backed : before.Backed) (limited : access = .commands) (adds : before.Adds new after) :
    after.Backed := by
  unfold Backed calibrator? last? readings at backed ⊢
  rw [adds.looks,adds.calibration limited]
  exact backed

theorem Backed.took (backed : before.Backed) (sound : before.Sound)
    (queued : before.errands.Perm (look.errand :: waiting)) : (before.took look waiting).Backed := by
  have calibrator : (before.took look waiting).calibrator? =
      if look.homed?.isSome then some look else before.calibrator? := by
    unfold calibrator? Books.took
    rw [List.find?_cons]
    split <;> simp_all
  unfold Backed at backed ⊢
  rw [calibrator,took_calibration]
  cases homed : look.homed? with
  | some c => exact ⟨by simp [last?_took],c,homed,rfl,(sound.homed queued homed).2⟩
  | none =>
    simp only [Option.isSome_none,Bool.false_eq_true,↓reduceIte,Option.none_or]
    cases was : before.calibrator? with
    | none => simpa [was] using backed
    | some other =>
      simp only [was] at backed ⊢
      obtain ⟨latest,c,calibrates,known,reads⟩ := backed
      -- The pass has completed, so that it is not the one that is looked at.
      have apart : look.number ≠ other.number := by
        intro same
        have going := (sound.waits queued).2.1
        rw [same,latest,Option.all_some] at going
        simp [Look.homed?,Look.completion?_of_next? going] at calibrates
      exact ⟨by simp [last?_took,apart,latest],c,calibrates,known,by simpa [readings_took,apart] using reads⟩

theorem Backed.step (backed : before.Backed) (sound : before.Sound) (limited : access = .commands)
    (step : before.Step after) : after.Backed := by
  cases step with
  | added adds => exact backed.added limited adds
  | looked look waiting new queued broken adds => exact (backed.took sound queued).added limited adds

theorem Backed.calibrated (backed : before.Backed) (known : before.calibration = some c) :
    ∃ look later earlier, before.looks = later ++ look :: earlier ∧ look.homed? = some c ∧
      (∀ other ∈ later, other.homed? = none) ∧ c.ReadFrom (before.readings look.number) := by
  unfold Backed at backed
  cases calibrator : before.calibrator? with
  | none =>
    simp only [calibrator] at backed
    cases known.symm.trans backed
  | some look =>
    simp only [calibrator] at backed
    obtain ⟨_,other,homed,same,reads⟩ := backed
    obtain rfl : c = other := Option.some.inj (known.symm.trans same)
    obtain ⟨_,later,earlier,split,last⟩ := List.find?_eq_some_iff_append.mp calibrator
    exact ⟨look,later,earlier,split,homed,by simpa using last,reads⟩

end Books

/-- What an event does to the calibration. -/
def Calibrates (before after : Shop .commands μ δ χ) : Prop :=
  (after.books.looks = before.books.looks ∧
      after.desk.plotter.calibration = before.desk.plotter.calibration) ∨
    ∃ look, after.books.looks = look :: before.books.looks ∧
      match look.homed? with
      | none => after.desk.plotter.calibration = before.desk.plotter.calibration
      | some c => (∃ previous, look.errand.next.order = .command .home previous) ∧
          after.desk.plotter.calibration = some c ∧ c.ReadFrom (after.books.readings look.number)

def stalledAt (position : Raw) : Motor.Recorded := { position, state := .runningStalled }

/-- A motor that has stalled, on each axis somewhere else. -/
def stalledMotor : Axis → Motor.Recorded
  | .tool => stalledAt { ticks := 1000 }
  | .x => stalledAt { ticks := 2000 }
  | .y => stalledAt { ticks := 3000 }

theorem Order.home_of_isHoming {order : Order .commands} (homing : order.isHoming = true) :
    ∃ previous, order = .command .home previous := by
  cases order with
  | home direct => cases direct
  | go direct => cases direct
  | command asked previous =>
    cases asked with
    | home => exact ⟨previous,rfl⟩
    | _ => cases homing

theorem calibration_changes_at_completed_pass (now : Nat) (plotter : Plotter μ δ) (notes : χ)
    (events : List (Event .commands μ δ χ)) (event : Event .commands μ δ χ)
    (shop after : Shop .commands μ δ χ) (lived : (opened now plotter notes).live events = .ok shop)
    (made : shop.next event = .ok after) : shop.Calibrates after := by
  have sound := sound_live (sound_opened now plotter notes) lived
  have step := books_next made
  cases step with
  | added adds => exact .inl ⟨adds.looks,adds.calibration rfl⟩
  | looked look waiting new queued broken adds =>
    refine .inr ⟨look,adds.looks,?_⟩
    have changed : after.desk.plotter.calibration = look.homed?.or shop.desk.plotter.calibration :=
      (adds.calibration rfl).trans (shop.books.took_calibration look waiting)
    cases homed : look.homed? with
    | none => simpa [homed] using changed
    | some c =>
      obtain ⟨homing,reads⟩ := sound.homed queued homed
      have readings : after.books.readings look.number = (shop.books.took look waiting).readings look.number := by
        simp [Books.readings,adds.looks]
      rw [readings]
      exact ⟨Order.home_of_isHoming homing,by simpa [homed] using changed,reads⟩

/-- A dispatched pass whose motors stall at 1000, 2000 and 3000, up to its last look. -/
def stalledPass : List (Event .commands Motor.Recorded Journal Unit) :=
  let still : Plotter Motor.Recorded Journal := { tool := {}, x := {}, y := {}, display := { presses := 1 } }
  [.script (.startAll [.command .home (.menu "main menu")]),.turn,
    .world { still with tool := stalledMotor .tool, x := stalledMotor .x, y := stalledMotor .y, display := {} },
    .turn,.turn,.turn,.turn,.turn,.turn,.turn,.turn,.world still]

def stalledLimits : Calibration where
  toolUp := { ticks := 1020 }
  toolDown := { ticks := 985 }
  xMin := { ticks := 1970 }
  xMax := { ticks := 2030 }
  yMin := { ticks := 3350 }
  yMax := { ticks := 2970 }

theorem stalledPass_calibrates : ∃ shop after : Shop .commands Motor.Recorded Journal Unit,
    (opened 0 { tool := {}, x := {}, y := {}, display := {} } ()).live stalledPass = .ok shop ∧
      shop.next .turn = .ok after ∧
      after.desk.plotter.calibration = some stalledLimits ∧ shop.Calibrates after := by
  obtain ⟨shop,lived,told⟩ := exists_ok
    (f := fun shop : Shop .commands Motor.Recorded Journal Unit =>
      (shop.next .turn).toOption.map fun after => after.desk.plotter.calibration)
    (show Option.map _ ((opened 0 { tool := {}, x := {}, y := {}, display := {} } ()).live stalledPass).toOption =
        some (some (some stalledLimits)) by
      decide +kernel)
  obtain ⟨after,made,calibration⟩ := exists_ok told
  exact ⟨shop,after,lived,made,calibration,
    calibration_changes_at_completed_pass _ _ _ stalledPass .turn shop after lived made⟩

end PenPlotter.Shop
