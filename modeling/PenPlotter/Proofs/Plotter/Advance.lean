import PenPlotter.Display.Journal
import PenPlotter.Motor.Recorded
import PenPlotter.Proofs.Calibration.Words
import PenPlotter.Proofs.Plotter.Targets

/-! The position of an axis moved by a count, in either unit. Both forms stay where the transforms of the interval stay,
whatever the motor reads, and from a position within an interval that is no longer than the largest position they come to
the same point of the mechanics. -/

namespace PenPlotter.Plotter

variable {μ δ : Type} [Motor μ] {p : Plotter μ δ} {c : Calibration} {now : Nat} {axis : Axis} {here : Raw}

section Answers

variable {m : μ} (known : p.calibration = some c) (told : Motor.position now (p.motor axis) = .ok here m)

include known told

theorem readNormalized_apply :
    (readNormalized axis : PlotterM μ δ Normalized) now p = .ok (c.toNormalized axis here) (p.setMotor axis m) := by
  unfold readNormalized
  rw [bind_apply,calibrated_apply known]
  simp only [bind_apply,readRaw_apply told]
  rfl

theorem advanceNormalized_apply (n : Normalized) :
    (advanceNormalized axis n : PlotterM μ δ Normalized) now p =
      .ok (((c.toNormalized axis here).shift n.ticks).clamp .zero (c.travel axis) (c.interval axis).zero_le_travel)
        (p.setMotor axis m) := by
  unfold advanceNormalized
  rw [bind_apply,calibrated_apply known]
  simp only [bind_apply,readNormalized_apply known told]
  rfl

theorem advanceRaw_apply (n : Raw) :
    (advanceRaw axis n : PlotterM μ δ Raw) now p =
      .ok ((here.shift n.ticks).clampBetween (c.interval axis).zero (c.interval axis).full) (p.setMotor axis m) := by
  unfold advanceRaw
  rw [bind_apply,calibrated_apply known]
  simp only [bind_apply,readRaw_apply told]
  rfl

end Answers

/-- The transforms of words are never refused and give what the exact ones give. Those of an interval, whatever its ends,
stay in their ranges and keep the order of what they are given; and so does every position that is read or advanced. -/
theorem transforms_are_safe_and_monotone :
    (∀ zero full w : Word,
      ((Word.toRaw? zero full w).map Word.position : Option Raw) = some ((Word.interval zero full).toRaw w.position) ∧
      ((Word.toNormalized? zero full w).map Word.position : Option Normalized) =
        some ((Word.interval zero full).toNormalized w.position) ∧
      (Word.travel zero full).position = (Word.interval zero full).travel ∧
      ((w.clampBetween? zero full).map Word.position : Option Raw) =
        some ((w.position : Raw).clampBetween zero.position full.position)) ∧
    (∀ i : Interval,
      (∀ n, i.Holds (i.toRaw n)) ∧ (∀ q, i.OnScale (i.toNormalized q)) ∧
      i.travel.ticks = min i.distance maxTicks ∧ i.reversed.travel = i.travel ∧
      (∀ n m, n ≤ m → i.Along (i.toRaw n) (i.toRaw m)) ∧ ∀ q r, i.Along q r → i.toNormalized q ≤ i.toNormalized r) ∧
    ∀ {μ δ : Type} [Motor μ] (p : Plotter μ δ) (c : Calibration) (axis : Axis) (now : Nat) (here : Raw),
      p.calibration = some c → p.Reads now axis here →
        (∃ v p', readNormalized axis now p = .ok v p' ∧ (c.interval axis).OnScale v) ∧
        (∀ n, ∃ v p', advanceNormalized axis n now p = .ok v p' ∧ (c.interval axis).OnScale v) ∧
        ∀ n, ∃ v p', advanceRaw axis n now p = .ok v p' ∧ (c.interval axis).Holds v := by
  refine ⟨fun zero full w => ⟨?_,?_,?_,?_⟩,fun i => ⟨i.toRaw_holds,i.toNormalized_onScale,?_,?_,?_,?_⟩,?_⟩
  · exact Word.toRaw?_exact zero full w
  · exact Word.toNormalized?_exact zero full w
  · exact Word.travel_exact zero full
  · exact Word.clampBetween?_exact w zero full
  · exact i.ticks_travel_saturated
  · exact i.travel_reversed
  · exact fun _ _ => i.toRaw_along
  · exact fun _ _ => i.toNormalized_mono
  · rintro μ δ _ p c axis now here known ⟨m,told⟩
    refine ⟨⟨_,_,readNormalized_apply known told,?_⟩,fun n => ⟨_,_,advanceNormalized_apply known told n,?_⟩,
      fun n => ⟨_,_,advanceRaw_apply known told n,?_⟩⟩
    · exact (c.interval axis).toNormalized_onScale here
    · exact (c.interval axis).clamp_onScale _
    · exact (c.interval axis).clampBetween_holds _

/-- A homed plotter whose motor along x reads a position. -/
def homedAt (c : Calibration) (here : Raw) : Plotter Motor.Recorded Journal where
  tool := {}
  x := { position := here }
  y := {}
  display := {}
  calibration := some c

/-- A calibration with all positions along x. -/
def widest : Calibration := { xMin := .saturate minTicks, xMax := .saturate maxTicks }

/-- The distance of its ends is no position, and the travel is the largest one. -/
theorem widest_is_safe :
    let p := homedAt widest (.saturate (-7))
    (∃ v p', readNormalized .x 0 p = .ok v p' ∧ (widest.interval .x).OnScale v) ∧
      (∀ n, ∃ v p', advanceNormalized .x n 0 p = .ok v p' ∧ (widest.interval .x).OnScale v) ∧
      (∀ n, ∃ v p', advanceRaw .x n 0 p = .ok v p' ∧ (widest.interval .x).Holds v) ∧
      maxTicks < (widest.interval .x).distance ∧ (widest.interval .x).travel.ticks = maxTicks := by
  intro p
  have reads : p.Reads 0 .x (.saturate (-7)) := ⟨_,rfl⟩
  obtain ⟨_,intervals,plotters⟩ := transforms_are_safe_and_monotone
  obtain ⟨_,_,travel,_⟩ := intervals (widest.interval .x)
  obtain ⟨read,normalized,raw⟩ := plotters p widest .x 0 _ rfl reads
  exact ⟨read,normalized,raw,by decide,travel⟩

/-- Advancing an axis on its scale comes to the raw position that advancing it by the same count of raw ticks does. The
count is taken the other way round on an axis that counts down, for which the least one has none. -/
theorem advance_agrees (known : p.calibration = some c) (reads : p.Reads now axis here)
    (fits : (c.interval axis).distance ≤ maxTicks) (inside : (c.interval axis).Holds here) {n : Normalized}
    (least : n.ticks ≠ minTicks) :
    ∃ raw : Raw, raw.ticks = (if (c.interval axis).zero < (c.interval axis).full then n.ticks else -n.ticks) ∧
      ∃ v p', advanceNormalized axis n now p = .ok v p' ∧ advanceRaw axis raw now p = .ok (c.toRaw axis v) p' := by
  obtain ⟨m,told⟩ := reads
  have low := n.min_le
  have high := n.le_max
  have counted : (Position.saturate ((c.interval axis).oriented n.ticks) : Raw).ticks =
      (c.interval axis).oriented n.ticks := by
    refine Position.saturate_of_mem ?_ ?_ <;> unfold Interval.oriented minTicks maxTicks at * <;> split <;> omega
  refine ⟨_,counted,_,_,advanceNormalized_apply known told n,?_⟩
  rw [advanceRaw_apply known told,counted]
  exact congrArg (EStateM.Result.ok · _) ((c.interval axis).toRaw_advance fits inside n).symm

/-- On an axis that counts down over half of all positions, by the largest count. -/
theorem advance_agrees_counting_down :
    let c : Calibration := { xMin := Interval.lowerHalf.zero, xMax := Interval.lowerHalf.full }
    let p := homedAt c (.saturate (-7))
    (c.interval .x).distance = maxTicks ∧
      ∃ raw : Raw, raw.ticks = -maxTicks ∧
        ∃ v p', advanceNormalized .x (.saturate maxTicks) 0 p = .ok v p' ∧
          advanceRaw .x raw 0 p = .ok (c.toRaw .x v) p' := by
  intro c p
  have reads : p.Reads 0 .x (.saturate (-7)) := ⟨_,rfl⟩
  have fits : (c.interval .x).distance ≤ maxTicks := by decide
  have inside : (c.interval .x).Holds (.saturate (-7)) := ⟨by decide,by decide⟩
  obtain ⟨raw,count,advanced⟩ :=
    advance_agrees (p := p) rfl reads fits inside (n := .saturate maxTicks) (by decide)
  exact ⟨by decide,raw,count,advanced⟩

end PenPlotter.Plotter
