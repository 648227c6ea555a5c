import Mathlib.Data.Rat.Floor
import Mathlib.Tactic.Linarith
import Mathlib.Tactic.Positivity
import PenPlotter.Motor.Simulated
import PenPlotter.Settings.Basic

/-! What a motion needs of the arithmetic in which it is computed. Exact arithmetic has these laws. So has binary
floating point, in which positions and their differences are exact and rounding keeps the order. -/

namespace PenPlotter.Motor

/-- Positions are compared and subtracted exactly, and a motor that runs upward or downward does not turn. -/
class Scalar.Lawful (R : Type) [Scalar R] : Prop where
  lt_ofInt : ∀ a b : Physical,
    Scalar.lt (Scalar.ofInt a.ticks : R) (Scalar.ofInt b.ticks) = decide (a.ticks < b.ticks)
  round_difference : ∀ a b : Physical,
    (Position.saturate
      (Scalar.round (Scalar.ofInt 1 * (Scalar.ofInt a.ticks - Scalar.ofInt b.ticks) : R)) : Raw) =
      .saturate (a.ticks - b.ticks)
  ofFloat_pos : ∀ x : Float, Settings.isPositive x = true →
    Scalar.lt (Scalar.ofInt 0) (Scalar.ofFloat x : R) = true
  upward : ∀ (duty : Int) (speed place bound : R) (time : Nat), 0 < duty →
    Scalar.lt (Scalar.ofInt 0) speed = true → Scalar.lt place bound = false →
    Scalar.lt (place + Scalar.ofInt 1 * Scalar.ofInt duty * speed * Scalar.seconds time) bound = false
  downward : ∀ (duty : Int) (speed place bound : R) (time : Nat), duty < 0 →
    Scalar.lt (Scalar.ofInt 0) speed = true → Scalar.lt bound place = false →
    Scalar.lt bound (place + Scalar.ofInt 1 * Scalar.ofInt duty * speed * Scalar.seconds time) = false

theorem roundAwayFromZero_intCast (n : Int) : roundAwayFromZero (n : Rat) = n := by
  have floor_eq {x : Rat} {k : Int} (lo : (k : Rat) ≤ x) (hi : x < k + 1) : x.floor = k := by
    refine Int.le_antisymm (Int.lt_add_one_iff.mp (Rat.floor_lt_iff.mpr ?_)) (Rat.le_floor_iff.mpr lo)
    exact_mod_cast hi
  unfold roundAwayFromZero
  split
  · rw [floor_eq (k := -n) (by push_cast; linarith) (by push_cast; linarith),Int.neg_neg]
  · exact floor_eq (by linarith) (by linarith)

theorem exactValue_pos {b : Decimal.Binary} (positive : b.isPositive = true) : 0 < exactValue b := by
  unfold Decimal.Binary.isPositive at positive
  split at positive
  next significand exponent =>
    have some : 0 < significand := Nat.pos_of_ne_zero (by simpa using positive)
    have two (n : Nat) : (0 : Rat) < Decimal.twoPow n := by
      unfold Decimal.twoPow
      exact_mod_cast Nat.pow_pos (by decide)
    have up := two exponent.toNat
    have down := two (-exponent).toNat
    simp only [exactValue,Bool.false_eq_true,↓reduceIte,Rat.mkRat_eq_div]
    push_cast
    positivity
  · cases positive

theorem seconds_nonneg (time : Nat) : (0 : Rat) ≤ Scalar.seconds time := by
  show (0 : Rat) ≤ (time : Rat) / _
  positivity

instance : Scalar.Lawful Rat where
  lt_ofInt a b := by
    show decide ((a.ticks : Rat) < b.ticks) = _
    simp
  round_difference a b := by
    show (Position.saturate (Position.saturate (roundAwayFromZero
      (((1 : Int) : Rat) * (a.ticks - b.ticks))) : Physical).ticks : Raw) = _
    have whole : ((1 : Int) : Rat) * (a.ticks - b.ticks) = ((a.ticks - b.ticks : Int) : Rat) := by
      push_cast
      ring
    rw [whole,roundAwayFromZero_intCast]
    refine Position.ext ?_
    simp only [Position.ticks_saturate,minTicks,maxTicks]
    omega
  ofFloat_pos x positive := by
    show decide (((0 : Int) : Rat) < exactValue (.ofFloat x)) = true
    simpa using exactValue_pos positive
  upward duty speed place bound time up fast inside := by
    have fast : 0 < speed := by simpa [Scalar.lt,Scalar.ofInt] using fast
    have inside : bound ≤ place := by simpa [Scalar.lt] using inside
    have up : (0 : Rat) < duty := by exact_mod_cast up
    have later := seconds_nonneg time
    show decide (place + ((1 : Int) : Rat) * (duty : Rat) * speed * Scalar.seconds time < bound) = false
    have more : 0 ≤ ((1 : Int) : Rat) * (duty : Rat) * speed * Scalar.seconds time := by
      push_cast
      positivity
    exact decide_eq_false (not_lt.mpr (by linarith))
  downward duty speed place bound time down fast inside := by
    have fast : 0 < speed := by simpa [Scalar.lt,Scalar.ofInt] using fast
    have inside : place ≤ bound := by simpa [Scalar.lt] using inside
    have down : (0 : Rat) < -duty := by exact_mod_cast Int.neg_pos.mpr down
    have later := seconds_nonneg time
    show decide (bound < place + ((1 : Int) : Rat) * (duty : Rat) * speed * Scalar.seconds time) = false
    have less : 0 ≤ (-duty : Rat) * speed * Scalar.seconds time := by positivity
    have same : ((1 : Int) : Rat) * (duty : Rat) * speed * Scalar.seconds time =
        -((-duty : Rat) * speed * Scalar.seconds time) := by
      push_cast
      ring
    rw [same]
    exact decide_eq_false (not_lt.mpr (by linarith))

end PenPlotter.Motor
