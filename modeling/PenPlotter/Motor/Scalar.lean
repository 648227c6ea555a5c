import PenPlotter.Decimal.Binary
import PenPlotter.Motor.Basic

/-! The arithmetic in which a simulated motor moves. `Float` is what a simulation runs with; `Rat`
is the same motion without rounding. -/

namespace PenPlotter.Motor

class Scalar (R : Type) extends Add R, Sub R, Mul R where
  ofInt : Int → R
  /-- The number itself, where it is one. -/
  ofFloat : Float → R
  /-- A length of time in seconds. -/
  seconds : Nat → R
  lt : R → R → Bool
  le : R → R → Bool
  isZero : R → Bool
  /-- The nearest whole number of ticks, a half going away from zero, within the range of
  positions. -/
  round : R → Int

namespace Scalar

def nanosPerSecond : Nat := 1000000000

variable [Scalar R]

/-- The number without its sign; what is not below zero is left alone. -/
def abs (x : R) : R := if lt x (ofInt 0) then ofInt 0 - x else x

/-- One with the sign of the number; zero, or what has no sign, is left alone. -/
def sign (x : R) : R :=
  if lt x (ofInt 0) then ofInt (-1) else if lt (ofInt 0) x then ofInt 1 else x

end Scalar

/-- Whole seconds and the rest are converted apart. -/
instance : Scalar Float where
  ofInt := Float.ofInt
  ofFloat x := x
  seconds time :=
    Float.ofNat (time / Scalar.nanosPerSecond) + Float.ofNat (time % Scalar.nanosPerSecond) / 1e9
  lt x y := x < y
  le x y := x ≤ y
  isZero x := x == 0
  round x := x.round.toInt32.toInt

/-- The exact value of a finite number, and zero for any other. -/
def exactValue : Decimal.Binary → Rat
  | .finite negative significand exponent =>
    let size := mkRat (significand * Decimal.twoPow exponent.toNat) (Decimal.twoPow (-exponent).toNat)
    if negative then -size else size
  | _ => 0

def roundAwayFromZero (x : Rat) : Int :=
  if x < 0 then -((1 / 2 - x).floor) else (x + 1 / 2).floor

instance : Scalar Rat where
  ofInt n := n
  ofFloat x := exactValue (.ofFloat x)
  seconds time := (time : Rat) / Scalar.nanosPerSecond
  lt x y := x < y
  le x y := x ≤ y
  isZero x := x == 0
  round x := (Position.saturate (roundAwayFromZero x) : Physical).ticks

end PenPlotter.Motor
