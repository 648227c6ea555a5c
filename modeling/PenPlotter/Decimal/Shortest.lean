import PenPlotter.Decimal.Binary

/-! The fewest decimal digits that read back as a given binary number. The reals that round to
`m * 2 ^ q` form an interval, closed iff `m` is even; for 1, 2, … digits the two points of that
decimal grid next to the number are tried, and of two points in the interval the nearer wins. -/

namespace PenPlotter.Decimal

/-- The number `digits * 10 ^ exponent`. -/
structure Digits where
  digits : Nat
  exponent : Int
  deriving DecidableEq, Repr

/-- A positive fraction, for comparison with whole numbers. -/
structure Ratio where
  num : Nat
  den : Nat

def Ratio.floor (r : Ratio) : Nat := r.num / r.den

/-- The number `n * 2 ^ q / 10 ^ k`. -/
def Ratio.scaled (n : Nat) (q k : Int) : Ratio :=
  ⟨n * twoPow q.toNat * tenPow (-k).toNat, twoPow (-q).toNat * tenPow k.toNat⟩

/-- Number of decimal digits before the point of `n * 2 ^ q`, negative if zeros follow the point. -/
def magnitude (n : Nat) (q : Int) : Int :=
  let fine : Nat := 400
  (Nat.toDigits 10 (Ratio.scaled n q (-fine)).floor).length - fine

/-- Whether `c * 10 ^ k` lies among the reals that round to `m * 2 ^ q`. Below a power of two the
next number is half as far away. -/
def roundsTo (m : Nat) (q : Int) (c : Nat) (k : Int) : Bool :=
  let below := if m = twoPow 52 ∧ leastExponent < q then 1 else 2
  let low := Ratio.scaled (4 * m - below) (q - 2) k
  let high := Ratio.scaled (4 * m + 2) (q - 2) k
  if m % 2 = 0 then low.num ≤ c * low.den && c * high.den ≤ high.num
  else low.num < c * low.den && c * high.den < high.num

/-- The point of the grid with step `10 ^ k` that is next to `m * 2 ^ q` and rounds to it. -/
def onGrid? (m : Nat) (q k : Int) : Option Nat :=
  let here := Ratio.scaled m q k
  let lower := here.floor
  match roundsTo m q lower k, roundsTo m q (lower + 1) k with
  | true, true => if 2 * here.num < (2 * lower + 1) * here.den then some lower else some (lower + 1)
  | true, false => some lower
  | false, true => some (lower + 1)
  | false, false => none

/-- Removes the zeros at the end of the digits, as far as the fuel lasts. -/
def stripZeros : Nat → Digits → Digits
  | 0, d => d
  | fuel + 1, d =>
    if d.digits % 10 = 0 then stripZeros fuel ⟨d.digits / 10, d.exponent + 1⟩ else d

/-- Tries the grids of `count`, `count + 1`, … digits. -/
def firstGrid (m : Nat) (q : Int) (places : Int) (count : Nat) : Nat → Digits
  | 0 => ⟨m, q⟩
  | tries + 1 =>
    match onGrid? m q (places - count) with
    | some c => stripZeros 20 ⟨c, places - count⟩
    | none => firstGrid m q places (count + 1) tries

/-- The fewest digits that read back as the positive number `m * 2 ^ q`: 17 always suffice. -/
def shortest (m : Nat) (q : Int) : Digits := firstGrid m q (magnitude m q) 1 17

example : shortest (twoPow 52 + 2702159776422298) (-56) = ⟨1, -1⟩ := by decide +kernel
example : shortest 1 (-1074) = ⟨5, -324⟩ := by decide +kernel

end PenPlotter.Decimal
