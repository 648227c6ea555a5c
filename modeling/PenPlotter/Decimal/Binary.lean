/-! A binary floating-point number taken apart: a sign, a whole significand and an exponent of two. -/

namespace PenPlotter.Decimal

inductive Binary where
  | nan
  | infinite (negative : Bool)
  /-- The number `significand * 2 ^ exponent`, with its sign. -/
  | finite (negative : Bool) (significand : Nat) (exponent : Int)
  deriving DecidableEq, Repr

def leastExponent : Int := -1074

def twoPow (n : Nat) : Nat := Nat.pow 2 n
def tenPow (n : Nat) : Nat := Nat.pow 10 n

/-- Reads the three fields of a 64-bit word. The smallest exponent field stands for numbers without
the hidden leading bit, the largest for what is not finite. -/
def Binary.ofBits (bits : Nat) : Binary :=
  let negative := twoPow 63 ≤ bits
  let field : Nat := bits / twoPow 52 % twoPow 11
  let fraction := bits % twoPow 52
  if field = 2047 then if fraction = 0 then .infinite negative else .nan
  else if field = 0 then .finite negative fraction leastExponent
  else .finite negative (twoPow 52 + fraction) ((field : Int) - 1075)

def Binary.ofFloat (x : Float) : Binary := ofBits x.toBits.toNat

/-- Whether it is a number greater than zero. -/
def Binary.isPositive : Binary → Bool
  | .finite false significand _ => significand != 0
  | _ => false

example : Binary.ofBits 0x3FF8000000000000 = .finite false (3 * twoPow 51) (-52) := by decide
example : Binary.ofBits 0x8000000000000000 = .finite true 0 (-1074) := by decide

end PenPlotter.Decimal
