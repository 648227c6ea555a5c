import PenPlotter.Decimal.Binary

/-! Positions along an axis, counted in encoder ticks. A position is a signed 32-bit count, and its
type names the frame it is counted in, so that positions of different frames cannot be mixed by
accident. Checked arithmetic reports the operation that left the range; saturating arithmetic stops
at its ends. -/

namespace PenPlotter

/-- What a position is counted from. -/
inductive Frame where
  /-- The fixed mechanics of the axis. -/
  | physical
  /-- The encoder as the motor reports it. -/
  | raw
  /-- The calibrated scale, from 0 to the travel of the axis. -/
  | normalized

def minTicks : Int := -2147483648
def maxTicks : Int := 2147483647

/-- An operation on positions whose exact result is not a position. -/
inductive Overflow where
  | add
  | subtract
  | negate
  deriving DecidableEq, Repr

def Overflow.message : Overflow → String
  | .add => "attempt to add with overflow"
  | .subtract => "attempt to subtract with overflow"
  | .negate => "attempt to negate with overflow"

structure Position (frame : Frame) where
  ticks : Int
  min_le : minTicks ≤ ticks := by decide
  le_max : ticks ≤ maxTicks := by decide
  deriving DecidableEq

abbrev Physical := Position .physical
abbrev Raw := Position .raw
abbrev Normalized := Position .normalized

namespace Position

instance : LE (Position frame) := ⟨fun a b => a.ticks ≤ b.ticks⟩
instance : LT (Position frame) := ⟨fun a b => a.ticks < b.ticks⟩
instance (a b : Position frame) : Decidable (a ≤ b) := inferInstanceAs (Decidable (a.ticks ≤ b.ticks))
instance (a b : Position frame) : Decidable (a < b) := inferInstanceAs (Decidable (a.ticks < b.ticks))

theorem le_def {a b : Position frame} : a ≤ b ↔ a.ticks ≤ b.ticks := Iff.rfl
theorem lt_def {a b : Position frame} : a < b ↔ a.ticks < b.ticks := Iff.rfl

theorem le_of_lt {a b : Position frame} (h : a < b) : a ≤ b := Int.le_of_lt h

theorem le_of_not_lt {a b : Position frame} (h : ¬a < b) : b ≤ a := Int.not_lt.1 h

theorem ext {a b : Position frame} (h : a.ticks = b.ticks) : a = b := by
  cases a; cases b; cases h; rfl

def zero : Position frame := ⟨0, by decide, by decide⟩

instance : Inhabited (Position frame) := ⟨zero⟩
instance : Repr (Position frame) := ⟨fun p _ => repr p.ticks⟩

/-- The position with this count, if the count fits. -/
def ofInt? (n : Int) : Option (Position frame) :=
  if h : minTicks ≤ n ∧ n ≤ maxTicks then some ⟨n, h.1, h.2⟩ else none

/-- The position nearest to this count. -/
def saturate (n : Int) : Position frame :=
  ⟨max minTicks (min n maxTicks), by simp only [minTicks, maxTicks]; omega,
    by simp only [minTicks, maxTicks]; omega⟩

theorem ticks_saturate (n : Int) :
    (saturate n : Position frame).ticks = max minTicks (min n maxTicks) := rfl

theorem zero_le_saturate {n : Int} (h : 0 ≤ n) : zero ≤ (saturate n : Position frame) := by
  simp only [le_def, zero, ticks_saturate, minTicks, maxTicks]
  omega

theorem saturate_of_mem {n : Int} (lo : minTicks ≤ n) (hi : n ≤ maxTicks) :
    (saturate n : Position frame).ticks = n := by
  simp only [ticks_saturate, minTicks, maxTicks] at *; omega

/-- This position moved by a count. -/
def offset? (p : Position frame) (count : Int) : Except Overflow (Position frame) :=
  (ofInt? (p.ticks + count)).elim (.error .add) .ok

def add? (a b : Position frame) : Except Overflow (Position frame) := a.offset? b.ticks

def sub? (a b : Position frame) : Except Overflow (Position frame) :=
  (ofInt? (a.ticks - b.ticks)).elim (.error .subtract) .ok

def neg? (a : Position frame) : Except Overflow (Position frame) :=
  (ofInt? (-a.ticks)).elim (.error .negate) .ok

/-- The nearest position between two ends, which must be in order. -/
def clamp (p lo hi : Position frame) (_ : lo ≤ hi) : Position frame :=
  if p < lo then lo else if hi < p then hi else p

theorem ticks_clamp (p lo hi : Position frame) (h : lo ≤ hi) :
    (p.clamp lo hi h).ticks = max lo.ticks (min p.ticks hi.ticks) := by
  have ordered : lo.ticks ≤ hi.ticks := h
  unfold clamp
  by_cases below : p.ticks < lo.ticks
  · rw [if_pos (lt_def.2 below)]; omega
  · rw [if_neg (mt lt_def.1 below)]
    by_cases above : hi.ticks < p.ticks
    · rw [if_pos (lt_def.2 above)]; omega
    · rw [if_neg (mt lt_def.1 above)]; omega

/-- The nearest position between two ends in either order. -/
def clampBetween (p a b : Position frame) : Position frame :=
  if h : a ≤ b then p.clamp a b h
  else p.clamp b a (Int.le_of_lt (Int.not_le.1 h))

theorem ticks_clampBetween (p a b : Position frame) :
    (p.clampBetween a b).ticks =
      max (min a.ticks b.ticks) (min p.ticks (max a.ticks b.ticks)) := by
  unfold clampBetween
  by_cases h : a.ticks ≤ b.ticks
  · rw [dif_pos (le_def.2 h), ticks_clamp]; omega
  · rw [dif_neg (mt le_def.1 h), ticks_clamp]; omega

/-- This position moved by a count, stopping at the ends of the range. -/
def shift (p : Position frame) (count : Int) : Position frame :=
  saturate (p.ticks + count)

/-- The whole part of a number, or the end of the range before it; what is no number counts as 0. -/
def truncate (x : Float) : Position frame :=
  match Decimal.Binary.ofFloat x with
  | .nan => zero
  | .infinite negative => saturate (if negative then minTicks else maxTicks)
  | .finite negative significand exponent =>
    let whole : Nat := significand * Decimal.twoPow exponent.toNat / Decimal.twoPow (-exponent).toNat
    saturate (if negative then -whole else whole)

/-- The count in decimal. -/
def text (p : Position frame) : String := toString p.ticks

/-- The count in decimal, filled up to a width with blanks on the left. -/
def padded (width : Nat) (p : Position frame) : String :=
  String.ofList (List.replicate (width - p.text.length) ' ') ++ p.text

/-- The count in decimal with its sign, which is a plus for zero. -/
def signed (p : Position frame) : String :=
  if p.ticks < 0 then p.text else "+" ++ p.text

end Position
end PenPlotter
