import PenPlotter.Proofs.Calibration

/-! The transforms of a calibrated interval on signed words of 32 bits, as a machine carries them out. A sum or a
difference is taken bit by bit only where it does not wrap around, and a clamp refuses ends that are out of order. No
transform is refused for any words, and what it gives is the position that the exact one gives. -/

namespace PenPlotter

abbrev Word := BitVec 32

namespace Word

/-- The sum, or the end of the range that it leaves. -/
def plus (a b : Word) : Word :=
  if a.saddOverflow b then if b.slt 0 then .intMin 32 else .intMax 32 else a + b

/-- The difference, or the end of the range that it leaves. -/
def minus (a b : Word) : Word :=
  if a.ssubOverflow b then if b.slt 0 then .intMax 32 else .intMin 32 else a - b

/-- The absolute value. That of the least word is no word, and the largest one stands for it. -/
def magnitude (a : Word) : Word :=
  if a.negOverflow then .intMax 32 else if a.slt 0 then -a else a

def clamp? (w lo hi : Word) : Option Word :=
  if lo.sle hi then some (if w.slt lo then lo else if hi.slt w then hi else w) else none

def clampBetween? (w a b : Word) : Option Word :=
  if a.sle b then w.clamp? a b else w.clamp? b a

def toRaw? (zero full n : Word) : Option Word :=
  if zero.slt full then (zero.plus n).clamp? zero full else (zero.minus n).clamp? full zero

def toNormalized? (zero full p : Word) : Option Word :=
  if zero.slt full then (p.minus zero).clamp? 0 (full.minus zero) else (zero.minus p).clamp? 0 (zero.minus full)

def travel (zero full : Word) : Word := (full.minus zero).magnitude

theorem toInt_bounds (w : Word) : minTicks ≤ w.toInt ∧ w.toInt ≤ maxTicks := by
  have low := w.le_toInt
  have high := w.toInt_lt
  simp only [minTicks,maxTicks]
  omega

/-- The position that a word is. -/
def position (w : Word) : Position frame where
  ticks := w.toInt
  min_le := w.toInt_bounds.1
  le_max := w.toInt_bounds.2

theorem toInt_plus (a b : Word) : (a.plus b).toInt = max minTicks (min (a.toInt + b.toInt) maxTicks) := by
  have left := a.toInt_bounds
  have right := b.toInt_bounds
  simp only [minTicks,maxTicks] at *
  unfold plus
  by_cases wraps : a.saddOverflow b = true
  · have past : 2147483648 ≤ a.toInt + b.toInt ∨ a.toInt + b.toInt < -2147483648 := by
      simpa [BitVec.saddOverflow] using wraps
    rw [if_pos wraps]
    by_cases negative : b.toInt < 0
    · have bottom : (BitVec.intMin 32).toInt = -2147483648 := by decide
      rw [if_pos (BitVec.slt_iff_toInt_lt.mpr negative),bottom]
      omega
    · have top : (BitVec.intMax 32).toInt = 2147483647 := by decide
      rw [if_neg (mt BitVec.slt_iff_toInt_lt.mp negative),top]
      omega
  · have inside : ¬ (2147483648 ≤ a.toInt + b.toInt ∨ a.toInt + b.toInt < -2147483648) := by
      simpa [BitVec.saddOverflow] using wraps
    rw [if_neg wraps,BitVec.toInt_add_of_not_saddOverflow wraps]
    omega

theorem toInt_minus (a b : Word) : (a.minus b).toInt = max minTicks (min (a.toInt - b.toInt) maxTicks) := by
  have left := a.toInt_bounds
  have right := b.toInt_bounds
  simp only [minTicks,maxTicks] at *
  unfold minus
  by_cases wraps : a.ssubOverflow b = true
  · have past : 2147483648 ≤ a.toInt - b.toInt ∨ a.toInt - b.toInt < -2147483648 := by
      simpa [BitVec.ssubOverflow] using wraps
    rw [if_pos wraps]
    by_cases negative : b.toInt < 0
    · have top : (BitVec.intMax 32).toInt = 2147483647 := by decide
      rw [if_pos (BitVec.slt_iff_toInt_lt.mpr negative),top]
      omega
    · have bottom : (BitVec.intMin 32).toInt = -2147483648 := by decide
      rw [if_neg (mt BitVec.slt_iff_toInt_lt.mp negative),bottom]
      omega
  · have inside : ¬ (2147483648 ≤ a.toInt - b.toInt ∨ a.toInt - b.toInt < -2147483648) := by
      simpa [BitVec.ssubOverflow] using wraps
    rw [if_neg wraps,BitVec.toInt_sub_of_not_ssubOverflow wraps]
    omega

theorem toInt_magnitude (a : Word) : a.magnitude.toInt = min (a.toInt.natAbs : Int) maxTicks := by
  have range := a.toInt_bounds
  simp only [minTicks,maxTicks] at *
  unfold magnitude
  by_cases wraps : a.negOverflow = true
  · have least : a.toInt = -2147483648 := by simpa [BitVec.negOverflow] using wraps
    have top : (BitVec.intMax 32).toInt = 2147483647 := by decide
    rw [if_pos wraps,top]
    omega
  · rw [if_neg wraps]
    have above : a.toInt ≠ -2147483648 := by simpa [BitVec.negOverflow] using wraps
    by_cases negative : a.toInt < 0
    · rw [if_pos (BitVec.slt_iff_toInt_lt.mpr negative),BitVec.toInt_neg_of_not_negOverflow wraps]
      omega
    · rw [if_neg (mt BitVec.slt_iff_toInt_lt.mp negative)]
      omega

/-- A clamp between ends in order is not refused. -/
theorem clamp?_eq (w : Word) {lo hi : Word} (ordered : lo.toInt ≤ hi.toInt) :
    ∃ r : Word, w.clamp? lo hi = some r ∧ r.toInt = max lo.toInt (min w.toInt hi.toInt) := by
  refine ⟨_,if_pos (BitVec.sle_iff_toInt_le.mpr ordered),?_⟩
  by_cases below : w.toInt < lo.toInt
  · rw [if_pos (BitVec.slt_iff_toInt_lt.mpr below)]
    omega
  · rw [if_neg (mt BitVec.slt_iff_toInt_lt.mp below)]
    by_cases above : hi.toInt < w.toInt
    · rw [if_pos (BitVec.slt_iff_toInt_lt.mpr above)]
      omega
    · rw [if_neg (mt BitVec.slt_iff_toInt_lt.mp above)]
      omega

/-! Each transform against the exact one. -/

theorem position_eq {w : Word} {p : Position frame} (same : w.toInt = p.ticks) : w.position = p :=
  Position.ext same

/-- The interval between two words. -/
def interval (zero full : Word) : Interval where
  zero := zero.position
  full := full.position

theorem clampBetween?_exact (w a b : Word) :
    ((w.clampBetween? a b).map position : Option Raw) = some ((w.position : Raw).clampBetween a.position b.position) := by
  have exact : ((w.position : Raw).clampBetween a.position b.position).ticks =
      max (min a.toInt b.toInt) (min w.toInt (max a.toInt b.toInt)) :=
    (w.position : Raw).ticks_clampBetween a.position b.position
  unfold clampBetween?
  by_cases ordered : a.toInt ≤ b.toInt
  · obtain ⟨r,made,value⟩ := clamp?_eq w ordered
    rw [if_pos (BitVec.sle_iff_toInt_le.mpr ordered),made]
    exact congrArg some (position_eq (by omega))
  · obtain ⟨r,made,value⟩ := clamp?_eq w (Int.le_of_lt (Int.not_le.mp ordered))
    rw [if_neg (mt BitVec.sle_iff_toInt_le.mp ordered),made]
    exact congrArg some (position_eq (by omega))

/-- A sum that leaves the range is past the end that it is clamped to. -/
theorem toRaw?_exact (zero full n : Word) :
    ((toRaw? zero full n).map position : Option Raw) = some ((interval zero full).toRaw n.position) := by
  have low := zero.toInt_bounds
  have high := full.toInt_bounds
  have exact := (interval zero full).ticks_toRaw n.position
  unfold toRaw?
  by_cases up : zero.toInt < full.toInt
  · obtain ⟨r,made,value⟩ := clamp?_eq (zero.plus n) (Int.le_of_lt up)
    have exact : ((interval zero full).toRaw n.position).ticks =
        max zero.toInt (min (zero.toInt + n.toInt) full.toInt) := exact.trans (if_pos up)
    rw [toInt_plus] at value
    rw [if_pos (BitVec.slt_iff_toInt_lt.mpr up),made]
    exact congrArg some (position_eq (by omega))
  · obtain ⟨r,made,value⟩ := clamp?_eq (zero.minus n) (Int.not_lt.mp up)
    have exact : ((interval zero full).toRaw n.position).ticks =
        max full.toInt (min (zero.toInt - n.toInt) zero.toInt) := exact.trans (if_neg up)
    rw [toInt_minus] at value
    rw [if_neg (mt BitVec.slt_iff_toInt_lt.mp up),made]
    exact congrArg some (position_eq (by omega))

theorem travel_exact (zero full : Word) : (travel zero full).position = (interval zero full).travel := by
  have exact : (interval zero full).travel.ticks = min ((full.toInt - zero.toInt).natAbs : Int) maxTicks :=
    (interval zero full).ticks_travel_saturated
  apply position_eq
  rw [exact]
  unfold travel
  rw [toInt_magnitude,toInt_minus]
  unfold minTicks maxTicks
  omega

/-- A difference clamped to the scale, whose upper end is the travel. -/
theorem clamp?_minus (a b : Word) {lo hi : Word} (ordered : lo.toInt ≤ hi.toInt) :
    ∃ r : Word, (a.minus b).clamp? 0 (hi.minus lo) = some r ∧
      r.toInt = max 0 (min (a.toInt - b.toInt) (min (hi.toInt - lo.toInt) maxTicks)) := by
  have none : (0 : Word).toInt = 0 := by decide
  have positive : (0 : Word).toInt ≤ (hi.minus lo).toInt := by
    rw [toInt_minus,none]
    unfold maxTicks
    omega
  obtain ⟨r,made,value⟩ := clamp?_eq (a.minus b) positive
  refine ⟨r,made,?_⟩
  rw [value,none,toInt_minus,toInt_minus]
  unfold minTicks maxTicks
  omega

theorem toNormalized?_exact (zero full p : Word) :
    ((toNormalized? zero full p).map position : Option Normalized) =
      some ((interval zero full).toNormalized p.position) := by
  have length : (interval zero full).travel.ticks = min ((full.toInt - zero.toInt).natAbs : Int) maxTicks :=
    (interval zero full).ticks_travel_saturated
  have exact := (interval zero full).ticks_toNormalized_saturated p.position
  rw [length] at exact
  unfold toNormalized?
  by_cases up : zero.toInt < full.toInt
  · have toward : (interval zero full).oriented (p.toInt - zero.toInt) = p.toInt - zero.toInt := if_pos up
    obtain ⟨r,made,value⟩ := clamp?_minus p zero (Int.le_of_lt up)
    rw [if_pos (BitVec.slt_iff_toInt_lt.mpr up),made]
    refine congrArg some (position_eq ?_)
    rw [exact,value]
    simp only [interval,position] at toward ⊢
    omega
  · have toward : (interval zero full).oriented (p.toInt - zero.toInt) = -(p.toInt - zero.toInt) := if_neg up
    obtain ⟨r,made,value⟩ := clamp?_minus zero p (Int.not_lt.mp up)
    rw [if_neg (mt BitVec.slt_iff_toInt_lt.mp up),made]
    refine congrArg some (position_eq ?_)
    rw [exact,value]
    simp only [interval,position] at toward ⊢
    omega

end Word
end PenPlotter
