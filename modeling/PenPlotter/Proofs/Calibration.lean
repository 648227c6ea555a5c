import PenPlotter.Calibration

/-! The transforms of a calibrated interval in counts of ticks, where no range of positions shows. However far apart its
ends are, they stay in their ranges and keep the order of what they are given. They are exact as long as the ends are no
further apart than the largest position: then each undoes the other, up to the clamping of what lies outside. -/

namespace PenPlotter.Interval

variable {i : Interval}

/-- Distance between the two ends. -/
def distance (i : Interval) : Int := (i.full.ticks - i.zero.ticks).natAbs

/-- The raw positions between the two ends. -/
def Holds (i : Interval) (p : Raw) : Prop :=
  min i.zero.ticks i.full.ticks ≤ p.ticks ∧ p.ticks ≤ max i.zero.ticks i.full.ticks

/-- A count of ticks towards the far end, as a count of raw ticks. -/
def oriented (i : Interval) (count : Int) : Int := if i.zero.ticks < i.full.ticks then count else -count

/-- One raw position is no further along the interval than another one. -/
def Along (i : Interval) (p q : Raw) : Prop := i.oriented p.ticks ≤ i.oriented q.ticks

/-- The normalized positions from 0 to the travel. -/
def OnScale (i : Interval) (n : Normalized) : Prop := .zero ≤ n ∧ n ≤ i.travel

/-- The interval with its ends the other way round. -/
def reversed (i : Interval) : Interval := ⟨i.full,i.zero⟩

theorem holds_within_iff {lower upper : Int} :
    (∀ p, i.Holds p → lower ≤ p.ticks ∧ p.ticks ≤ upper) ↔
      lower ≤ min i.zero.ticks i.full.ticks ∧ max i.zero.ticks i.full.ticks ≤ upper := by
  constructor
  · intro within
    have zero := within i.zero ⟨Int.min_le_left ..,Int.le_max_left ..⟩
    have full := within i.full ⟨Int.min_le_right ..,Int.le_max_right ..⟩
    omega
  · rintro ⟨low,high⟩ p ⟨above,below⟩
    exact ⟨Int.le_trans low above,Int.le_trans below high⟩

/-- No saturation shows in a raw position, as the ends themselves are in range. -/
theorem ticks_toRaw (i : Interval) (n : Normalized) :
    (i.toRaw n).ticks =
      if i.zero.ticks < i.full.ticks then max i.zero.ticks (min (i.zero.ticks + n.ticks) i.full.ticks)
      else max i.full.ticks (min (i.zero.ticks - n.ticks) i.zero.ticks) := by
  have bottom := i.zero.min_le
  have top := i.zero.le_max
  have lower := i.full.min_le
  have upper := i.full.le_max
  unfold minTicks maxTicks at *
  unfold toRaw
  by_cases up : i.zero.ticks < i.full.ticks
  · rw [dif_pos (Position.lt_def.mpr up),if_pos up,Position.ticks_clamp,Position.shift,Position.ticks_saturate]
    unfold minTicks maxTicks
    omega
  · rw [dif_neg (mt Position.lt_def.mp up),if_neg up,Position.ticks_clamp,Position.shift,Position.ticks_saturate]
    unfold minTicks maxTicks
    omega

theorem toRaw_holds (i : Interval) (n : Normalized) : i.Holds (i.toRaw n) := by
  unfold Holds
  rw [ticks_toRaw]
  split <;> omega

/-- The largest position stands for a distance that is no position. -/
theorem ticks_travel_saturated (i : Interval) : i.travel.ticks = min i.distance maxTicks := by
  unfold distance
  simp only [travel,Position.ticks_saturate,minTicks,maxTicks]
  omega

theorem ticks_travel (fits : i.distance ≤ maxTicks) : i.travel.ticks = i.distance := by
  rw [ticks_travel_saturated]
  exact Int.min_eq_left fits

theorem travel_reversed (i : Interval) : i.reversed.travel = i.travel := by
  apply Position.ext
  rw [ticks_travel_saturated,ticks_travel_saturated]
  simp only [distance,reversed]
  omega

/-- The scale ends at the travel even where the distance of its ends is no position. -/
theorem ticks_toNormalized_saturated (i : Interval) (p : Raw) :
    (i.toNormalized p).ticks = max 0 (min (i.oriented (p.ticks - i.zero.ticks)) i.travel.ticks) := by
  have none : (Position.zero : Normalized).ticks = 0 := rfl
  rw [ticks_travel_saturated]
  unfold toNormalized distance oriented
  by_cases up : i.zero.ticks < i.full.ticks
  · rw [dif_pos (Position.lt_def.mpr up),if_pos up,Position.ticks_clamp,Position.ticks_saturate,
      Position.ticks_saturate,none]
    unfold minTicks maxTicks
    omega
  · rw [dif_neg (mt Position.lt_def.mp up),if_neg up,Position.ticks_clamp,Position.ticks_saturate,
      Position.ticks_saturate,none]
    unfold minTicks maxTicks
    omega

theorem ticks_toNormalized (fits : i.distance ≤ maxTicks) (p : Raw) :
    (i.toNormalized p).ticks =
      if i.zero.ticks < i.full.ticks then max 0 (min (p.ticks - i.zero.ticks) i.distance)
      else max 0 (min (i.zero.ticks - p.ticks) i.distance) := by
  rw [ticks_toNormalized_saturated,ticks_travel fits]
  unfold oriented
  split
  · rfl
  · rw [Int.neg_sub]

theorem clamp_onScale (i : Interval) (n : Normalized) : i.OnScale (n.clamp .zero i.travel i.zero_le_travel) := by
  have positive : 0 ≤ i.travel.ticks := i.zero_le_travel
  have none : (Position.zero : Normalized).ticks = 0 := rfl
  unfold OnScale
  rw [Position.le_def,Position.le_def,Position.ticks_clamp,none]
  omega

theorem clampBetween_holds (i : Interval) (p : Raw) : i.Holds (p.clampBetween i.zero i.full) := by
  unfold Holds
  rw [Position.ticks_clampBetween]
  omega

theorem toNormalized_onScale (i : Interval) (p : Raw) : i.OnScale (i.toNormalized p) := by
  have positive : 0 ≤ i.travel.ticks := i.zero_le_travel
  have none : (Position.zero : Normalized).ticks = 0 := rfl
  unfold OnScale
  rw [Position.le_def,Position.le_def,ticks_toNormalized_saturated,none]
  omega

/-- A larger normalized position lies no nearer to normalized 0. -/
theorem toRaw_along (i : Interval) {n m : Normalized} (order : n ≤ m) : i.Along (i.toRaw n) (i.toRaw m) := by
  have order : n.ticks ≤ m.ticks := order
  unfold Along oriented
  rw [ticks_toRaw,ticks_toRaw]
  split <;> omega

theorem toNormalized_mono (i : Interval) {p q : Raw} (along : i.Along p q) : i.toNormalized p ≤ i.toNormalized q := by
  have toward : i.oriented (p.ticks - i.zero.ticks) ≤ i.oriented (q.ticks - i.zero.ticks) := by
    unfold Along oriented at *
    by_cases up : i.zero.ticks < i.full.ticks
    · rw [if_pos up,if_pos up] at *
      omega
    · rw [if_neg up,if_neg up] at *
      omega
  show (i.toNormalized p).ticks ≤ (i.toNormalized q).ticks
  rw [ticks_toNormalized_saturated,ticks_toNormalized_saturated]
  omega

/-- A normalized position comes back from its raw position, moved to the nearer end of the scale. -/
theorem ticks_toNormalized_toRaw (fits : i.distance ≤ maxTicks) (n : Normalized) :
    (i.toNormalized (i.toRaw n)).ticks = max 0 (min n.ticks i.distance) := by
  rw [ticks_toNormalized fits,ticks_toRaw]
  unfold distance
  split <;> omega

/-- A raw position comes back from the scale, moved to the nearer end of the interval. -/
theorem ticks_toRaw_toNormalized (fits : i.distance ≤ maxTicks) (p : Raw) :
    (i.toRaw (i.toNormalized p)).ticks =
      max (min i.zero.ticks i.full.ticks) (min p.ticks (max i.zero.ticks i.full.ticks)) := by
  rw [ticks_toRaw,ticks_toNormalized fits]
  unfold distance
  split <;> omega

/-- The transforms undo each other but for what lies outside: a raw position comes back clamped into the interval, and
a normalized one clamped to the scale. -/
theorem transforms_undo_each_other (fits : i.distance ≤ maxTicks) :
    (∀ p : Raw, i.toRaw (i.toNormalized p) = p.clampBetween i.zero i.full) ∧
      ∀ n : Normalized, i.toNormalized (i.toRaw n) = n.clamp .zero i.travel i.zero_le_travel := by
  constructor
  · intro p
    apply Position.ext
    rw [ticks_toRaw_toNormalized fits,Position.ticks_clampBetween]
  · intro n
    apply Position.ext
    rw [ticks_toNormalized_toRaw fits,Position.ticks_clamp,ticks_travel fits]
    rfl

/-- A count that leaves the range of positions is past the end that it is clamped to. -/
theorem clamp_saturated {low high : Int} (bottom : minTicks ≤ low) (top : high ≤ maxTicks) (ordered : low ≤ high)
    (count : Int) : max low (min (max minTicks (min count maxTicks)) high) = max low (min count high) := by
  omega

/-- Within an interval, moving on the scale and moving in raw ticks come to the same position. -/
theorem toRaw_advance (fits : i.distance ≤ maxTicks) {here : Raw} (inside : i.Holds here) (n : Normalized) :
    i.toRaw (((i.toNormalized here).shift n.ticks).clamp .zero i.travel i.zero_le_travel) =
      (here.shift (i.oriented n.ticks)).clampBetween i.zero i.full := by
  have none : (Position.zero : Normalized).ticks = 0 := rfl
  have zero : minTicks ≤ 0 := by decide
  apply Position.ext
  rw [ticks_toRaw,Position.ticks_clamp,Position.ticks_clampBetween,Position.shift,Position.shift,Position.ticks_saturate,
    Position.ticks_saturate,ticks_travel fits,none,
    clamp_saturated (Int.le_min.mpr ⟨i.zero.min_le,i.full.min_le⟩) (Int.max_le.mpr ⟨i.zero.le_max,i.full.le_max⟩)
      (Int.le_trans (Int.min_le_left ..) (Int.le_max_left ..)),
    clamp_saturated zero fits (Int.natCast_nonneg _)]
  unfold Holds at inside
  by_cases up : i.zero.ticks < i.full.ticks
  · have length : i.distance = i.full.ticks - i.zero.ticks := by
      unfold distance
      omega
    have scale : (i.toNormalized here).ticks = here.ticks - i.zero.ticks := by
      rw [ticks_toNormalized fits,if_pos up,length]
      omega
    have forward : i.oriented n.ticks = n.ticks := if_pos up
    rw [if_pos up,scale,length,forward,Int.min_eq_left (Int.le_of_lt up),Int.max_eq_right (Int.le_of_lt up)]
    omega
  · have down : i.full.ticks ≤ i.zero.ticks := Int.not_lt.mp up
    have length : i.distance = i.zero.ticks - i.full.ticks := by
      unfold distance
      omega
    have scale : (i.toNormalized here).ticks = i.zero.ticks - here.ticks := by
      rw [ticks_toNormalized fits,if_neg up,length]
      omega
    have backward : i.oriented n.ticks = -n.ticks := if_neg up
    rw [if_neg up,scale,length,backward,Int.min_eq_right down,Int.max_eq_left down]
    omega

/-- The lower half of all positions, counted from its upper end. -/
def lowerHalf : Interval := ⟨⟨-1, by decide, by decide⟩, ⟨minTicks, by decide, by decide⟩⟩

/-- It is as long as an interval may be, and positions far from it saturate on the way. -/
theorem lowerHalf_transforms :
    lowerHalf.distance ≤ maxTicks ∧
      (∀ p : Raw, lowerHalf.toRaw (lowerHalf.toNormalized p) = p.clampBetween lowerHalf.zero lowerHalf.full) ∧
      ∀ n : Normalized,
        lowerHalf.toNormalized (lowerHalf.toRaw n) = n.clamp .zero lowerHalf.travel lowerHalf.zero_le_travel :=
  have fits : lowerHalf.distance ≤ maxTicks := by decide
  ⟨fits,transforms_undo_each_other fits⟩

end PenPlotter.Interval
