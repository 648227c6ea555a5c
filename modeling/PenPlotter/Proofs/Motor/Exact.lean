import Mathlib.Algebra.Order.Archimedean.Basic
import Mathlib.Data.Rat.Floor
import PenPlotter.Proofs.Motor.Travel

/-! Motors in exact arithmetic. A motor that is driven stalls in the end. One that runs to a target never turns on
its way, and it comes there in the end if the target is within its travel. -/

namespace PenPlotter.Motor

/-- Where the carriage is when the encoder reads a position, if it reads 0 at the start. -/
def Travel.goal (travel : Travel) (target : Raw) : Rat := travel.start.ticks + target.ticks

/-- What the encoder reads at a place, if it reads 0 at the start. -/
def Travel.reading (travel : Travel) (place : Rat) : Raw := .saturate (roundAwayFromZero (place - travel.start.ticks))

theorem roundAwayFromZero_mono {x y : Rat} (le : x ≤ y) : roundAwayFromZero x ≤ roundAwayFromZero y := by
  unfold roundAwayFromZero
  split
  next negative =>
    split
    · exact Int.neg_le_neg (Rat.floor_monotone (by linarith))
    · have down : 0 ≤ (1 / 2 - x).floor := Rat.le_floor_iff.mpr (by push_cast; linarith)
      have up : 0 ≤ (y + 1 / 2).floor := Rat.le_floor_iff.mpr (by push_cast; linarith)
      omega
  next positive =>
    rw [if_neg (by linarith)]
    exact Rat.floor_monotone (by linarith)

theorem Travel.reading_mono (travel : Travel) {x y : Rat} (le : x ≤ y) :
    (travel.reading x).ticks ≤ (travel.reading y).ticks := by
  have rounded := roundAwayFromZero_mono (sub_le_sub_right le (travel.start.ticks : Rat))
  unfold reading
  rw [Position.ticks_saturate,Position.ticks_saturate]
  omega

theorem Travel.Reaches.goal {travel : Travel} {target : Raw} (reaches : travel.Reaches target) :
    (travel.lower.ticks : Rat) ≤ travel.goal target ∧ travel.goal target ≤ travel.upper.ticks := by
  obtain ⟨above,below⟩ := reaches
  have above : travel.lower.ticks ≤ travel.start.ticks + target.ticks := by omega
  have below : travel.start.ticks + target.ticks ≤ travel.upper.ticks := by omega
  unfold Travel.goal
  exact ⟨by exact_mod_cast above,by exact_mod_cast below⟩

theorem Travel.reading_goal (travel : Travel) (target : Raw) : travel.reading (travel.goal target) = target := by
  have lower := target.min_le
  have upper := target.le_max
  unfold reading goal
  rw [add_sub_cancel_left,roundAwayFromZero_intCast]
  exact Position.ext (Position.saturate_of_mem lower upper)

/-- Between a place at which the encoder reads a position and the place of that position nothing else is read. -/
theorem Travel.reading_between {travel : Travel} {target : Raw} {x place : Rat}
    (between : x ∈ Set.uIcc place (travel.goal target)) (there : travel.reading place = target) :
    travel.reading x = target := by
  have goal := travel.reading_goal target
  refine Position.ext ?_
  rcases Set.mem_uIcc.mp between with ⟨above,below⟩ | ⟨above,below⟩
  all_goals
    have low := travel.reading_mono above
    have high := travel.reading_mono below
    rw [there,goal] at *
    omega

theorem seconds_split (deadline now updated : Nat) :
    (Scalar.seconds (deadline - updated) : Rat) ≤ Scalar.seconds (now - updated) + Scalar.seconds (deadline - now) := by
  have split : deadline - updated ≤ (now - updated) + (deadline - now) := by omega
  have split : ((deadline - updated : Nat) : Rat) ≤ (now - updated : Nat) + (deadline - now : Nat) := by
    exact_mod_cast split
  show ((deadline - updated : Nat) : Rat) / _ ≤ ((now - updated : Nat) : Rat) / _ + ((deadline - now : Nat) : Rat) / _
  rw [← add_div]
  gcongr

theorem seconds_zero : (Scalar.seconds 0 : Rat) = 0 := by
  show ((0 : Nat) : Rat) / _ = 0
  simp

theorem seconds_exceed (bound speed : Rat) (fast : 0 < speed) : ∃ time : Nat, bound < speed * Scalar.seconds time := by
  have second : (0 : Rat) < Scalar.nanosPerSecond := by norm_num [Scalar.nanosPerSecond]
  obtain ⟨time,later⟩ := exists_nat_gt (bound * Scalar.nanosPerSecond / speed)
  refine ⟨time,?_⟩
  show bound < speed * ((time : Rat) / _)
  rw [div_lt_iff₀ fast] at later
  rw [← mul_div_assoc,lt_div_iff₀ second]
  linarith

/-- Where a carriage comes that may move by a number of ticks toward a goal. -/
def Travel.toward (travel : Travel) (goal step place : Rat) : Rat :=
  max travel.lower.ticks (min (place + max (-step) (min (goal - place) step)) travel.upper.ticks)

namespace Travel

variable {travel : Travel} {goal step place bound : Rat}

/-- On its way to a goal a carriage does not turn and does not pass it. -/
theorem toward_between (lower : (travel.lower.ticks : Rat) ≤ place) (upper : place ≤ travel.upper.ticks)
    (forward : 0 ≤ step) : travel.toward goal step place ∈ Set.uIcc place goal := by
  rw [Set.mem_uIcc]
  unfold toward
  rcases le_total place goal with up | down
  · left
    have rises : 0 ≤ max (-step) (min (goal - place) step) :=
      le_max_of_le_right (le_min (by linarith) forward)
    have short : max (-step) (min (goal - place) step) ≤ goal - place :=
      max_le (by linarith) (min_le_left _ _)
    exact ⟨le_max_of_le_right (le_min (by linarith) upper),max_le (by linarith) (min_le_of_left_le (by linarith))⟩
  · right
    have falls : max (-step) (min (goal - place) step) ≤ 0 :=
      max_le (by linarith) (min_le_of_left_le (by linarith))
    have short : goal - place ≤ max (-step) (min (goal - place) step) :=
      le_max_of_le_right (le_min le_rfl (by linarith))
    have far : goal ≤ min (place + max (-step) (min (goal - place) step)) travel.upper.ticks :=
      le_min (by linarith) (down.trans upper)
    exact ⟨le_max_of_le_right far,max_le lower (min_le_of_left_le (by linarith))⟩

/-- What is left of the way to a goal within the travel gets shorter by the step. -/
theorem toward_near (lower : (travel.lower.ticks : Rat) ≤ goal) (upper : goal ≤ travel.upper.ticks) (nonneg : 0 ≤ bound)
    (near : |goal - place| ≤ step + bound) : |goal - travel.toward goal step place| ≤ bound := by
  obtain ⟨behind,ahead⟩ := abs_le.mp near
  have reach : goal - place - bound ≤ max (-step) (min (goal - place) step) :=
    le_max_of_le_right (le_min (by linarith) (by linarith))
  have stay : max (-step) (min (goal - place) step) ≤ goal - place + bound :=
    max_le (by linarith) (min_le_of_left_le (by linarith))
  have far : goal - bound ≤ travel.toward goal step place :=
    le_max_of_le_right (le_min (by linarith) (by linarith))
  have close : travel.toward goal step place ≤ goal + bound :=
    max_le (by linarith) (min_le_of_left_le (by linarith))
  exact abs_le.mpr ⟨by linarith,by linarith⟩

end Travel

theorem exact_le_abs (x bound : Rat) : Scalar.le (Scalar.abs x) bound = true ↔ |x| ≤ bound := by
  have size : Scalar.abs x = |x| := by
    show (if decide (x < ((0 : Int) : Rat)) = true then ((0 : Int) : Rat) - x else x) = _
    rw [Int.cast_zero,zero_sub]
    split
    next negative => exact (abs_of_neg (of_decide_eq_true negative)).symm
    next positive => exact (abs_of_nonneg (not_lt.mp (by simpa using positive))).symm
  rw [size]
  exact decide_eq_true_iff

theorem exact_step_sign {x step : Rat} (forward : 0 ≤ step) (far : step < |x|) :
    step * Scalar.sign x = max (-step) (min x step) := by
  show step * (if decide (x < ((0 : Int) : Rat)) = true then ((-1 : Int) : Rat)
    else if decide (((0 : Int) : Rat) < x) = true then ((1 : Int) : Rat) else x) = _
  rw [Int.cast_zero]
  rcases lt_abs.mp far with up | down
  · rw [if_neg (by simpa using (forward.trans up.le)),if_pos (decide_eq_true (forward.trans_lt up)),Int.cast_one,
      mul_one,min_eq_right up.le,max_eq_right (by linarith)]
  · rw [if_pos (decide_eq_true (by linarith)),min_eq_left (by linarith),max_eq_left (by linarith)]
    push_cast
    ring

namespace Simulated

variable {travel : Travel} {m : Simulated Rat} {duty : Int} {target : Raw} {now deadline : Nat}

theorem Placed.within (placed : Placed travel m) :
    (travel.lower.ticks : Rat) ≤ m.carriage ∧ m.carriage ≤ travel.upper.ticks :=
  ⟨not_lt.mp (of_decide_eq_false placed.above),not_lt.mp (of_decide_eq_false placed.below)⟩

theorem push_cases (m : Simulated Rat) (place : Rat) :
    (m.push place).stalled = true ∨ m.push place = { m with carriage := place } := by
  unfold push moveTo
  dsimp only
  cases Scalar.lt place (Scalar.ofInt m.lower.ticks) with
  | true => exact .inl rfl
  | false =>
    cases Scalar.lt (Scalar.ofInt m.upper.ticks) place with
    | true => exact .inl rfl
    | false => exact .inr rfl

/-- The velocity of a motor that is driven. -/
def velocity (duty : Int) (m : Simulated Rat) : Rat := duty * m.ticksPerDuty

/-- A motor that is driven for so long passes the end of its travel. -/
def PastBy (travel : Travel) (duty : Int) (m : Simulated Rat) (deadline : Nat) : Prop :=
  let place := m.carriage + m.velocity duty * Scalar.seconds (deadline - m.updated)
  if 0 < duty then travel.upper.ticks < place else place < travel.lower.ticks

namespace Runs

theorem speed_pos (runs : Runs travel duty m) : 0 < m.ticksPerDuty := by
  have fast : decide (((0 : Int) : Rat) < m.ticksPerDuty) = true := runs.speed
  simpa using fast

theorem passes (runs : Runs travel duty m) (driven : duty ≠ 0) : ∃ deadline, PastBy travel duty m deadline := by
  have fast := runs.speed_pos
  unfold PastBy velocity
  rcases Int.lt_or_gt_of_ne driven with down | up
  · have falls : (0 : Rat) < -(duty * m.ticksPerDuty) := by
      have down : (duty : Rat) < 0 := by exact_mod_cast down
      linarith [mul_neg_of_neg_of_pos down fast]
    obtain ⟨time,past⟩ := seconds_exceed (m.carriage - travel.lower.ticks) _ falls
    refine ⟨m.updated + time,?_⟩
    rw [if_neg (by omega),Nat.add_sub_cancel_left]
    linarith
  · have rises : (0 : Rat) < duty * m.ticksPerDuty := by
      have up : (0 : Rat) < duty := by exact_mod_cast up
      positivity
    obtain ⟨time,past⟩ := seconds_exceed (travel.upper.ticks - m.carriage) _ rises
    refine ⟨m.updated + time,?_⟩
    rw [if_pos up,Nat.add_sub_cancel_left]
    linarith

/-- A motor that still runs is where its velocity has brought it. -/
theorem carriage_advance (runs : Runs travel duty m) (later : Runs travel duty (m.advance now)) :
    (m.advance now).carriage = m.carriage + m.velocity duty * Scalar.seconds (now - m.updated) := by
  have straight : m.direction = ((1 : Int) : Rat) := by
    unfold direction
    rw [runs.polarity]
    rfl
  have running := later.unstalled
  unfold velocity
  rw [← runs.duty]
  rcases advance_direct runs.drive now with ⟨same,still⟩ | ⟨_,same⟩
  · rw [same]
    rcases still with none | zero
    · rw [none,seconds_zero]
      ring
    · have zero : m.direction * ((m.duty : Int) : Rat) * m.ticksPerDuty = 0 := beq_iff_eq.mp zero
      rw [straight] at zero
      have zero : (m.duty : Rat) * m.ticksPerDuty = 0 := by simpa using zero
      rw [zero]
      ring
  · rw [same] at running ⊢
    rcases push_cases _ _ with stalled | moved
    · exact absurd (stalled.symm.trans running) (by decide)
    · rw [moved,straight]
      show m.carriage + ((1 : Int) : Rat) * (m.duty : Rat) * m.ticksPerDuty * _ = _
      push_cast
      ring

/-- A motor that still runs has not passed the end of its travel, and it will at the same time as before. -/
theorem pastBy_advance (runs : Runs travel duty m) (later : Runs travel duty (m.advance now))
    (past : PastBy travel duty m deadline) : PastBy travel duty (m.advance now) deadline ∧ now < deadline := by
  have fast := runs.speed_pos
  have moved := runs.carriage_advance later
  have split := seconds_split deadline now m.updated
  obtain ⟨lower,upper⟩ := later.within
  have here := m.advance_updated now
  have same : (m.advance now).velocity duty = m.velocity duty := by
    unfold velocity
    rw [show (m.advance now).ticksPerDuty = m.ticksPerDuty from congrArg Build.ticksPerDuty (m.advance_build now)]
  have early : PastBy travel duty (m.advance now) deadline := by
    unfold PastBy at past ⊢
    rw [same,moved,here]
    dsimp only at past ⊢
    unfold velocity at past ⊢
    by_cases direction : 0 < duty
    · rw [if_pos direction] at past ⊢
      have up : (0 : Rat) < duty := by exact_mod_cast direction
      have rises : (0 : Rat) ≤ duty * m.ticksPerDuty := by positivity
      linarith [mul_le_mul_of_nonneg_left split rises]
    · rw [if_neg direction] at past ⊢
      have down : (duty : Rat) ≤ 0 := by exact_mod_cast not_lt.mp direction
      have falls : duty * m.ticksPerDuty ≤ (0 : Rat) := mul_nonpos_of_nonpos_of_nonneg down fast.le
      linarith [mul_le_mul_of_nonpos_left split falls]
  refine ⟨early,?_⟩
  by_contra late
  unfold PastBy at early
  rw [here,Nat.sub_eq_zero_of_le (Nat.le_of_not_lt late),seconds_zero] at early
  simp only [mul_zero,add_zero] at early
  split at early <;> linarith

end Runs

theorem Placed.encoder (placed : Placed travel m) : m.encoder = travel.reading m.carriage := by
  unfold Simulated.encoder direction
  rw [placed.polarity,placed.zero]
  show (Position.saturate (Position.saturate (roundAwayFromZero
    (((1 : Int) : Rat) * (m.carriage - travel.start.ticks))) : Physical).ticks : Raw) = _
  rw [Int.cast_one,one_mul]
  refine Position.ext ?_
  simp only [Travel.reading,Position.ticks_saturate,minTicks,maxTicks]
  omega

theorem moveTo_exact (m : Simulated Rat) (place : Rat) (ordered : m.lower.ticks ≤ m.upper.ticks) :
    ∃ stopped, m.moveTo place = ({ m with carriage := max m.lower.ticks (min place m.upper.ticks) },stopped) ∧
      (stopped = false → (m.lower.ticks : Rat) ≤ place ∧ place ≤ m.upper.ticks) := by
  have ordered : (m.lower.ticks : Rat) ≤ m.upper.ticks := by exact_mod_cast ordered
  unfold moveTo
  dsimp only
  by_cases low : place < m.lower.ticks
  · have below : Scalar.lt place (Scalar.ofInt m.lower.ticks) = true := decide_eq_true low
    rw [below,max_eq_left (min_le_of_left_le low.le)]
    exact ⟨true,rfl,nofun⟩
  have below : Scalar.lt place (Scalar.ofInt m.lower.ticks) = false := decide_eq_false low
  rw [below]
  by_cases high : m.upper.ticks < place
  · have above : Scalar.lt (Scalar.ofInt m.upper.ticks) place = true := decide_eq_true high
    rw [above,min_eq_right high.le,max_eq_right ordered]
    exact ⟨true,rfl,nofun⟩
  · have above : Scalar.lt (Scalar.ofInt m.upper.ticks) place = false := decide_eq_false high
    rw [above,min_eq_left (not_lt.mp high),max_eq_right (not_lt.mp low)]
    exact ⟨false,rfl,fun _ => ⟨not_lt.mp low,not_lt.mp high⟩⟩

theorem step_nonneg (m : Simulated Rat) (time : Nat) : 0 ≤ m.step time :=
  mul_nonneg (Nat.cast_nonneg _) (seconds_nonneg time)

theorem step_mono (m : Simulated Rat) {time later : Nat} (le : time ≤ later) : m.step time ≤ m.step later := by
  have longer : (Scalar.seconds time : Rat) ≤ Scalar.seconds later := by
    show (time : Rat) / _ ≤ (later : Rat) / _
    gcongr
  exact mul_le_mul_of_nonneg_left longer (Nat.cast_nonneg _)

theorem push_exact (m : Simulated Rat) (place : Rat) (ordered : m.lower.ticks ≤ m.upper.ticks) :
    ∃ stalled, m.push place = { m with carriage := max m.lower.ticks (min place m.upper.ticks), stalled } := by
  obtain ⟨stopped,moved,_⟩ := m.moveTo_exact place ordered
  unfold push
  rw [moved]
  cases stopped with
  | true => exact ⟨true,rfl⟩
  | false => exact ⟨m.stalled,rfl⟩

theorem step_zero (m : Simulated Rat) : m.step 0 = 0 := by
  unfold step
  rw [seconds_zero]
  exact mul_zero _

namespace Heads

theorem goal (heads : Heads travel target m) : m.goal = travel.goal target := by
  unfold Simulated.goal direction Travel.goal
  rw [heads.polarity,heads.zero,heads.aim]
  show (travel.start.ticks : Rat) + ((1 : Int) : Rat) * target.ticks = _
  rw [Int.cast_one,one_mul]

/-- As time goes by a motor that runs to a target moves toward it, or comes there and holds it. -/
theorem advance_running (heads : Heads travel target m) (running : m.drive = .toTarget) (now : Nat) :
    ∃ drive stalled,
      m.advance now = { m with
        carriage := travel.toward (travel.goal target) (m.step (now - m.updated)) m.carriage
        drive, stalled, updated := now } ∧
      (drive = .toTarget ∨ drive = .holding ∧
        travel.toward (travel.goal target) (m.step (now - m.updated)) m.carriage = travel.goal target) := by
  obtain ⟨lower,upper⟩ := heads.within
  have ordered : m.lower.ticks ≤ m.upper.ticks := by
    rw [heads.lower,heads.upper]
    exact heads.ordered
  have forward := m.step_nonneg (now - m.updated)
  have moved := advance_toTarget running now
  rw [heads.goal] at moved
  rcases moved with ⟨moved,none⟩ | ⟨close,moved⟩ | ⟨far,moved⟩
  · have still : travel.toward (travel.goal target) (m.step (now - m.updated)) m.carriage = m.carriage := by
      rw [none,step_zero]
      unfold Travel.toward
      rw [neg_zero,max_eq_left (min_le_right _ _),add_zero,min_eq_left upper,max_eq_right lower]
    rw [moved,still]
    exact ⟨_,_,rfl,.inl running⟩
  · generalize m.step (now - m.updated) = step at *
    rw [exact_le_abs] at close
    obtain ⟨behind,ahead⟩ := abs_le.mp close
    have place : travel.toward (travel.goal target) step m.carriage =
        max (m.lower.ticks : Rat) (min (travel.goal target) m.upper.ticks) := by
      unfold Travel.toward
      rw [min_eq_left ahead,max_eq_right behind,add_sub_cancel,heads.lower,heads.upper]
    obtain ⟨stopped,put,inside⟩ := moveTo_exact { m with updated := now } (travel.goal target) ordered
    rw [moved,put,place]
    cases stopped with
    | true => exact ⟨_,_,rfl,.inl running⟩
    | false =>
      obtain ⟨above,below⟩ := inside rfl
      refine ⟨_,_,rfl,.inr ⟨if_pos heads.stopAction,?_⟩⟩
      rw [min_eq_left below,max_eq_right above]
  · generalize m.step (now - m.updated) = step at *
    have far : step < |travel.goal target - m.carriage| := by
      rw [← not_le,← exact_le_abs,far]
      decide
    obtain ⟨stalled,pushed⟩ := push_exact { m with updated := now }
      (m.carriage + step * Scalar.sign (travel.goal target - m.carriage)) ordered
    rw [moved,pushed,exact_step_sign forward far]
    refine ⟨m.drive,stalled,?_,.inl running⟩
    unfold Travel.toward
    rw [← heads.lower,← heads.upper]

/-- A motor that heads for a target keeps to it and does not turn on its way. -/
theorem advance (heads : Heads travel target m) (now : Nat) :
    Heads travel target (m.advance now) ∧ (m.advance now).carriage ∈ Set.uIcc m.carriage (travel.goal target) := by
  obtain ⟨lower,upper⟩ := heads.within
  rcases heads.drive with running | holding
  · obtain ⟨drive,stalled,same,drives⟩ := heads.advance_running running now
    have ordered : (travel.lower.ticks : Rat) ≤ travel.upper.ticks := lower.trans upper
    rw [same]
    refine ⟨{ heads with
      drive := drives.imp_right And.left
      above := decide_eq_false (not_lt.mpr (le_max_left _ _))
      below := decide_eq_false (not_lt.mpr (max_le ordered (min_le_right _ _))) },?_⟩
    exact Travel.toward_between lower upper (m.step_nonneg _)
  · rw [advance_holding holding]
    exact ⟨{ heads with },Set.left_mem_uIcc⟩

/-- Once the encoder reads the target it goes on to do so. -/
theorem encoder_advance (heads : Heads travel target m) (there : m.encoder = target) (now : Nat) :
    (m.advance now).encoder = target := by
  obtain ⟨later,between⟩ := heads.advance now
  rw [heads.encoder] at there
  rw [later.encoder]
  exact Travel.reading_between between there

end Heads

/-- A motor that heads for a target and, if nothing is in the way, is there at a deadline. -/
structure Arrives (travel : Travel) (target : Raw) (deadline : Nat) (m : Simulated Rat) : Prop
    extends Heads travel target m where
  near : |travel.goal target - m.carriage| ≤ m.step (deadline - m.updated)
  moving : m.drive = .toTarget ∨ m.carriage = travel.goal target

namespace Arrives

variable (lower : (travel.lower.ticks : Rat) ≤ travel.goal target) (upper : travel.goal target ≤ travel.upper.ticks)

theorem of_heads (heads : Heads travel target m) (running : m.drive = .toTarget) (moves : m.speed ≠ 0) :
    ∃ deadline, Arrives travel target deadline m := by
  have fast : (0 : Rat) < m.speed.natAbs := by exact_mod_cast Int.natAbs_pos.mpr moves
  obtain ⟨time,far⟩ := seconds_exceed |travel.goal target - m.carriage| _ fast
  refine ⟨m.updated + time,{ heads with near := ?_, moving := .inl running }⟩
  rw [Nat.add_sub_cancel_left]
  exact far.le

theorem later {later : Nat} (arrives : Arrives travel target deadline m) (le : deadline ≤ later) :
    Arrives travel target later m where
  toHeads := arrives.toHeads
  near := arrives.near.trans (m.step_mono (Nat.sub_le_sub_right le _))
  moving := arrives.moving

include lower upper

theorem advance (arrives : Arrives travel target deadline m) (now : Nat) :
    Arrives travel target deadline (m.advance now) := by
  obtain ⟨later,between⟩ := arrives.toHeads.advance now
  rcases arrives.moving with running | there
  · obtain ⟨drive,stalled,same,drives⟩ := arrives.advance_running running now
    have near : |travel.goal target - m.carriage| ≤ m.step (now - m.updated) + m.step (deadline - now) := by
      have split := mul_le_mul_of_nonneg_left (seconds_split deadline now m.updated)
        (Nat.cast_nonneg (α := Rat) m.speed.natAbs)
      rw [mul_add] at split
      exact arrives.near.trans split
    have left := Travel.toward_near lower upper (m.step_nonneg _) near
    refine { later with near := ?_, moving := ?_ }
    · rw [same]
      exact left
    · rw [same]
      exact drives.imp_right And.right
  · rw [there,Set.uIcc_self] at between
    refine { later with near := ?_, moving := .inr between }
    rw [between,sub_self,abs_zero]
    exact step_nonneg _ _

/-- From the deadline on the encoder reads the target. -/
theorem encoder (arrives : Arrives travel target deadline m) (late : deadline ≤ now) :
    (m.advance now).encoder = target := by
  have later := arrives.advance lower upper now
  have near := later.near
  rw [m.advance_updated now,Nat.sub_eq_zero_of_le late,step_zero,abs_nonpos_iff,sub_eq_zero] at near
  rw [later.toPlaced.encoder,← near]
  exact travel.reading_goal target

end Arrives

end Simulated
end PenPlotter.Motor
