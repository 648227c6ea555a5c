import PenPlotter.Proofs.Motor.Exact

/-! Motion that is looked at on its way. In exact arithmetic a motor that is brought up to date in between comes to the
same state as one that is left alone: two pushes in one direction are one push, a motor that stalls on its way stays
where it is, and one that has come to its target rests. -/

namespace PenPlotter.Motor

theorem seconds_add (time more : Nat) :
    (Scalar.seconds (time + more) : Rat) = Scalar.seconds time + Scalar.seconds more := by
  show ((time + more : Nat) : Rat) / _ = (time : Rat) / _ + (more : Rat) / _
  rw [← add_div]
  push_cast
  rfl

theorem exact_sign_pos {x : Rat} (up : 0 < x) : Scalar.sign x = 1 := by
  show (if decide (x < ((0 : Int) : Rat)) = true then ((-1 : Int) : Rat)
    else if decide (((0 : Int) : Rat) < x) = true then ((1 : Int) : Rat) else x) = _
  rw [Int.cast_zero,if_neg (by simpa using up.le),if_pos (decide_eq_true up)]
  rfl

theorem exact_sign_neg {x : Rat} (down : x < 0) : Scalar.sign x = -1 := by
  show (if decide (x < ((0 : Int) : Rat)) = true then ((-1 : Int) : Rat)
    else if decide (((0 : Int) : Rat) < x) = true then ((1 : Int) : Rat) else x) = _
  rw [Int.cast_zero,if_pos (decide_eq_true down)]
  rfl

namespace Simulated

variable {m : Simulated Rat} {place : Rat}

/-- The carriage is within the travel. -/
def Within (m : Simulated Rat) : Prop := (m.lower.ticks : Rat) ≤ m.carriage ∧ m.carriage ≤ m.upper.ticks

theorem Within.ordered (within : m.Within) : (m.lower.ticks : Rat) ≤ m.upper.ticks := within.1.trans within.2

/-! Where a motor is put that is to go to a place. -/

theorem moveTo_inside (lower : (m.lower.ticks : Rat) ≤ place) (upper : place ≤ m.upper.ticks) :
    m.moveTo place = ({ m with carriage := place },false) := by
  have above : Scalar.lt place (Scalar.ofInt m.lower.ticks) = false := decide_eq_false (not_lt.mpr lower)
  have below : Scalar.lt (Scalar.ofInt m.upper.ticks) place = false := decide_eq_false (not_lt.mpr upper)
  simp [moveTo,above,below]

theorem moveTo_below (lower : place < m.lower.ticks) :
    m.moveTo place = ({ m with carriage := (m.lower.ticks : Rat) },true) := by
  have below : Scalar.lt place (Scalar.ofInt m.lower.ticks) = true := decide_eq_true lower
  simp only [moveTo,below,↓reduceIte]
  rfl

theorem moveTo_above (ordered : (m.lower.ticks : Rat) ≤ m.upper.ticks) (upper : m.upper.ticks < place) :
    m.moveTo place = ({ m with carriage := (m.upper.ticks : Rat) },true) := by
  have inside : Scalar.lt place (Scalar.ofInt m.lower.ticks) = false :=
    decide_eq_false (not_lt.mpr (ordered.trans upper.le))
  have above : Scalar.lt (Scalar.ofInt m.upper.ticks) place = true := decide_eq_true upper
  simp only [moveTo,inside,above,Bool.false_eq_true,↓reduceIte]
  rfl

theorem push_inside (lower : (m.lower.ticks : Rat) ≤ place) (upper : place ≤ m.upper.ticks) :
    m.push place = { m with carriage := place } := by
  simp [push,moveTo_inside lower upper]

theorem push_below (lower : place < m.lower.ticks) :
    m.push place = { m with carriage := (m.lower.ticks : Rat), stalled := true } := by
  simp [push,moveTo_below lower]

theorem push_above (ordered : (m.lower.ticks : Rat) ≤ m.upper.ticks) (upper : m.upper.ticks < place) :
    m.push place = { m with carriage := (m.upper.ticks : Rat), stalled := true } := by
  simp [push,moveTo_above ordered upper]

/-- Two pushes in one direction are one push. -/
theorem push_push (within : m.Within) {a b : Rat} (oneWay : 0 ≤ a ∧ 0 ≤ b ∨ a ≤ 0 ∧ b ≤ 0) :
    (m.push (m.carriage + a)).push ((m.push (m.carriage + a)).carriage + b) = m.push (m.carriage + (a + b)) := by
  obtain ⟨lower,upper⟩ := within
  have ordered := lower.trans upper
  rcases lt_or_ge (m.carriage + a) m.lower.ticks with below | above
  · have down : b ≤ 0 := by rcases oneWay with ⟨_,_⟩ | ⟨_,_⟩ <;> linarith
    rw [push_below below,push_below (by linarith : m.carriage + (a + b) < _)]
    rcases down.lt_or_eq with further | rfl
    · exact push_below (by show (m.lower.ticks : Rat) + b < m.lower.ticks; linarith)
    · rw [add_zero]
      exact push_inside le_rfl ordered
  rcases lt_or_ge (m.upper.ticks : Rat) (m.carriage + a) with beyond | inside
  · have up : 0 ≤ b := by rcases oneWay with ⟨_,_⟩ | ⟨_,_⟩ <;> linarith
    rw [push_above ordered beyond,push_above ordered (by linarith : _ < m.carriage + (a + b))]
    rcases up.lt_or_eq with further | rfl
    · exact push_above ordered (by show (m.upper.ticks : Rat) < m.upper.ticks + b; linarith)
    · rw [add_zero]
      exact push_inside ordered le_rfl
  · rw [push_inside above inside]
    simp only [add_assoc]
    rfl

section Arithmetic

variable {R : Type} [Scalar R]

/-- What becomes of a motor that is close to its target. -/
def arrive (m : Simulated R) : Simulated R :=
  match m.moveTo m.goal with
  | (m, true) => { m with stalled := true }
  | (m, false) => { m with drive := m.resting, stalled := false }

theorem travelFor_running {m : Simulated R} (running : m.drive = .toTarget) (time : Nat) :
    m.travelFor time =
      if Scalar.le (Scalar.abs (m.goal - m.carriage)) (m.step time) then m.arrive
      else m.push (m.carriage + m.step time * Scalar.sign (m.goal - m.carriage)) := by
  obtain ⟨_,_,_,_,_,_,_,_,_,_,_,_,_,_,_⟩ := m
  obtain rfl := running
  rfl

end Arithmetic

theorem travelFor_direct (direct : m.drive = .direct) (time : Nat) :
    m.travelFor time =
      if Scalar.isZero (m.direction * Scalar.ofInt m.duty * m.ticksPerDuty) then m
      else m.push (m.carriage + m.direction * Scalar.ofInt m.duty * m.ticksPerDuty * Scalar.seconds time) := by
  simp [travelFor,direct]

theorem travelFor_toTarget (running : m.drive = .toTarget) (time : Nat) :
    m.travelFor time =
      if |m.goal - m.carriage| ≤ m.step time then m.arrive
      else m.push (m.carriage + m.step time * Scalar.sign (m.goal - m.carriage)) := by
  rw [travelFor_running running]
  simp only [exact_le_abs]

theorem travelFor_resting (rests : m.drive = .idle ∨ m.drive = .holding) (time : Nat) : m.travelFor time = m := by
  rcases rests with idle | holding
  · simp [travelFor,idle]
  · simp [travelFor,holding]

theorem resting_cases (m : Simulated Rat) : m.resting = .idle ∨ m.resting = .holding := by
  unfold resting
  split
  · exact .inr rfl
  · exact .inl rfl

theorem step_add (m : Simulated Rat) (time more : Nat) : m.step (time + more) = m.step time + m.step more := by
  unfold step
  rw [seconds_add,mul_add]

theorem arrive_inside (lower : (m.lower.ticks : Rat) ≤ m.goal) (upper : m.goal ≤ m.upper.ticks) :
    m.arrive = { m with carriage := m.goal, drive := m.resting, stalled := false } := by
  unfold arrive
  rw [moveTo_inside lower upper]
  rfl

theorem arrive_below (lower : m.goal < m.lower.ticks) :
    m.arrive = { m with carriage := (m.lower.ticks : Rat), stalled := true } := by
  unfold arrive
  rw [moveTo_below lower]

theorem arrive_above (ordered : (m.lower.ticks : Rat) ≤ m.upper.ticks) (upper : m.upper.ticks < m.goal) :
    m.arrive = { m with carriage := (m.upper.ticks : Rat), stalled := true } := by
  unfold arrive
  rw [moveTo_above ordered upper]

/-- A motor that has stalled stays where it is while it pushes the same way. -/
theorem push_stuck (ordered : (m.lower.ticks : Rat) ≤ m.upper.ticks) (stalled : m.stalled = true) {way : Rat}
    (stuck : m.carriage = m.upper.ticks ∧ 0 ≤ way ∨ m.carriage = m.lower.ticks ∧ way ≤ 0) :
    m.push (m.carriage + way) = m := by
  rcases stuck with ⟨here,up⟩ | ⟨here,down⟩
  · rcases up.lt_or_eq with further | rfl
    · rw [push_above ordered (by linarith),← here,← stalled]
    · rw [add_zero,push_inside (by linarith) (by linarith)]
  · rcases down.lt_or_eq with further | rfl
    · rw [push_below (by linarith),← here,← stalled]
    · rw [add_zero,push_inside (by linarith) (by linarith)]

/-- A motor whose target lies beyond the end of the travel stays there once it has stalled. -/
theorem travelFor_stuck (running : m.drive = .toTarget) (ordered : (m.lower.ticks : Rat) ≤ m.upper.ticks)
    (stalled : m.stalled = true)
    (stuck : m.carriage = m.upper.ticks ∧ m.upper.ticks < m.goal ∨ m.carriage = m.lower.ticks ∧ m.goal < m.lower.ticks)
    (time : Nat) : m.travelFor time = m := by
  have forward := m.step_nonneg time
  rw [travelFor_toTarget running]
  rcases stuck with ⟨here,beyond⟩ | ⟨here,beyond⟩
  · split
    · rw [arrive_above ordered beyond,← here,← stalled]
    · rw [exact_sign_pos (by linarith),mul_one]
      exact push_stuck ordered stalled (.inl ⟨here,forward⟩)
  · split
    · rw [arrive_below beyond,← here,← stalled]
    · rw [exact_sign_neg (by linarith),mul_neg_one]
      exact push_stuck ordered stalled (.inr ⟨here,neg_nonpos.mpr forward⟩)

/-- A motor that was close to its target has stopped there or at the end of the travel before it. -/
theorem travelFor_arrive (ordered : (m.lower.ticks : Rat) ≤ m.upper.ticks) (running : m.drive = .toTarget) (time : Nat) :
    m.arrive.travelFor time = m.arrive := by
  rcases lt_or_ge m.goal m.lower.ticks with below | above
  · rw [arrive_below below]
    exact travelFor_stuck (m := { m with carriage := (m.lower.ticks : Rat), stalled := true }) running ordered rfl
      (.inr ⟨rfl,below⟩) time
  rcases lt_or_ge (m.upper.ticks : Rat) m.goal with beyond | inside
  · rw [arrive_above ordered beyond]
    exact travelFor_stuck (m := { m with carriage := (m.upper.ticks : Rat), stalled := true }) running ordered rfl
      (.inl ⟨rfl,beyond⟩) time
  · rw [arrive_inside above inside]
    exact travelFor_resting m.resting_cases time

theorem exact_sign_cases {way : Rat} (far : 0 < |way|) :
    Scalar.sign way = 1 ∧ |way| = way ∨ Scalar.sign way = -1 ∧ |way| = -way := by
  rcases lt_abs.mp far with up | down
  · exact .inl ⟨exact_sign_pos up,abs_of_pos up⟩
  · have down : way < 0 := neg_pos.mp down
    exact .inr ⟨exact_sign_neg down,abs_of_neg down⟩

/-- What is left of the way to a target is as much shorter as the step that was made. -/
theorem exact_sign_left {place goal step : Rat} (forward : 0 ≤ step) (far : step < |goal - place|) :
    let left := goal - (place + step * Scalar.sign (goal - place))
    Scalar.sign left = Scalar.sign (goal - place) ∧ |left| = |goal - place| - step := by
  intro left
  have same : left = goal - place - step * Scalar.sign (goal - place) := sub_add_eq_sub_sub ..
  rcases exact_sign_cases (forward.trans_lt far) with ⟨sign,size⟩ | ⟨sign,size⟩
  · rw [sign,mul_one] at same
    rw [size] at far ⊢
    have up : 0 < left := by linarith
    exact ⟨(exact_sign_pos up).trans sign.symm,(abs_of_pos up).trans same⟩
  · rw [sign,mul_neg_one] at same
    rw [size] at far ⊢
    have down : left < 0 := by linarith
    exact ⟨(exact_sign_neg down).trans sign.symm,by rw [abs_of_neg down,same]; ring⟩

/-- Where a motor is that has been moved toward its target and has stalled or comes closer. -/
theorem travelFor_toTarget_add (within : m.Within) (running : m.drive = .toTarget) (time more : Nat) :
    (m.travelFor time).travelFor more = m.travelFor (time + more) := by
  have ordered := within.ordered
  have forward := m.step_nonneg time
  have onward := m.step_nonneg more
  rw [travelFor_toTarget running time,travelFor_toTarget running (time + more),step_add]
  by_cases close : |m.goal - m.carriage| ≤ m.step time
  · rw [if_pos close,if_pos (by linarith)]
    exact travelFor_arrive ordered running more
  rw [if_neg close]
  have far : m.step time < |m.goal - m.carriage| := not_le.mp close
  have turned := exact_sign_cases (forward.trans_lt far)
  rcases lt_or_ge (m.carriage + m.step time * Scalar.sign (m.goal - m.carriage)) m.lower.ticks with below | above
  · -- The motor has run against the lower end of the travel.
    obtain ⟨sign,size⟩ := turned.resolve_left fun ⟨sign,_⟩ => by
      rw [sign] at below
      linarith [within.1]
    rw [sign,mul_neg_one] at below ⊢
    rw [size] at far ⊢
    have past : m.goal < m.lower.ticks := by linarith
    rw [push_below below,travelFor_stuck (m := { m with carriage := (m.lower.ticks : Rat), stalled := true })
      running ordered rfl (.inr ⟨rfl,past⟩)]
    split
    · rw [arrive_below past]
    · rw [push_below (by linarith)]
  rcases lt_or_ge (m.upper.ticks : Rat) (m.carriage + m.step time * Scalar.sign (m.goal - m.carriage))
    with beyond | inside
  · -- The motor has run against the upper end of the travel.
    obtain ⟨sign,size⟩ := turned.resolve_right fun ⟨sign,_⟩ => by
      rw [sign] at beyond
      linarith [within.2]
    rw [sign,mul_one] at beyond ⊢
    rw [size] at far ⊢
    have past : (m.upper.ticks : Rat) < m.goal := by linarith
    rw [push_above ordered beyond,travelFor_stuck (m := { m with carriage := (m.upper.ticks : Rat), stalled := true })
      running ordered rfl (.inl ⟨rfl,past⟩)]
    split
    · rw [arrive_above ordered past]
    · rw [push_above ordered (by linarith)]
  · -- The motor is on its way, and what is left of it is shorter.
    have moved := travelFor_toTarget
      (m := { m with carriage := m.carriage + m.step time * Scalar.sign (m.goal - m.carriage) }) running more
    obtain ⟨sign,size⟩ := exact_sign_left forward far
    rw [push_inside above inside,moved]
    show (if |m.goal - (m.carriage + m.step time * Scalar.sign (m.goal - m.carriage))| ≤ m.step more then m.arrive
      else m.push (m.carriage + m.step time * Scalar.sign (m.goal - m.carriage) + m.step more *
        Scalar.sign (m.goal - (m.carriage + m.step time * Scalar.sign (m.goal - m.carriage))))) = _
    rw [sign,size,add_assoc,← add_mul]
    simp only [sub_le_iff_le_add']

/-- A motion of two lengths of time is one of their sum. -/
theorem travelFor_add (within : m.Within) (time more : Nat) :
    (m.travelFor time).travelFor more = m.travelFor (time + more) := by
  cases drive : m.drive with
  | idle => rw [travelFor_resting (.inl drive),travelFor_resting (.inl drive),travelFor_resting (.inl drive)]
  | holding => rw [travelFor_resting (.inr drive),travelFor_resting (.inr drive),travelFor_resting (.inr drive)]
  | toTarget => exact travelFor_toTarget_add within drive time more
  | direct =>
    rw [travelFor_direct drive time,travelFor_direct drive (time + more)]
    split
    next still => rw [travelFor_direct drive,if_pos still]
    next runs =>
      have oneWay (v : Rat) : 0 ≤ v * Scalar.seconds time ∧ 0 ≤ v * Scalar.seconds more ∨
          v * Scalar.seconds time ≤ 0 ∧ v * Scalar.seconds more ≤ 0 := by
        have first := seconds_nonneg time
        have second := seconds_nonneg more
        rcases le_total 0 v with up | down
        · exact .inl ⟨mul_nonneg up first,mul_nonneg up second⟩
        · exact .inr ⟨mul_nonpos_of_nonpos_of_nonneg down first,mul_nonpos_of_nonpos_of_nonneg down second⟩
      have twice := push_push within (oneWay (m.direction * Scalar.ofInt m.duty * m.ticksPerDuty))
      obtain ⟨carriage,stalled,pushed⟩ :=
        m.push_eq (m.carriage + m.direction * Scalar.ofInt m.duty * m.ticksPerDuty * Scalar.seconds time)
      rw [pushed] at twice ⊢
      rw [travelFor_direct (m := { m with carriage, stalled }) drive]
      rw [seconds_add,mul_add,← twice]
      exact if_neg runs

/-- The motor with another instant up to which its motion has been integrated. -/
def dated (m : Simulated Rat) (now : Nat) : Simulated Rat := { m with updated := now }

theorem moveTo_dated (m : Simulated Rat) (now : Nat) (place : Rat) :
    (m.dated now).moveTo place = ((m.moveTo place).1.dated now,(m.moveTo place).2) := by
  unfold moveTo
  dsimp only
  rw [show (m.dated now).lower = m.lower from rfl,show (m.dated now).upper = m.upper from rfl]
  cases Scalar.lt place (Scalar.ofInt m.lower.ticks) with
  | true => rfl
  | false => cases Scalar.lt (Scalar.ofInt m.upper.ticks) place <;> rfl

theorem push_dated (m : Simulated Rat) (now : Nat) (place : Rat) :
    (m.dated now).push place = (m.push place).dated now := by
  unfold push
  rw [moveTo_dated]
  rcases m.moveTo place with ⟨n,_ | _⟩ <;> rfl

theorem arrive_dated (m : Simulated Rat) (now : Nat) : (m.dated now).arrive = m.arrive.dated now := by
  unfold arrive
  rw [show (m.dated now).goal = m.goal from rfl,moveTo_dated]
  rcases m.moveTo m.goal with ⟨n,_ | _⟩ <;> rfl

theorem travelFor_dated (m : Simulated Rat) (now time : Nat) :
    (m.dated now).travelFor time = (m.travelFor time).dated now := by
  cases drive : m.drive with
  | idle => rw [travelFor_resting (.inl drive),travelFor_resting (m := m.dated now) (.inl drive)]
  | holding => rw [travelFor_resting (.inr drive),travelFor_resting (m := m.dated now) (.inr drive)]
  | direct =>
    rw [travelFor_direct drive,travelFor_direct (m := m.dated now) drive]
    by_cases still : Scalar.isZero (m.direction * Scalar.ofInt m.duty * m.ticksPerDuty) = true
    · rw [if_pos still]
      exact if_pos still
    · rw [if_neg still]
      exact (if_neg still).trans (push_dated ..)
  | toTarget =>
    rw [travelFor_toTarget drive,travelFor_toTarget (m := m.dated now) drive]
    by_cases close : |m.goal - m.carriage| ≤ m.step time
    · rw [if_pos close]
      exact (if_pos close).trans (arrive_dated ..)
    · rw [if_neg close]
      exact (if_neg close).trans (push_dated ..)

theorem advance_later {now : Nat} (later : m.updated < now) :
    m.advance now = (m.travelFor (now - m.updated)).dated now := by
  rw [← travelFor_dated]
  exact if_neg (by omega)

theorem advance_past {now : Nat} (past : now ≤ m.updated) : m.advance now = m.dated now :=
  if_pos (Nat.sub_eq_zero_of_le past)

/-- To be brought up to date on the way makes no difference later on. -/
theorem advance_advance_later (within : m.Within) {earlier now : Nat} (after : m.updated ≤ earlier)
    (before : earlier ≤ now) : (m.advance earlier).advance now = m.advance now := by
  rcases Nat.eq_or_lt_of_le after with same | moved
  · rw [advance_of_updated same]
  rcases Nat.eq_or_lt_of_le before with rfl | later
  · exact m.advance_advance earlier
  have split : now - m.updated = (earlier - m.updated) + (now - earlier) := by omega
  rw [advance_later moved,advance_later (m := (m.travelFor (earlier - m.updated)).dated earlier) later,
    advance_later (moved.trans later),travelFor_dated,split,← travelFor_add within]
  rfl

end Simulated
end PenPlotter.Motor
