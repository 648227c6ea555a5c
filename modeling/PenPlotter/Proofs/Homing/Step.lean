import PenPlotter.Homing.Phase

/-! The transitions of the homing machine, one constructor each, with the effects they ask for. Every
fact about the machine comes from this list and from the legs whose limits a phase has behind it. -/

namespace PenPlotter.Homing

theorem Leg.compensate_eq_ok {leg : Leg} {stalledAt position : Raw} :
    leg.compensate stalledAt = .ok position ↔
      position.ticks = stalledAt.ticks + leg.compensation := by
  unfold compensate Position.offset? Position.ofInt?
  split
  next fits =>
    constructor
    · rintro ⟨rfl⟩; rfl
    · intro h; exact congrArg Except.ok (Position.ext h.symm)
  next outside =>
    have lo := position.min_le
    have hi := position.le_max
    simp; omega

theorem Leg.limit_injective {leg other : Leg} (same : leg.limit = other.limit) : leg = other := by
  cases leg <;> cases other <;> first | rfl | cases same

theorem Leg.limit_surjective (limit : Limit) : ∃ leg : Leg, leg.limit = limit := by
  cases limit with
  | toolUp => exact ⟨.toolUp,rfl⟩
  | toolDown => exact ⟨.toolDown,rfl⟩
  | xMin => exact ⟨.xLeft,rfl⟩
  | xMax => exact ⟨.xRight,rfl⟩
  | yMin => exact ⟨.yMin,rfl⟩
  | yMax => exact ⟨.yMax,rfl⟩

/-- No two legs run the same motor in the same way. -/
theorem Leg.eq_of_duty {leg other : Leg} (axis : leg.axis = other.axis) (duty : leg.duty = other.duty) : leg = other := by
  cases leg <;> cases other <;> first | rfl | exact absurd axis (by decide) | exact absurd duty (by decide)

def Effect.isEnding : Effect → Bool
  | .complete | .fail _ => true
  | _ => false

def Effect.record? : Effect → Option (Limit × Raw)
  | .record limit position => some (limit, position)
  | _ => none

def records (effects : List Effect) : List (Limit × Raw) := effects.filterMap Effect.record?

@[simp] theorem records_append (before after : List Effect) :
    records (before ++ after) = records before ++ records after := List.filterMap_append

theorem records_ending {ending : Effect} (isEnding : ending.isEnding = true) :
    records [.restoreScreen, ending] = [] := by
  cases ending <;> first | rfl | cases isEnding

namespace Phase

def cancellable : Phase → Bool
  | .start | .running _ | .beforeToolDown | .recorded => true
  | .closing _ | .completed | .failed => false

inductive Step : Phase → Observation → Phase → List Effect → Prop where
  | ended : phase.isTerminal = true → Step phase seen phase []
  | dismissed : seen.confirm = true →
      Step (.closing none) seen .completed [.restoreScreen, .complete]
  | refused : seen.confirm = true →
      Step (.closing (some fault)) seen .failed [.restoreScreen, .fail fault]
  | cancelled : phase.cancellable = true → seen.confirm = true →
      Step phase seen .failed [.restoreScreen, .fail .homingCancelled]
  | waited : seen.confirm = false → Step (.closing shown) seen (.closing shown) []
  | begun : seen.confirm = false →
      Step .start seen (.running .toolUp) [.resetMotors, .startLeg .toolUp]
  | watched : seen.confirm = false → seen.stalledAt = none →
      Step (.running leg) seen (.running leg) []
  | stalled : seen.confirm = false → seen.stalledAt = some stalledAt →
      leg.compensate stalledAt = .ok position →
      Step (.running leg) seen (afterLeg leg).1
        (.record leg.limit position :: .stopMotor leg.axis :: (afterLeg leg).2)
  | lowered : seen.confirm = false →
      Step .beforeToolDown seen (.running .toolDown) [.startLeg .toolDown]
  | reported : seen.confirm = false → Step .recorded seen (.closing none) [.showResults]

theorem next_stalled {leg : Leg} (stalledAt : Raw) :
    (running leg).next ⟨false,some stalledAt⟩ = (leg.compensate stalledAt).map fun position =>
      ((afterLeg leg).1,.record leg.limit position :: .stopMotor leg.axis :: (afterLeg leg).2) := by
  simp only [next]
  cases leg.compensate stalledAt <;> rfl

/-- The machine makes exactly these transitions. -/
theorem next_eq_ok {phase after : Phase} {seen : Observation} {effects : List Effect} :
    phase.next seen = .ok (after,effects) ↔ phase.Step seen after effects := by
  constructor
  · intro h
    obtain ⟨confirm,stalledAt⟩ := seen
    cases phase with
    | completed => cases h; exact .ended rfl
    | failed => cases h; exact .ended rfl
    | closing failure =>
      cases confirm with
      | false =>
        simp only [next,Bool.false_eq_true,↓reduceIte,Except.ok.injEq,Prod.mk.injEq] at h
        obtain ⟨rfl,rfl⟩ := h
        exact .waited rfl
      | true =>
        cases failure with
        | none => cases h; exact .dismissed rfl
        | some fault => cases h; exact .refused rfl
    | start =>
      cases confirm with
      | false => cases h; exact .begun rfl
      | true => cases h; exact .cancelled rfl rfl
    | beforeToolDown =>
      cases confirm with
      | false => cases h; exact .lowered rfl
      | true => cases h; exact .cancelled rfl rfl
    | recorded =>
      cases confirm with
      | false => cases h; exact .reported rfl
      | true => cases h; exact .cancelled rfl rfl
    | running leg =>
      cases confirm with
      | true => cases h; exact .cancelled rfl rfl
      | false =>
        cases stalledAt with
        | none => cases h; exact .watched rfl rfl
        | some stalledAt =>
          rw [next_stalled] at h
          cases compensated : leg.compensate stalledAt with
          | error overflow => simp [compensated,Except.map] at h
          | ok position =>
            rw [compensated] at h
            cases h
            exact .stalled rfl rfl compensated
  · intro h
    cases h with
    | ended terminal => cases phase <;> first | rfl | contradiction
    | cancelled open_ confirm => cases phase <;> simp_all [next,cancellable]
    | stalled confirm seenAt compensated =>
      obtain ⟨confirm,stalledAt⟩ := seen
      subst confirm seenAt
      rw [next_stalled,compensated]
      rfl
    | _ => simp_all [next]

/-- The machine goes on unless a compensation leaves the range. -/
theorem next_exists (phase : Phase) (seen : Observation)
    (fits : ∀ stalledAt, seen.stalledAt = some stalledAt →
      ∀ leg : Leg, ∃ position, leg.compensate stalledAt = .ok position) :
    ∃ made, phase.next seen = .ok made := by
  obtain ⟨confirm,stalledAt⟩ := seen
  cases phase with
  | running leg =>
    cases confirm with
    | true => exact ⟨_,rfl⟩
    | false =>
      cases stalledAt with
      | none => exact ⟨_,rfl⟩
      | some stalledAt =>
        obtain ⟨position,compensated⟩ := fits stalledAt rfl leg
        exact ⟨_,by rw [next_stalled,compensated]; rfl⟩
  | closing reason => cases confirm <;> cases reason <;> exact ⟨_,rfl⟩
  | _ => cases confirm <;> exact ⟨_,rfl⟩

def done : Phase → List Leg
  | .start => []
  | .running leg => Leg.all.take (leg.step - 1)
  | .beforeToolDown => Leg.all.take 5
  | .recorded | .closing none | .completed => Leg.all
  | .closing (some _) | .failed => []

theorem done_afterLeg (leg : Leg) : (afterLeg leg).1.done = (running leg).done ++ [leg] := by
  cases leg <;> rfl

theorem done_prefix (phase : Phase) : phase.done <+: Leg.all := by
  cases phase with
  | running leg => exact List.take_prefix ..
  | beforeToolDown => exact List.take_prefix ..
  | closing failure => cases failure <;> simp [done]
  | _ => simp [done]

/-- The phases of a pass that is not broken off, in order. -/
def route : List Phase :=
  [.start, .running .toolUp, .running .xLeft, .running .xRight, .running .yMin, .running .yMax,
    .beforeToolDown, .running .toolDown, .recorded, .closing none, .completed]

/-- Whether one phase follows another: it is the same one, the next one, or failure. -/
def Advances (phase next : Phase) : Prop :=
  next = .failed ∨ ∃ i, route[i]? = some phase ∧ (route[i]? = some next ∨ route[i + 1]? = some next)

namespace Step

variable {phase next : Phase} {seen : Observation} {asked : List Effect}

theorem inert (step : phase.Step seen next asked) (terminal : phase.isTerminal = true) :
    next = phase ∧ asked = [] := by
  cases step with
  | ended => exact ⟨rfl,rfl⟩
  | cancelled possible => cases phase <;> simp_all [isTerminal,cancellable]
  | _ => simp [isTerminal] at terminal

theorem confirmed (step : phase.Step seen next asked) (confirm : seen.confirm = true) :
    next.isTerminal = true := by
  cases step <;> simp_all [isTerminal]

theorem cancel (step : phase.Step seen next asked) (possible : phase.cancellable = true)
    (confirm : seen.confirm = true) : asked = [.restoreScreen, .fail .homingCancelled] := by
  cases step with
  | ended terminal => cases phase <;> simp_all [isTerminal,cancellable]
  | cancelled => rfl
  | _ => simp_all [cancellable]

theorem dismiss (step : (closing none).Step seen next asked) (confirm : seen.confirm = true) :
    asked = [.restoreScreen, .complete] := by
  cases step <;> simp_all [isTerminal,cancellable]

theorem complete (step : phase.Step seen next [.restoreScreen, .complete]) : phase = .closing none := by
  cases step
  rfl

/-- A transition into a terminal phase puts back the screen and then tells the ending, and no other
transition tells one. -/
theorem ending (step : phase.Step seen next asked) (alive : phase.isTerminal = false) :
    (next.isTerminal = true ∧ ∃ ending, ending.isEnding = true ∧ asked = [.restoreScreen, ending]) ∨
      (next.isTerminal = false ∧ ∀ effect ∈ asked, effect.isEnding = false) := by
  cases step with
  | ended terminal => simp [alive] at terminal
  | dismissed | refused | cancelled => exact .inl ⟨rfl,_,rfl,rfl⟩
  | @stalled _ leg => right; cases leg <;> simp [afterLeg,isTerminal,Effect.isEnding]
  | _ => right; simp [isTerminal,Effect.isEnding]

theorem quiet (step : phase.Step seen next asked)
    (going : phase.cancellable = true ∨ phase = .closing none) (unconfirmed : seen.confirm = false) :
    next.done.map Leg.limit = phase.done.map Leg.limit ++ (records asked).map Prod.fst ∧
      ((next.cancellable = true ∧ phase.cancellable = true ∧ .showResults ∉ asked) ∨
        (next = .closing none ∧ (phase = .closing none ∨ .showResults ∈ asked))) := by
  cases step with
  | ended terminal => cases phase <;> simp_all [isTerminal,cancellable]
  | @stalled _ leg => cases leg <;> simp [afterLeg,cancellable,done,records,Effect.record?,Leg.all,Leg.step]
  | waited => simp_all [cancellable,records]
  | _ => simp_all [cancellable,done,records,Effect.record?,Leg.all,Leg.step]

theorem record {limit : Limit} {position : Raw} (step : phase.Step seen next asked)
    (inside : .record limit position ∈ asked) :
    seen.confirm = false ∧ ∃ (leg : Leg) (stalledAt : Raw), phase = .running leg ∧ leg.limit = limit ∧
      seen.stalledAt = some stalledAt ∧ position.ticks = stalledAt.ticks + leg.compensation := by
  cases step with
  | @stalled _ leg stalledAt found unconfirmed seenAt compensated =>
    have same : limit = leg.limit ∧ position = found := by
      cases leg <;> simpa [afterLeg] using inside
    obtain ⟨rfl,rfl⟩ := same
    exact ⟨unconfirmed,leg,_,rfl,rfl,seenAt,Leg.compensate_eq_ok.mp compensated⟩
  | _ => simp at inside

theorem advances (step : phase.Step seen next asked) (going : phase = .failed ∨ phase ∈ route) :
    phase.Advances next ∧ (next = .failed ∨ next ∈ route) := by
  have stay (still : phase = .failed ∨ phase ∈ route) : phase.Advances phase := by
    rcases still with failed | inside
    · exact .inl failed
    · obtain ⟨i,found⟩ := List.mem_iff_getElem?.mp inside
      exact .inr ⟨i,found,.inl found⟩
  cases step with
  | ended | waited | watched => exact ⟨stay going,going⟩
  | dismissed => exact ⟨.inr ⟨9,rfl,.inr rfl⟩,by simp [route]⟩
  | refused | cancelled => exact ⟨.inl rfl,.inl rfl⟩
  | begun => exact ⟨.inr ⟨0,rfl,.inr rfl⟩,by simp [route]⟩
  | lowered => exact ⟨.inr ⟨6,rfl,.inr rfl⟩,by simp [route]⟩
  | reported => exact ⟨.inr ⟨8,rfl,.inr rfl⟩,by simp [route]⟩
  | @stalled _ leg =>
    refine ⟨.inr ?_,by cases leg <;> simp [route,afterLeg]⟩
    cases leg
    · exact ⟨1,rfl,.inr rfl⟩
    · exact ⟨2,rfl,.inr rfl⟩
    · exact ⟨3,rfl,.inr rfl⟩
    · exact ⟨4,rfl,.inr rfl⟩
    · exact ⟨5,rfl,.inr rfl⟩
    · exact ⟨7,rfl,.inr rfl⟩

/-- A transition starts one leg, last of all, and then leads to where that leg is run, or it starts none. -/
theorem starts (step : phase.Step seen next asked) :
    (∀ leg, .startLeg leg ∉ asked) ∨ ∃ before leg, asked = before ++ [.startLeg leg] ∧ next = .running leg ∧
      ∀ other, .startLeg other ∉ before := by
  cases step with
  | begun => exact .inr ⟨[.resetMotors],_,rfl,rfl,by simp⟩
  | lowered => exact .inr ⟨[],_,rfl,rfl,by simp⟩
  | @stalled _ leg _ position =>
    cases leg with
    | yMax | toolDown => left; simp [afterLeg]
    | _ => exact .inr ⟨[.record _ position,.stopMotor _],_,rfl,rfl,by simp⟩
  | _ => left; simp

end Step

end Phase
end PenPlotter.Homing
