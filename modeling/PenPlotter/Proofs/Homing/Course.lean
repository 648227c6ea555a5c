import PenPlotter.Proofs.Homing.Step

/-! The whole course of the homing machine from its start, for every row of observations. Its phases
only move forward, its records name the limits of the legs in order, and it ends at most once: with
the results if the first confirm comes after they were shown, and cancelled if it comes before. -/

namespace PenPlotter.Homing

structure Stage where
  phase : Phase
  seen : Observation
  effects : List Effect
  next : Phase

/-- The transitions that a row of observations leads through. -/
def Phase.course (phase : Phase) : List Observation → Except Overflow (List Stage)
  | [] => .ok []
  | seen :: rest => do
    let (next, effects) ← phase.next seen
    let later ← next.course rest
    return ⟨phase, seen, effects, next⟩ :: later

def effects (course : List Stage) : List Effect := course.flatMap Stage.effects

/-- Each record belongs to the next leg and is the compensated position at which it was seen stalled. -/
structure RecordsLegs (course : List Stage) : Prop where
  order : (records (effects course)).map Prod.fst <+: Leg.all.map Leg.limit
  origin : ∀ stage ∈ course, ∀ limit position, .record limit position ∈ stage.effects →
    stage.seen.confirm = false ∧ ∃ (leg : Leg) (stalledAt : Raw), stage.phase = .running leg ∧
      leg.limit = limit ∧ stage.seen.stalledAt = some stalledAt ∧
      position.ticks = stalledAt.ticks + leg.compensation

/-- The ending is the last effect of all, comes right after the screen was put back, and is there
exactly when the machine enters a terminal phase. -/
structure EndsOnce (course : List Stage) : Prop where
  last : ∀ before ending after, effects course = before ++ ending :: after → ending.isEnding = true →
    after = [] ∧ before.getLast? = some .restoreScreen
  entered : ∀ stage ∈ course, (∃ ending ∈ stage.effects, ending.isEnding = true) ↔
    stage.phase.isTerminal = false ∧ stage.next.isTerminal = true

/-- A course that goes to its first confirm and what was seen and done there. -/
def FirstConfirm (course before : List Stage) (first : Stage) : Prop :=
  (∃ after, course = before ++ first :: after) ∧ first.seen.confirm = true ∧
    ∀ stage ∈ before, stage.seen.confirm = false

/-- How homing ends is decided by the first confirm. -/
structure EndsByConfirm (course : List Stage) : Prop where
  confirmed : ∀ before first, FirstConfirm course before first →
    first.effects = [.restoreScreen,
      if .showResults ∈ effects before then .complete else .fail .homingCancelled]
  complete : .complete ∈ effects course ↔
    ∃ before first, FirstConfirm course before first ∧ .showResults ∈ effects before
  fail : ∀ fault, .fail fault ∈ effects course ↔ fault = .homingCancelled ∧
    ∃ before first, FirstConfirm course before first ∧ .showResults ∉ effects before
  records : .complete ∈ effects course →
    (records (effects course)).map Prod.fst = Leg.all.map Leg.limit

/-- The rows of transitions that the machine can make from a phase. -/
inductive Phase.Course : Phase → List Stage → Prop where
  | nil : Course phase []
  | cons {phase following : Phase} {seen : Observation} {asked : List Effect} {later : List Stage} :
      phase.Step seen following asked → Course following later →
      Course phase (⟨phase, seen, asked, following⟩ :: later)

def Phase.last (phase : Phase) : List Stage → Phase
  | [] => phase
  | stage :: later => stage.next.last later

theorem course_of_eq_ok {phase : Phase} {observations : List Observation} {course : List Stage}
    (h : phase.course observations = .ok course) : phase.Course course := by
  induction observations generalizing phase course with
  | nil => cases h; exact .nil
  | cons seen rest ih =>
    simp only [Phase.course] at h
    cases step : phase.next seen with
    | error overflow => rw [step] at h; cases h
    | ok made =>
      obtain ⟨next,effects⟩ := made
      rw [step] at h
      cases later : next.course rest with
      | error overflow => simp [bind,Except.bind,later] at h
      | ok stages =>
        simp only [bind,Except.bind,later,pure,Except.pure,Except.ok.injEq] at h
        subst h
        exact .cons (Phase.next_eq_ok.mp step) (ih later)

/-- Homing goes through every row of observations unless a compensation leaves the range. -/
theorem course_exists (observations : List Observation)
    (fits : ∀ seen ∈ observations, ∀ stalledAt, seen.stalledAt = some stalledAt →
      ∀ leg : Leg, ∃ position, leg.compensate stalledAt = .ok position)
    (phase : Phase) : ∃ course, phase.course observations = .ok course := by
  induction observations generalizing phase with
  | nil => exact ⟨[],rfl⟩
  | cons seen rest ih =>
    obtain ⟨⟨next,effects⟩,step⟩ := phase.next_exists seen (fits seen List.mem_cons_self)
    obtain ⟨later,rest⟩ := ih (fun seen inside => fits seen (List.mem_cons_of_mem _ inside)) next
    exact ⟨_,by simp only [Phase.course,step,bind,Except.bind,rest]; rfl⟩

namespace Phase.Course

variable {phase : Phase} {course before after : List Stage} {stage first : Stage}

@[simp] theorem effects_cons (stage : Stage) (later : List Stage) :
    effects (stage :: later) = stage.effects ++ effects later := rfl

@[simp] theorem effects_append (before after : List Stage) :
    effects (before ++ after) = effects before ++ effects after := by
  simp [effects]

theorem split (made : phase.Course (before ++ stage :: after)) :
    phase.Course before ∧ stage.phase = phase.last before ∧
      stage.phase.Step stage.seen stage.next stage.effects ∧ stage.next.Course after := by
  induction before generalizing phase with
  | nil => cases made with | cons step later => exact ⟨.nil,rfl,step,later⟩
  | cons head before ih =>
    cases made with
    | cons step later =>
      obtain ⟨earlier,origin,rest⟩ := ih later
      exact ⟨.cons step earlier,origin,rest⟩

theorem terminal (made : phase.Course course) (past : phase.isTerminal = true) :
    effects course = [] ∧ phase.last course = phase := by
  induction made with
  | nil => exact ⟨rfl,rfl⟩
  | cons step _ ih =>
    obtain ⟨rfl,rfl⟩ := step.inert past
    exact ih past

/-- Without a confirm homing can still be cancelled until the results are shown, and the limits recorded
are those of the legs it has behind it. -/
theorem quiet (made : phase.Course course) (going : phase.cancellable = true ∨ phase = .closing none)
    (quiet : ∀ stage ∈ course, stage.seen.confirm = false) :
    (phase.last course).done.map Leg.limit =
        phase.done.map Leg.limit ++ (records (effects course)).map Prod.fst ∧
      (((phase.last course).cancellable = true ∧ phase.cancellable = true ∧
          .showResults ∉ effects course) ∨
        (phase.last course = .closing none ∧
          (phase = .closing none ∨ .showResults ∈ effects course))) := by
  induction made with
  | nil => rcases going with h | h <;> simp [Phase.last,effects,records,h]
  | cons step _ ih =>
    obtain ⟨limits,state⟩ := step.quiet going (quiet _ List.mem_cons_self)
    obtain ⟨later,rest⟩ := ih (state.imp And.left And.left)
      (fun stage inside => quiet stage (List.mem_cons_of_mem _ inside))
    refine ⟨?_,?_⟩
    · simp only [Phase.last,later,limits,effects_cons,records_append,List.map_append,List.append_assoc]
    · rcases state with ⟨open_,possible,unshown⟩ | ⟨rfl,shown⟩
      · rcases rest with ⟨last,_,absent⟩ | ⟨last,present⟩
        · exact .inl ⟨last,possible,by simp [unshown,absent]⟩
        · refine .inr ⟨last,.inr ?_⟩
          rcases present with rfl | present
          · cases open_
          · simp [present]
      · rcases rest with ⟨_,impossible,_⟩ | ⟨last,_⟩
        · cases impossible
        · exact .inr ⟨last,shown.imp_right (by simp +contextual)⟩

theorem alive (made : phase.Course course) (going : (phase.last course).isTerminal = false) :
    ∀ effect ∈ effects course, effect.isEnding = false := by
  induction made with
  | nil => simp [effects]
  | @cons phase following _ _ _ step later ih =>
    have alive : following.isTerminal = false := by
      by_cases past : following.isTerminal = true
      · rw [Phase.last,(later.terminal past).2] at going
        exact going
      · exact Bool.eq_false_iff.mpr past
    have first : phase.isTerminal = false := by
      by_cases past : phase.isTerminal = true
      · rw [(step.inert past).1] at alive
        exact alive
      · exact Bool.eq_false_iff.mpr past
    intro effect inside
    rcases List.mem_append.mp inside with inside | inside
    · rcases step.ending first with ⟨past,_⟩ | ⟨_,none⟩
      · simp [past] at alive
      · exact none effect inside
    · exact ih going effect inside

theorem advances (made : phase.Course course) (going : phase = .failed ∨ phase ∈ Phase.route) :
    ∀ stage ∈ course, stage.phase.Advances stage.next := by
  induction made with
  | nil => simp
  | cons step _ ih =>
    obtain ⟨first,going⟩ := step.advances going
    intro stage inside
    rcases List.mem_cons.mp inside with rfl | inside
    · exact first
    · exact ih going stage inside

theorem step (made : phase.Course course) (inside : stage ∈ course) :
    stage.phase.Step stage.seen stage.next stage.effects := by
  obtain ⟨before,after,rfl⟩ := List.append_of_mem inside
  exact made.split.2.2.1

theorem confirmed_or_quiet (course : List Stage) :
    (∀ stage ∈ course, stage.seen.confirm = false) ∨ ∃ before first, FirstConfirm course before first := by
  induction course with
  | nil => simp
  | cons head rest ih =>
    by_cases confirm : head.seen.confirm = true
    · exact .inr ⟨[],head,⟨rest,rfl⟩,confirm,by simp⟩
    have unconfirmed := Bool.eq_false_iff.mpr confirm
    rcases ih with quiet | ⟨before,first,⟨after,rfl⟩,confirmed,quiet⟩
    · exact .inl (by simpa [unconfirmed] using quiet)
    · exact .inr ⟨head :: before,first,⟨after,rfl⟩,confirmed,by simpa [unconfirmed] using quiet⟩

/-- Before any confirm nothing has ended, and the limits recorded are those of some first legs, all of
them once the results are shown. -/
theorem unended (made : Phase.start.Course course) (quiet : ∀ stage ∈ course, stage.seen.confirm = false) :
    (∀ effect ∈ effects course, effect.isEnding = false) ∧
      ((records (effects course)).map Prod.fst <+: Leg.all.map Leg.limit) ∧
      (.showResults ∈ effects course →
        (records (effects course)).map Prod.fst = Leg.all.map Leg.limit) := by
  obtain ⟨limits,state⟩ := made.quiet (.inl rfl) quiet
  have recorded : (records (effects course)).map Prod.fst =
      (Phase.start.last course).done.map Leg.limit := by simpa [Phase.done] using limits.symm
  refine ⟨made.alive ?_,?_,?_⟩
  · rcases state with ⟨possible,_⟩ | ⟨reached,_⟩
    · cases last : Phase.start.last course <;> simp_all [Phase.cancellable,Phase.isTerminal]
    · rw [reached]; rfl
  · rw [recorded]
    exact (Phase.done_prefix _).map _
  · intro shown
    rcases state with ⟨_,_,absent⟩ | ⟨reached,_⟩
    · exact absurd shown absent
    · rw [recorded,reached]; rfl

/-- The first confirm adds the ending, and nothing comes after it. -/
theorem first_confirm (made : Phase.start.Course course) (here : FirstConfirm course before first) :
    first.effects = [.restoreScreen,
        if .showResults ∈ effects before then .complete else .fail .homingCancelled] ∧
      effects course = effects before ++ first.effects := by
  obtain ⟨⟨after,rfl⟩,confirm,quiet⟩ := here
  obtain ⟨earlier,origin,step,later⟩ := made.split
  obtain ⟨_,state⟩ := earlier.quiet (.inl rfl) quiet
  refine ⟨?_,by simp [(later.terminal (step.confirmed confirm)).1]⟩
  rw [origin] at step
  rcases state with ⟨possible,_,absent⟩ | ⟨reached,shown⟩
  · rw [step.cancel possible confirm,if_neg absent]
  · rw [reached] at step
    rw [step.dismiss confirm,if_pos (shown.resolve_left (by simp))]

theorem before_first (made : Phase.start.Course course) (here : FirstConfirm course before first) :
    Phase.start.Course before := by
  obtain ⟨⟨after,rfl⟩,_⟩ := here
  exact made.split.1

theorem recordsLegs (made : Phase.start.Course course) : RecordsLegs course := by
  refine ⟨?_,fun stage inside _ _ member => (made.step inside).record member⟩
  rcases confirmed_or_quiet course with quiet | ⟨before,first,here⟩
  · exact (made.unended quiet).2.1
  · obtain ⟨ending,whole⟩ := made.first_confirm here
    have limits := ((made.before_first here).unended here.2.2).2.1
    rw [whole,ending,records_append,records_ending (by split <;> rfl),List.append_nil]
    exact limits

theorem endsOnce (made : Phase.start.Course course) : EndsOnce course := by
  refine ⟨?_,?_⟩
  · intro before ending after whole isEnding
    rcases confirmed_or_quiet course with quiet | ⟨earlier,first,here⟩
    · have none := (made.unended quiet).1 ending (by simp [whole])
      simp [isEnding] at none
    · obtain ⟨asked,whole'⟩ := made.first_confirm here
      have none := ((made.before_first here).unended here.2.2).1
      rw [whole,asked] at whole'
      rcases List.append_eq_append_iff.mp whole' with ⟨between,same,rest⟩ | ⟨between,rfl,rest⟩
      · cases between with
        | nil =>
          obtain ⟨rfl,_⟩ := List.cons.inj rest
          cases isEnding
        | cons effect between =>
          obtain ⟨rfl,_⟩ := List.cons.inj rest
          have absent := none ending (by simp [same])
          simp [isEnding] at absent
      · rcases between with _ | ⟨effect,_ | ⟨effect',between⟩⟩
        · obtain ⟨rfl,_⟩ := List.cons.inj rest
          cases isEnding
        · simp_all
        · simp at rest
  · intro stage inside
    have step := made.step inside
    by_cases past : stage.phase.isTerminal = true
    · simp [(step.inert past).2,past]
    · have going := Bool.eq_false_iff.mpr past
      rcases step.ending going with ⟨past,ending,isEnding,asked⟩ | ⟨still,none⟩
      · exact ⟨fun _ => ⟨going,past⟩,fun _ => ⟨ending,by simp [asked],isEnding⟩⟩
      · constructor
        · rintro ⟨ending,inside,isEnding⟩
          simp [none ending inside] at isEnding
        · simp [still]

/-- An ending is told exactly where the first confirm is, and which one it is depends on whether the
results were shown before. -/
theorem ending_iff (made : Phase.start.Course course) {ending : Effect} (isEnding : ending.isEnding = true) :
    ending ∈ effects course ↔ ∃ before first, FirstConfirm course before first ∧
      ending = if .showResults ∈ effects before then .complete else .fail .homingCancelled := by
  have decided {before first} (here : FirstConfirm course before first) : ending ∈ effects course ↔
      ending = if .showResults ∈ effects before then .complete else .fail .homingCancelled := by
    obtain ⟨asked,whole⟩ := made.first_confirm here
    have elsewhere : ending ∉ effects before := by
      intro inside
      have none := ((made.before_first here).unended here.2.2).1 ending inside
      simp [isEnding] at none
    have other : ending ≠ .restoreScreen := by rintro rfl; cases isEnding
    rw [whole,asked]
    simp [elsewhere,other]
  constructor
  · intro inside
    rcases confirmed_or_quiet course with quiet | ⟨before,first,here⟩
    · have none := (made.unended quiet).1 ending inside
      simp [isEnding] at none
    · exact ⟨before,first,here,(decided here).mp inside⟩
  · rintro ⟨before,first,here,which⟩
    exact (decided here).mpr which

theorem endsByConfirm (made : Phase.start.Course course) : EndsByConfirm course := by
  have complete : .complete ∈ effects course ↔
      ∃ before first, FirstConfirm course before first ∧ .showResults ∈ effects before := by
    rw [made.ending_iff rfl]
    simp only [left_eq_ite_iff,reduceCtorEq,imp_false,Decidable.not_not]
  refine ⟨fun before first here => (made.first_confirm here).1,complete,?_,?_⟩
  · intro fault
    rw [made.ending_iff rfl]
    constructor
    · rintro ⟨before,first,here,which⟩
      split at which
      · cases which
      next absent => exact ⟨Effect.fail.inj which,before,first,here,absent⟩
    · rintro ⟨rfl,before,first,here,absent⟩
      exact ⟨before,first,here,by rw [if_neg absent]⟩
  · intro inside
    obtain ⟨before,first,here,shown⟩ := complete.mp inside
    obtain ⟨ending,whole⟩ := made.first_confirm here
    have limits := ((made.before_first here).unended here.2.2).2.2 shown
    rw [whole,ending,records_append,records_ending (by split <;> rfl),List.append_nil]
    exact limits

end Phase.Course

/-- What homing does for any row of observations, from its start. -/
theorem homing_runs_legs_in_order_and_ends_once (observations : List Observation) :
    ((∀ seen ∈ observations, ∀ stalledAt, seen.stalledAt = some stalledAt →
        ∀ leg : Leg, ∃ position, leg.compensate stalledAt = .ok position) →
      ∃ course, Phase.start.course observations = .ok course) ∧
    ∀ course, Phase.start.course observations = .ok course →
      RecordsLegs course ∧ (∀ stage ∈ course, stage.phase.Advances stage.next) ∧
        EndsOnce course ∧ EndsByConfirm course := by
  refine ⟨fun fits => course_exists observations fits .start,?_⟩
  intro course followed
  have made := course_of_eq_ok followed
  exact ⟨made.recordsLegs,made.advances (.inr (by simp [Phase.route])),made.endsOnce,made.endsByConfirm⟩

/-- Every motor stalls at 0 and the results are dismissed. -/
theorem homing_with_stalls_at_zero :
    let stalled : Observation := { stalledAt := some .zero }
    ∃ course, Phase.start.course
        [{},stalled,stalled,stalled,stalled,stalled,{},stalled,{},{ confirm := true }] = .ok course ∧
      (effects course).getLast? = some .complete ∧ RecordsLegs course ∧ EndsOnce course ∧ EndsByConfirm course := by
  intro stalled
  obtain ⟨goes,all⟩ := homing_runs_legs_in_order_and_ends_once
    [{},stalled,stalled,stalled,stalled,stalled,{},stalled,{},{ confirm := true }]
  obtain ⟨course,made⟩ := goes (by
    intro seen inside stalledAt found leg
    have zero : stalledAt = .zero := by
      simp only [List.mem_cons,List.not_mem_nil,or_false] at inside
      rcases inside with rfl | rfl | rfl | rfl | rfl | rfl | rfl | rfl | rfl | rfl <;> cases found <;> rfl
    rw [zero]
    cases leg <;> exact ⟨_,rfl⟩)
  have ending : (Phase.start.course [{},stalled,stalled,stalled,stalled,stalled,{},stalled,{},
      { confirm := true }]).toOption.map (fun course => (effects course).getLast?) = some (some .complete) := by
    decide
  rw [made] at ending
  obtain ⟨records,_,once,confirmed⟩ := all course made
  exact ⟨course,made,Option.some.inj ending,records,once,confirmed⟩

end PenPlotter.Homing
