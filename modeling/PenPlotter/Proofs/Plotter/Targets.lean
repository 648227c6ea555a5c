import PenPlotter.Proofs.Operation
import PenPlotter.Proofs.Plotter.Asking

/-! What a move asks of the motors. Its start commands the axes with a target, one after the other; a look at it reads
them up to the first that is not there, and it is over if there is none. -/

namespace PenPlotter

variable {μ δ : Type} [Motor μ]

/-- What the motor of an axis tells when its position is asked for. -/
def Plotter.Reads (p : Plotter μ δ) (now : Nat) (axis : Axis) (here : Raw) : Prop :=
  ∃ m, Motor.position now (p.motor axis) = .ok here m

theorem Plotter.Reads.unique {p : Plotter μ δ} {now : Nat} {axis : Axis} {here there : Raw}
    (reads : p.Reads now axis here) (again : p.Reads now axis there) : here = there := by
  obtain ⟨m,told⟩ := reads
  obtain ⟨n,retold⟩ := again
  rw [told] at retold
  cases retold
  rfl

theorem Plotter.readRaw_apply {p : Plotter μ δ} {now : Nat} {axis : Axis} {here : Raw} {m : μ}
    (told : Motor.position now (p.motor axis) = .ok here m) :
    (Plotter.readRaw axis : PlotterM μ δ Raw) now p = .ok here (p.setMotor axis m) := by
  simp [Plotter.readRaw,Plotter.call,told]

theorem Plotter.reads_of_motor_eq {p q : Plotter μ δ} {now : Nat} {axis : Axis} {here : Raw}
    (same : p.motor axis = q.motor axis) : p.Reads now axis here ↔ q.Reads now axis here := by
  rw [Reads,Reads,same]

theorem Plotter.reads_setMotor {p : Plotter μ δ} {now : Nat} {axis other : Axis} {here : Raw} (apart : other ≠ axis)
    (m : μ) : (p.setMotor axis m).Reads now other here ↔ p.Reads now other here :=
  Plotter.reads_of_motor_eq (Plotter.motor_setMotor_of_ne p m apart)

namespace Targets

/-- The target of an axis, if it has one. -/
def on (t : Targets) : Axis → Option Raw
  | .x => t.x
  | .y => t.y
  | .tool => t.tool

theorem mem_toList {t : Targets} {axis : Axis} {target : Raw} : (axis,target) ∈ t.toList ↔ t.on axis = some target := by
  obtain ⟨x,y,tool⟩ := t
  cases axis <;> cases x <;> cases y <;> cases tool <;> simp [toList,on,eq_comm]

theorem nodup_toList (t : Targets) : (t.toList.map Prod.fst).Nodup := by
  obtain ⟨x,y,tool⟩ := t
  cases x <;> cases y <;> cases tool <;> simp [toList]

/-- Everything that is asked to set the axes of a move going. -/
def launches (targets : Targets) (speed : Int) : List (Axis × Ask) :=
  targets.toList.flatMap fun (axis, target) => (launch speed target).map fun command => (axis, .command command)

theorem launches_targeted {targets : Targets} {speed : Int} {ask : Axis × Ask} (inside : ask ∈ targets.launches speed) :
    (targets.on ask.1).isSome = true := by
  obtain ⟨⟨axis,target⟩,goal,asked⟩ := List.mem_flatMap.mp inside
  obtain ⟨_,_,rfl⟩ := List.mem_map.mp asked
  rw [mem_toList.mp goal]
  rfl

/-- The start of a move gives its commands and does nothing else. -/
theorem start_performs (targets : Targets) (now : Nat) (p : Plotter μ δ) :
    Plotter.Performs (targets.launches p.motion.goSpeed) (targets.start : PlotterM μ δ Unit) now p := by
  have each (goal : Axis × Raw) (q : Plotter μ δ) :
      Plotter.Performs ((launch p.motion.goSpeed goal.2).map fun command => (goal.1,Ask.command command))
        ((launch p.motion.goSpeed goal.2).forM fun command => Plotter.command goal.1 command) now q := by
    rw [List.map_eq_flatMap]
    exact .forM _ (fun command _ => .command goal.1 command) _ q
  exact .ok_bind (Plotter.get_apply now p) (.forM _ each _ p)

/-- What a look asks of the motors: where the axes are, up to the first that is not at its target. -/
def glances (now : Nat) (motors : Axis → μ) : List (Axis × Raw) → List (Axis × Ask)
  | [] => []
  | (axis, target) :: rest =>
    (axis, .position) ::
      match Motor.position now (motors axis) with
      | .ok here m => if here = target then glances now (setAt motors axis m) rest else []
      | .error .. => []

theorem glances_targeted {now : Nat} {motors : Axis → μ} {goals : List (Axis × Raw)} :
    ∀ ask ∈ glances now motors goals, ask.2 = .position ∧ ∃ target, (ask.1,target) ∈ goals := by
  induction goals generalizing motors with
  | nil => simp [glances]
  | cons goal goals ih =>
    obtain ⟨axis,target⟩ := goal
    rintro ask inside
    rcases List.mem_cons.mp inside with rfl | later
    · exact ⟨rfl,target,List.mem_cons_self⟩
    · split at later
      · split at later
        · obtain ⟨position,found,member⟩ := ih ask later
          exact ⟨position,found,List.mem_cons_of_mem _ member⟩
        · cases later
      · cases later

theorem reached_performs (goals : List (Axis × Raw)) (now : Nat) (p : Plotter μ δ) :
    Plotter.Performs (glances now p.motor goals) (reached goals : PlotterM μ δ Bool) now p := by
  induction goals generalizing p with
  | nil => exact .of_ok rfl
  | cons goal goals ih =>
    obtain ⟨axis,target⟩ := goal
    refine (Plotter.Performs.readRaw axis).bind fun here ran => ?_
    cases told : Motor.position now (p.motor axis) with
    | error error m => simp [Plotter.readRaw,Plotter.call,told] at ran
    | ok found m =>
      rw [Plotter.readRaw_apply told] at ran
      injection ran with same left
      subst same
      rw [← left]
      by_cases there : found = target
      · simp only [there,↓reduceIte]
        rw [← Plotter.motor_setMotor]
        exact ih _
      · simp only [there,↓reduceIte]
        exact .of_ok rfl

/-- Every axis of a move reads its target. One without targets is there at once. -/
def Found (targets : Targets) (now : Nat) (p : Plotter μ δ) : Prop :=
  ∀ axis target, targets.on axis = some target → p.Reads now axis target

theorem reached_ok {goals : List (Axis × Raw)} {now : Nat} {p p' : Plotter μ δ} {there : Bool}
    (apart : (goals.map Prod.fst).Nodup) (ran : reached goals now p = .ok there p') :
    there = true ↔ ∀ goal ∈ goals, p.Reads now goal.1 goal.2 := by
  induction goals generalizing p with
  | nil =>
    cases ran
    simp
  | cons goal goals ih =>
    obtain ⟨axis,target⟩ := goal
    obtain ⟨fresh,apart⟩ := List.nodup_cons.mp apart
    unfold reached at ran
    obtain ⟨here,between,read,ran⟩ := bind_eq_ok.mp ran
    cases told : Motor.position now (p.motor axis) with
    | error error m => simp [Plotter.readRaw,Plotter.call,told] at read
    | ok found m =>
      rw [Plotter.readRaw_apply told] at read
      injection read with same left
      subst same left
      -- the motors read later are other ones, so that they are as they were
      have others (goal : Axis × Raw) (inside : goal ∈ goals) :
          (p.setMotor axis m).Reads now goal.1 goal.2 ↔ p.Reads now goal.1 goal.2 := by
        have other : goal.1 ≠ axis := fun same =>
          fresh (List.mem_map.mpr ⟨goal,inside,same⟩)
        exact Plotter.reads_setMotor other m
      have first : p.Reads now axis target ↔ found = target :=
        ⟨fun reads => Plotter.Reads.unique ⟨m,told⟩ reads,fun same => ⟨m,same ▸ told⟩⟩
      simp only [List.mem_cons,forall_eq_or_imp,first]
      by_cases here : found = target
      · rw [if_pos here] at ran
        rw [ih apart ran]
        simp only [here,true_and]
        exact forall₂_congr others
      · rw [if_neg here] at ran
        cases ran
        simp [here]

theorem reached_found {goals : List (Axis × Raw)} {now : Nat} {p : Plotter μ δ} (apart : (goals.map Prod.fst).Nodup)
    (found : ∀ goal ∈ goals, p.Reads now goal.1 goal.2) : ∃ p', reached goals now p = .ok true p' := by
  induction goals generalizing p with
  | nil => exact ⟨p,rfl⟩
  | cons goal goals ih =>
    obtain ⟨axis,target⟩ := goal
    obtain ⟨fresh,apart⟩ := List.nodup_cons.mp apart
    obtain ⟨⟨m,told⟩,found⟩ := List.forall_mem_cons.mp found
    obtain ⟨p',ran⟩ := ih apart (p := p.setMotor axis m) fun goal inside => by
      have other : goal.1 ≠ axis := fun same => fresh (List.mem_map.mpr ⟨goal,inside,same⟩)
      exact (Plotter.reads_setMotor other m).mpr (found goal inside)
    refine ⟨p',?_⟩
    simp only [reached,bind_apply,Plotter.readRaw_apply told,↓reduceIte]
    exact ran

variable [Display δ] {targets : Targets} {now : Nat} {p p' : Plotter μ δ}

/-- What a look at a move asks of the motors. -/
def asks (targets : Targets) (now : Nat) (p : Plotter μ δ) : List (Axis × Ask) :=
  if p.confirmed now then [] else glances now p.motor targets.toList

theorem asks_targeted : ∀ ask ∈ targets.asks now p, ask.2 = .position ∧ (targets.on ask.1).isSome = true := by
  intro ask inside
  unfold asks at inside
  split at inside
  · cases inside
  · obtain ⟨position,target,member⟩ := glances_targeted ask inside
    exact ⟨position,by rw [mem_toList.mp member]; rfl⟩

theorem poll_unconfirmed (unpressed : p.confirmed now = false) :
    targets.poll now p =
      match reached targets.toList now (p.asked now) with
      | .ok there p' => .ok (if there then .done () else .again p'.motion.goPoll targets) p'
      | .error reason p' => .error reason p' := by
  unfold poll
  simp only [bind_apply,Plotter.takeConfirm_apply,unpressed,Bool.false_eq_true,↓reduceIte]
  cases reached targets.toList now (p.asked now) with
  | error => rfl
  | ok there p' => cases there <;> rfl

/-- A look at a move takes the confirm and reads some of its axes, and does nothing else. -/
theorem poll_left (targets : Targets) (now : Nat) (p : Plotter μ δ) :
    Plotter.left targets.poll now p =
      (p.asked now).withMotors (attempt now p.motor (targets.asks now p)).2 := by
  unfold Plotter.left asks
  cases pressed : p.confirmed now with
  | true =>
    rw [targets.poll_confirmed pressed]
    rfl
  | false =>
    have made := reached_performs targets.toList now (p.asked now)
    rw [poll_unconfirmed pressed]
    simp only [Bool.false_eq_true,↓reduceIte]
    cases why : refusal? now (p.asked now).motor (glances now (p.asked now).motor targets.toList) with
    | some error =>
      rw [made.refused error why]
      rfl
    | none =>
      obtain ⟨there,ran⟩ := made.answered why
      rw [ran]
      rfl

/-- A look that nobody disturbs finds a move over if every axis reads its target. -/
theorem poll_found (unpressed : p.confirmed now = false) (found : targets.Found now p) :
    ∃ p', targets.poll now p = .ok (.done ()) p' := by
  obtain ⟨p',ran⟩ := reached_found (p := p.asked now) targets.nodup_toList fun goal inside =>
    found goal.1 goal.2 (mem_toList.mp inside)
  refine ⟨p',?_⟩
  rw [poll_unconfirmed unpressed,ran]
  rfl

/-- A look at a move comes to one of three things, unless it is broken off. -/
theorem poll_ok {made : Progress Targets Unit} (ran : targets.poll now p = .ok made p') :
    (p.confirmed now = true ∧ made = .dropped) ∨
      (p.confirmed now = false ∧ targets.Found now p ∧ made = .done ()) ∨
      (p.confirmed now = false ∧ ¬ targets.Found now p ∧ made = .again p.motion.goPoll targets) := by
  cases pressed : p.confirmed now with
  | true =>
    rw [targets.poll_confirmed pressed] at ran
    cases ran
    exact .inl ⟨rfl,rfl⟩
  | false =>
    rw [poll_unconfirmed pressed] at ran
    cases looked : reached targets.toList now (p.asked now) with
    | error => simp [looked] at ran
    | ok there q =>
      simp only [looked] at ran
      cases ran
      have found : there = true ↔ targets.Found now p := by
        rw [reached_ok targets.nodup_toList looked]
        constructor
        · exact fun all axis target on => all (axis,target) (mem_toList.mpr on)
        · exact fun all goal inside => all goal.1 goal.2 (mem_toList.mp inside)
      have motion : p'.motion = (p.asked now).motion := (reached_keeps .motion targets.toList).of_ok looked
      cases there with
      | true => exact .inr (.inl ⟨rfl,found.mp rfl,rfl⟩)
      | false =>
        refine .inr (.inr ⟨rfl,fun all => Bool.noConfusion (found.mpr all),?_⟩)
        rw [motion]
        rfl

end Targets
end PenPlotter
