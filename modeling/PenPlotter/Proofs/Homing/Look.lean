import PenPlotter.Homing.Pass
import PenPlotter.Proofs.Homing.Step
import PenPlotter.Proofs.Plotter.Program

/-! One look at a homing pass. What it sees is read off the plotter, what comes of it follows from the
transition it makes, and only a device or an overflow can break it off. -/

namespace PenPlotter

namespace Homing

variable {μ δ : Type} [Motor μ] [Display δ]

namespace Phase

/-- The leg whose motor a look finds stalled, with the position that is read. -/
def stall? (phase : Phase) (now : Nat) (p : Plotter μ δ) : Option (Leg × Raw) :=
  match phase.activeLeg? with
  | none => none
  | some leg =>
    if p.confirmed now then none
    else
      match Motor.state now (p.motor leg.axis) with
      | .error .. => none
      | .ok state m =>
        if state.isStalled then
          match Motor.position now m with
          | .error .. => none
          | .ok position _ => some (leg, position)
        else none

/-- What a look sees that does not break off. -/
def sight (phase : Phase) (now : Nat) (p : Plotter μ δ) : Observation :=
  ⟨p.confirmed now, (phase.stall? now p).map Prod.snd⟩

theorem stall?_leg {phase : Phase} {now : Nat} {p : Plotter μ δ} {leg : Leg} {stalledAt : Raw}
    (found : phase.stall? now p = some (leg,stalledAt)) : phase.activeLeg? = some leg := by
  unfold stall? at found
  cases watched : phase.activeLeg? with
  | none => simp [watched] at found
  | some other =>
    simp only [watched] at found
    split at found
    · cases found
    split at found
    · cases found
    split at found
    · split at found <;> simp_all
    · cases found

theorem Step.stall {phase next : Phase} {now : Nat} {p : Plotter μ δ} {asked : List Effect}
    (step : phase.Step (phase.sight now p) next asked) (going : next.isTerminal = false) :
    (phase.stall? now p = none ∧ records asked = [] ∧ next.done = phase.done) ∨
      ∃ leg stalledAt position, phase.stall? now p = some (leg,stalledAt) ∧
        records asked = [(leg.limit,position)] ∧
        position.ticks = stalledAt.ticks + leg.compensation ∧ next.done = phase.done ++ [leg] := by
  cases step with
  | ended terminal => simp [going] at terminal
  | dismissed | refused | cancelled => cases going
  | waited | begun | lowered | reported => exact .inl ⟨rfl,rfl,rfl⟩
  | watched _ seen => exact .inl ⟨by simpa [sight] using seen,rfl,rfl⟩
  | @stalled stalledAt leg _ position _ seen compensated =>
    right
    have found : (running leg).stall? now p = some (leg,stalledAt) := by
      obtain ⟨⟨other,_⟩,found,rfl⟩ := Option.map_eq_some_iff.mp seen
      obtain rfl := Option.some.inj (stall?_leg found)
      exact found
    refine ⟨leg,stalledAt,position,found,?_,Leg.compensate_eq_ok.mp compensated,done_afterLeg leg⟩
    cases leg <;> rfl

end Phase

namespace Tally

def add (spinUp : Nat) (tally : Tally) : Effect → Tally
  | .startLeg _ => { tally with delay := spinUp }
  | .record limit position => { tally with recorded := tally.recorded.set limit position }
  | .complete => { tally with outcome := some (.ok tally.recorded) }
  | .fail fault => { tally with outcome := some (.error fault) }
  | _ => tally

def addAll (spinUp : Nat) (tally : Tally) (effects : List Effect) : Tally :=
  effects.foldl (add spinUp) tally

theorem delay_addAll {effects : List Effect} (none : ∀ leg, .startLeg leg ∉ effects) (spinUp : Nat)
    (tally : Tally) : (tally.addAll spinUp effects).delay = tally.delay := by
  induction effects generalizing tally with
  | nil => rfl
  | cons effect effects ih =>
    have rest := ih (fun leg inside => none leg (List.mem_cons_of_mem _ inside)) (tally.add spinUp effect)
    refine rest.trans ?_
    cases effect with
    | startLeg leg => exact absurd List.mem_cons_self (none leg)
    | _ => rfl

end Tally

namespace Pass

/-- What comes of a look that has led to a phase by some effects. -/
def progress (pass : Pass) (motion : Motion) (phase : Phase) (effects : List Effect) :
    Progress Pass (Except Fault Calibration) :=
  let tally := Tally.addAll motion.spinUp ⟨pass.recorded, motion.homingPoll, none⟩ effects
  match tally.outcome with
  | some outcome => .done outcome
  | none =>
    if phase.isTerminal then .dropped
    else .again tally.delay { pass with phase, recorded := tally.recorded }

theorem progress_eq_again {pass next : Pass} {motion : Motion} {phase : Phase} {effects : List Effect} {delay : Nat}
    (goes : pass.progress motion phase effects = .again delay next) :
    let tally := Tally.addAll motion.spinUp ⟨pass.recorded, motion.homingPoll, none⟩ effects
    delay = tally.delay ∧ next = { pass with phase, recorded := tally.recorded } ∧ phase.isTerminal = false := by
  unfold progress at goes
  dsimp only at goes
  split at goes
  · cases goes
  · cases terminal : phase.isTerminal with
    | true => simp [terminal] at goes
    | false =>
      simp only [terminal,Bool.false_eq_true,↓reduceIte,Progress.again.injEq] at goes
      exact ⟨goes.1.symm,goes.2.symm,rfl⟩

theorem observe_ok {phase : Phase} {now : Nat} {p p' : Plotter μ δ} {seen : Observation}
    (ran : observe phase now p = .ok seen p') : seen = phase.sight now p := by
  unfold observe at ran
  simp only [bind_apply,Plotter.takeConfirm_apply] at ran
  unfold Phase.sight Phase.stall?
  cases watched : phase.activeLeg? with
  | none =>
    simp only [watched] at ran
    cases ran
    rfl
  | some leg =>
    simp only [watched] at ran
    cases pressed : p.confirmed now with
    | true =>
      simp only [pressed,↓reduceIte] at ran
      cases ran
      rfl
    | false =>
      simp only [pressed,Bool.false_eq_true,↓reduceIte,bind_apply,Plotter.call,
        Plotter.motor_asked] at ran ⊢
      cases called : Motor.state now (p.motor leg.axis) with
      | error error m => simp [called] at ran
      | ok state m =>
        simp only [called] at ran ⊢
        split at ran
        next stalled =>
          simp only [bind_apply,Plotter.readRaw,Plotter.call,Plotter.motor_setMotor_self] at ran
          simp only [stalled,↓reduceIte]
          cases read : Motor.position now m with
          | error error m => simp [read] at ran
          | ok position m =>
            simp only [read] at ran
            cases ran
            rfl
        next idle =>
          cases ran
          simp [idle]

theorem observe_confirmed (phase : Phase) {now : Nat} {p : Plotter μ δ} (pressed : p.confirmed now = true) :
    observe phase now p = .ok ⟨true,none⟩ (p.asked now) := by
  unfold observe
  simp only [bind_apply,Plotter.takeConfirm_apply,pressed,↓reduceIte]
  cases phase.activeLeg? <;> rfl

section Yields

variable {view : Plotter μ δ → γ} (aside : Plotter.Aside view)
include aside

/-- A look asks for a confirm once, before all else. -/
theorem observe_yields (phase : Phase) :
    Plotter.Yields Failure.OfDevice view (fun now p => view (p.asked now))
      (observe phase : PlotterM μ δ Observation) := by
  refine .bind .takeConfirm ?_
  intro confirm
  split
  · split
    · exact .pure _
    refine .bind (.call aside _ _) ?_
    intro state
    split
    · exact .bind (.call aside _ _) fun _ => .pure _
    · exact .pure _
  · exact .pure _

theorem carryOut_keeps (previous : Screen) (tally : Tally) (effect : Effect) :
    Plotter.Keeps Failure.OfDevice view (carryOut previous tally effect : PlotterM μ δ Tally) := by
  cases effect with
  | resetMotors => exact .bind (.forM fun axis _ => .command aside axis _) fun _ => .pure _
  | startLeg leg =>
    exact .bind (.command aside _ _) fun _ => .bind (.command aside _ _) fun _ =>
      .bind (.command aside _ _) fun _ => .bind (.retext aside _) fun _ => .bind .get fun _ => .pure _
  | stopMotor axis => exact .bind (.command aside _ _) fun _ => .pure _
  | showResults | restoreScreen => exact .bind (.present aside _) fun _ => .pure _
  | record | complete | fail => exact .pure _

/-- What shows neither motors nor screens changes in a look as it does when a confirm is asked for once. -/
theorem poll_yields (pass : Pass) :
    Plotter.Yields (fun reason => reason.OfDevice ∨ reason.OfRange) view (fun now p => view (p.asked now))
      (pass.poll : PlotterM μ δ (Progress Pass (Except Fault Calibration))) := by
  unfold poll
  refine .bind ((observe_yields aside pass.phase).imp fun _ => .inl) ?_
  intro seen
  refine .bind ((Plotter.Yields.checked _).imp fun _ => .inr) ?_
  rintro ⟨phase,effects⟩
  refine .bind .get fun q => .bind ?_ ?_
  · exact (Plotter.Yields.foldlM (fun tally effect => carryOut_keeps aside _ tally effect) _ _).imp fun _ => .inl
  intro tally
  split
  · exact .pure _
  split <;> exact .pure _

end Yields

omit [Motor μ] [Display δ] in
/-- A call of a motor does not reach the display. -/
theorem call_display (axis : Axis) (f : Nat → Motor.Call μ α) :
    Plotter.Keeps (fun _ => True) Plotter.display (Plotter.call axis f : PlotterM μ δ α) := by
  intro now p
  unfold Plotter.left Plotter.call
  cases f now (p.motor axis) <;> exact ⟨by cases axis <;> rfl,fun _ _ _ => trivial⟩

/-- What a look sees of the motors leaves the display as it was once it was asked for a confirm. -/
theorem observe_display (phase : Phase) :
    Plotter.Yields (fun _ => True) Plotter.display (fun now p => (p.asked now).display)
      (observe phase : PlotterM μ δ Observation) := by
  refine .bind .takeConfirm fun confirm => ?_
  split
  · split
    · exact .pure _
    refine .bind (call_display _ _) fun state => ?_
    split
    · exact .bind (call_display _ _) fun _ => .pure _
    · exact .pure _
  · exact .pure _

theorem carryOut_ok {previous : Screen} {tally tally' : Tally} {effect : Effect} {now : Nat}
    {p p' : Plotter μ δ} (ran : carryOut previous tally effect now p = .ok tally' p') :
    tally' = tally.add p.motion.spinUp effect := by
  have kept := (carryOut_keeps .motion previous tally effect).of_ok ran
  cases effect with
  | startLeg leg =>
    simp only [carryOut,bind_eq_ok] at ran
    obtain ⟨_,_,_,_,_,_,_,_,_,_,_,_,_,_,read,told⟩ := ran
    cases read
    cases told
    simp only [Tally.add,kept]
  | record | complete | fail => cases ran; rfl
  | resetMotors | stopMotor | showResults | restoreScreen =>
    obtain ⟨_,_,_,told⟩ := bind_eq_ok.mp ran
    cases told
    rfl

theorem carryOutAll_ok {previous : Screen} {effects : List Effect} {tally tally' : Tally} {now : Nat}
    {p p' : Plotter μ δ} (ran : effects.foldlM (carryOut previous) tally now p = .ok tally' p') :
    tally' = tally.addAll p.motion.spinUp effects := by
  induction effects generalizing tally p with
  | nil => cases ran; rfl
  | cons effect effects ih =>
    obtain ⟨between,q,first,rest⟩ := bind_eq_ok.mp ran
    rw [ih rest,carryOut_ok first,(carryOut_keeps .motion previous tally effect).of_ok first]
    rfl

/-- What follows a transition. -/
def carry (pass : Pass) (phase : Phase) (effects : List Effect) :
    PlotterM μ δ (Progress Pass (Except Fault Calibration)) := do
  let tally ← effects.foldlM (carryOut pass.previous) ⟨pass.recorded, (← get).motion.homingPoll, none⟩
  match tally.outcome with
  | some outcome => return .done outcome
  | none =>
    if phase.isTerminal then return .dropped
    else return .again tally.delay { pass with phase, recorded := tally.recorded }

/-- What follows a transition comes to what its effects add up to, and all of them were carried out. -/
theorem carry_ok {pass : Pass} {now : Nat} {p p' : Plotter μ δ} {phase : Phase} {effects : List Effect}
    {made : Progress Pass (Except Fault Calibration)} (ran : pass.carry phase effects now p = .ok made p') :
    made = pass.progress p.motion phase effects ∧ ∃ tally,
      effects.foldlM (carryOut pass.previous) ⟨pass.recorded,p.motion.homingPoll,none⟩ now p = .ok tally p' := by
  simp only [carry,bind_apply,Plotter.get_apply] at ran
  cases tallied : effects.foldlM (carryOut pass.previous) ⟨pass.recorded,p.motion.homingPoll,none⟩ now p with
  | error => rw [tallied] at ran; cases ran
  | ok tally q =>
    simp only [tallied] at ran
    unfold progress
    simp only [← carryOutAll_ok tallied]
    cases told : tally.outcome with
    | some outcome =>
      simp only [told] at ran
      cases ran
      exact ⟨rfl,tally,rfl⟩
    | none =>
      simp only [told] at ran
      cases terminal : phase.isTerminal with
      | true => simp only [terminal,↓reduceIte] at ran; cases ran; exact ⟨rfl,tally,rfl⟩
      | false => simp only [terminal,Bool.false_eq_true,↓reduceIte] at ran; cases ran; exact ⟨rfl,tally,rfl⟩

theorem poll_apply (pass : Pass) (now : Nat) (p : Plotter μ δ) :
    pass.poll now p =
      match observe pass.phase now p with
      | .error reason p => .error reason p
      | .ok seen p =>
        match pass.phase.next seen with
        | .error overflow => .error (.overflow overflow) p
        | .ok (phase, effects) => pass.carry phase effects now p := by
  unfold poll
  rw [bind_apply]
  cases observe pass.phase now p with
  | error => rfl
  | ok seen between =>
    simp only [bind_apply]
    cases pass.phase.next seen <;> rfl

/-- A look that does not break off makes a transition on what it sees, and carries out what is asked for. -/
theorem poll_carries {pass : Pass} {now : Nat} {p p' : Plotter μ δ}
    {made : Progress Pass (Except Fault Calibration)} (ran : pass.poll now p = .ok made p') :
    ∃ phase effects q, observe pass.phase now p = .ok (pass.phase.sight now p) q ∧
      pass.phase.Step (pass.phase.sight now p) phase effects ∧ pass.carry phase effects now q = .ok made p' := by
  rw [poll_apply] at ran
  cases looked : observe pass.phase now p with
  | error => simp [looked] at ran
  | ok seen q =>
    obtain rfl := observe_ok looked
    simp only [looked] at ran
    cases stepped : pass.phase.next (pass.phase.sight now p) with
    | error => simp [stepped] at ran
    | ok next =>
      simp only [stepped] at ran
      exact ⟨next.1,next.2,q,rfl,Phase.next_eq_ok.mp stepped,ran⟩

theorem poll_ok {pass : Pass} {now : Nat} {p p' : Plotter μ δ}
    {made : Progress Pass (Except Fault Calibration)} (ran : pass.poll now p = .ok made p') :
    ∃ phase effects, pass.phase.Step (pass.phase.sight now p) phase effects ∧
      made = pass.progress p.motion phase effects := by
  obtain ⟨phase,effects,q,looked,step,carried⟩ := poll_carries ran
  have motion : q.motion = p.motion := (observe_yields .motion pass.phase).of_ok looked
  exact ⟨phase,effects,step,motion ▸ (carry_ok carried).1⟩

/-- A confirm ends a pass, and no device is needed for that. -/
theorem poll_confirmed (pass : Pass) (alive : pass.phase.isTerminal = false) {now : Nat} {p : Plotter μ δ}
    (pressed : p.confirmed now = true) : ∃ outcome p', pass.poll now p = .ok (.done outcome) p' := by
  obtain ⟨⟨phase,effects⟩,made⟩ := pass.phase.next_exists ⟨true,none⟩ (by simp)
  have step := Phase.next_eq_ok.mp made
  rcases step.ending alive with ⟨_,ending,isEnding,rfl⟩ | ⟨going,_⟩
  · unfold poll
    simp only [bind_apply,observe_confirmed pass.phase pressed,made,Plotter.checked_ok,Plotter.get_apply]
    cases ending with
    | complete | fail => exact ⟨_,_,rfl⟩
    | _ => cases isEnding
  · rw [step.confirmed rfl] at going
    cases going

theorem addAll_going {effects : List Effect} (going : ∀ effect ∈ effects, effect.isEnding = false)
    (spinUp : Nat) (tally : Tally) :
    (tally.addAll spinUp effects).outcome = tally.outcome ∧
      (tally.addAll spinUp effects).recorded =
        (records effects).foldl (fun c record => c.set record.1 record.2) tally.recorded := by
  induction effects generalizing tally with
  | nil => exact ⟨rfl,rfl⟩
  | cons effect effects ih =>
    have rest := ih (fun e inside => going e (List.mem_cons_of_mem _ inside)) (tally.add spinUp effect)
    have first := going effect (by simp)
    unfold Tally.addAll at rest ⊢
    cases effect with
    | complete | fail => cases first
    | _ => exact rest

/-- A pass with what was read at the stalls it has seen: they are those of the legs behind it, in
order, and the limits it has recorded come from them. -/
structure Measured (pass : Pass) (readings : List (Leg × Raw)) : Prop where
  alive : pass.phase.isTerminal = false
  legs : readings.map Prod.fst = pass.phase.done
  limits : ∀ leg stalledAt, (leg,stalledAt) ∈ readings →
    (pass.recorded.get leg.limit).ticks = stalledAt.ticks + leg.compensation

theorem start_ok {previous : Screen} {now : Nat} {p p' : Plotter μ δ} {pass : Pass}
    (ran : start previous now p = .ok pass p') : pass.Measured [] := by
  unfold start at ran
  simp only [bind_apply,Plotter.get_apply] at ran
  cases missing : p.disconnectedAxes with
  | nil => simp only [missing] at ran; cases ran; exact ⟨rfl,rfl,by simp⟩
  | cons => simp only [missing] at ran; cases ran; exact ⟨rfl,rfl,by simp⟩

theorem Measured.step {pass : Pass} {readings : List (Leg × Raw)} (measured : pass.Measured readings)
    {now : Nat} {p : Plotter μ δ} {phase : Phase} {effects : List Effect}
    (step : pass.phase.Step (pass.phase.sight now p) phase effects) (going : phase.isTerminal = false) :
    ({ pass with
      phase
      recorded := (records effects).foldl (fun c record => c.set record.1 record.2) pass.recorded } : Pass).Measured
      (readings ++ (pass.phase.stall? now p).toList) := by
  rcases step.stall going with ⟨seen,records,done⟩ | ⟨leg,stalledAt,position,seen,records,moved,done⟩
  · rw [seen,records]
    refine ⟨going,?_,?_⟩
    · simpa [done] using measured.legs
    · simpa using measured.limits
  · rw [seen,records]
    refine ⟨going,by simp [done,measured.legs],?_⟩
    -- No leg comes twice, so the new limit overwrites none of those recorded before.
    have once : leg ∉ pass.phase.done := by
      have distinct := (done ▸ Phase.done_prefix phase).sublist.nodup (by decide : Leg.all.Nodup)
      intro inside
      exact (List.nodup_append.mp distinct).2.2 leg inside leg (by simp) rfl
    intro other at_ inside
    rcases List.mem_append.mp inside with earlier | last
    · have different : other.limit ≠ leg.limit := by
        intro same
        obtain rfl := Leg.limit_injective same
        have behind := List.mem_map_of_mem (f := Prod.fst) earlier
        rw [measured.legs] at behind
        exact once behind
      simpa [different] using measured.limits other at_ earlier
    · obtain ⟨rfl,rfl⟩ : other = leg ∧ at_ = stalledAt := by simpa using last
      simpa using moved

theorem Measured.look {pass : Pass} {readings : List (Leg × Raw)} (measured : pass.Measured readings)
    {now : Nat} {p p' : Plotter μ δ} {made : Progress Pass (Except Fault Calibration)}
    (ran : pass.poll now p = .ok made p') :
    (∃ fault, made = .done (.error fault)) ∨
      (made = .done (.ok pass.recorded) ∧ pass.phase = .closing none) ∨
      ∃ delay after, made = .again delay after ∧ after.Measured (readings ++ (pass.phase.stall? now p).toList) := by
  obtain ⟨phase,effects,step,rfl⟩ := poll_ok ran
  rcases step.ending measured.alive with ⟨terminal,ending,isEnding,rfl⟩ | ⟨going,none⟩
  · cases ending with
    | fail fault => exact .inl ⟨fault,rfl⟩
    | complete => exact .inr (.inl ⟨rfl,step.complete⟩)
    | _ => cases isEnding
  · obtain ⟨outcome,recorded⟩ := addAll_going none p.motion.spinUp ⟨pass.recorded,p.motion.homingPoll,.none⟩
    have next := measured.step step going
    rw [← recorded] at next
    right; right
    refine ⟨(Tally.addAll p.motion.spinUp ⟨pass.recorded,p.motion.homingPoll,.none⟩ effects).delay,_,?_,next⟩
    simp only [progress,outcome,going]
    rfl

end Pass
end Homing
end PenPlotter
