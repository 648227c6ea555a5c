import PenPlotter.Proofs.History
import PenPlotter.Proofs.Motor.StopAction
import PenPlotter.Proofs.Motor.Trial

/-! Readings between the acts of a trial. A reading brings the motor up to date, and so does almost every command, so
that nobody hears afterwards whether somebody has looked. A stop action is chosen without that: it tells a motor that
has come to its target already, but has not been looked at since, how to rest there. -/

namespace PenPlotter.Motor.Trial

variable {R : Type} [Scalar R] {exact : Prop}

/-- The answer, with nothing said of whether the motor holds its place. -/
def Answer.plain : Answer → Answer
  | .state (.ok shown) => .state (.ok ⟨shown.flags.filter (· ≠ "holding")⟩)
  | answer => answer

/-- A line of a script: an act, or a glance at the motor that somebody casts between the acts. -/
inductive Episode where
  | glance (reading : Reading)
  | act (act : Act)

/-- The acts of a script. -/
def acts (script : List Episode) : List Act :=
  script.filterMap fun
    | .glance _ => none
    | .act act => some act

/-- What is answered to the acts of a script. -/
def heard (t : Trial R) : List Episode → List Answer
  | [] => []
  | .glance reading :: rest => heard (t.act (.read reading)).2 rest
  | .act act :: rest => (t.act act).1.toList ++ heard (t.act act).2 rest

/-- The act does not choose whether a motor that runs to a target is to hold it. -/
def Settled (t : Trial R) : Act → Prop
  | .command (.stopAction action) =>
    t.motor.drive = .toTarget → (action = .hold ↔ t.motor.stopAction = .hold)
  | _ => True

/-- Whether a motor that runs to a target is to hold it is chosen before it runs. -/
def Resolute (t : Trial R) (acts : List Act) : Prop :=
  Throughout (fun before => (t.after before).Settled) acts

theorem resolute_cons {t : Trial R} {act : Act} {rest : List Act} :
    t.Resolute (act :: rest) ↔ t.Settled act ∧ (t.act act).2.Resolute rest := by
  simp [Resolute,after]

/-- Answers that are the same but for whether the motor holds, and not even for that where the match is exact. -/
structure SameAnswers (exact : Prop) (answers others : List Answer) : Prop where
  plain : answers.map Answer.plain = others.map Answer.plain
  same : exact → answers = others

namespace SameAnswers

theorem refl (answers : List Answer) : SameAnswers exact answers answers := ⟨rfl,fun _ => rfl⟩

theorem append {answers others more further : List Answer} (first : SameAnswers exact answers others)
    (rest : SameAnswers exact more further) : SameAnswers exact (answers ++ more) (others ++ further) where
  plain := by rw [List.map_append,List.map_append,first.plain,rest.plain]
  same here := by rw [first.same here,rest.same here]

end SameAnswers

theorem plain_tell_relaxed (m : Simulated Rat) (reading : Reading) :
    (m.relaxed.tell reading).plain = (m.tell reading).plain := by
  by_cases holding : m.drive = .holding
  · rw [Simulated.relaxed_of_holding holding]
    cases reading with
    | position | place => rfl
    | state =>
      cases connected : m.connected with
      | false => simp [Simulated.tell,connected]
      | true => simp [Simulated.tell,Simulated.report,Answer.plain,State.holding,State.ofList,State.insert,
          State.idle,connected,holding]
  · rw [Simulated.relaxed_of_ne holding]

/-- Motors that match tell the same. -/
theorem sameAnswers_tell {m n : Simulated Rat} (matched : m.Matches exact n) (reading : Reading) :
    SameAnswers exact [m.tell reading] [n.tell reading] where
  plain := by
    rw [List.map_singleton,List.map_singleton,← plain_tell_relaxed m,matched.relaxed,plain_tell_relaxed]
  same here := by rw [matched.same here]

/-- Two trials, the second of which has been looked at less. Once its motor is brought up to when that of the first one
was, they match. -/
structure Trails (exact : Prop) (s t : Trial Rat) : Prop where
  now : s.now = t.now
  within : t.motor.Within
  past : t.motor.updated ≤ s.motor.updated
  seen : s.motor.updated ≤ s.now
  matched : s.motor.Matches exact (t.motor.advance s.motor.updated)

namespace Trails

variable {s t : Trial Rat}

theorem begun (exact : Prop) (t : Trial Rat) (within : t.motor.Within) (past : t.motor.updated ≤ t.now) :
    Trails exact t t :=
  ⟨rfl,within,le_rfl,past,.of_eq (Simulated.advance_of_updated rfl).symm⟩

/-- Brought up to date, the motors match. -/
theorem current (trails : Trails exact s t) :
    (s.motor.advance s.now).Matches exact (t.motor.advance s.now) := by
  have matched := trails.matched.advance s.now
  rwa [Simulated.advance_advance_later trails.within trails.past trails.seen] at matched

theorem build (trails : Trails exact s t) : s.motor.build = t.motor.build :=
  trails.matched.build.trans (t.motor.advance_build _)

/-- Motors that are up to date and match. -/
theorem of_matches {m n : Simulated Rat} {now : Nat} (within : n.Within) (seen : m.updated = now)
    (sameTime : n.updated = now) (matched : m.Matches exact n) : Trails exact ⟨now,m⟩ ⟨now,n⟩ where
  now := rfl
  within := within
  past := (sameTime.trans seen.symm).le
  seen := seen.le
  matched := by
    show m.Matches exact (n.advance m.updated)
    rwa [Simulated.advance_of_updated (sameTime.trans seen.symm)]

/-- A glance at the first motor leaves the second one as far behind, or further. -/
theorem glance (trails : Trails exact s t) (reading : Reading) : Trails exact (s.act (.read reading)).2 t := by
  rw [act_read]
  by_cases reads : s.motor.connected = true ∨ reading = .place
  · rw [if_pos reads]
    refine { trails with past := ?_, seen := (s.motor.advance_updated s.now).le, matched := ?_ }
    · rw [s.motor.advance_updated]
      exact trails.past.trans trails.seen
    · rw [s.motor.advance_updated]
      exact trails.current
  · rw [if_neg reads]
    exact trails

theorem wait (trails : Trails exact s t) (time : Nat) : Trails exact (s.act (.wait time)).2 (t.act (.wait time)).2 :=
  { trails with
    now := congrArg (· + time) trails.now
    seen := trails.seen.trans (Nat.le_add_right _ _) }

theorem read (trails : Trails exact s t) (reading : Reading) :
    SameAnswers exact (s.act (.read reading)).1.toList (t.act (.read reading)).1.toList ∧
      Trails exact (s.act (.read reading)).2 (t.act (.read reading)).2 := by
  have connected : s.motor.connected = t.motor.connected := congrArg Simulated.Build.connected trails.build
  rw [act_read,act_read,← connected,← trails.now]
  refine ⟨sameAnswers_tell trails.current reading,?_⟩
  by_cases reads : s.motor.connected = true ∨ reading = .place
  · rw [if_pos reads,if_pos reads]
    exact of_matches (Simulated.advance_within trails.within _) (s.motor.advance_updated _) (t.motor.advance_updated _)
      trails.current
  · rw [if_neg reads,if_neg reads]
    exact { trails with now := rfl }

/-- A command that is accepted finds both motors up to date, unless it chooses a stop action. -/
theorem obey (trails : Trails exact s t) {command : Command} (settled : exact → t.Settled (.command command)) :
    Trails exact
      { s with motor := (if Simulated.needsUpdate command then s.motor.advance s.now else s.motor).obey command }
      { t with motor := (if Simulated.needsUpdate command then t.motor.advance t.now else t.motor).obey command } := by
  cases command with
  | stopAction action =>
    -- The second motor is told before it is brought up to when the first one was, which is the other way round.
    have chosen := (t.motor.advance_choosing action s.motor.updated).imp settled
    exact { trails with matched := (trails.matched.obey (.stopAction action)).trans chosen.symm }
  | _ =>
    rw [← trails.now]
    exact of_matches (Simulated.advance_within trails.within s.now) (s.motor.advance_updated s.now)
      (t.motor.advance_updated s.now) (trails.current.obey _)

theorem command (trails : Trails exact s t) {command : Command} (settled : exact → t.Settled (.command command)) :
    SameAnswers exact (s.act (.command command)).1.toList (t.act (.command command)).1.toList ∧
      Trails exact (s.act (.command command)).2 (t.act (.command command)).2 := by
  rw [act_command,act_command,Simulated.refusal_of_build trails.build]
  cases t.motor.refusal? command with
  | some error => exact ⟨.refl _,trails⟩
  | none => exact ⟨.refl _,trails.obey settled⟩

theorem act (trails : Trails exact s t) {act : Act} (settled : exact → t.Settled act) :
    SameAnswers exact (s.act act).1.toList (t.act act).1.toList ∧ Trails exact (s.act act).2 (t.act act).2 := by
  cases act with
  | wait time => exact ⟨.refl _,trails.wait time⟩
  | command => exact trails.command settled
  | read reading => exact trails.read reading

theorem hears (trails : Trails exact s t) {script : List Episode} (resolute : exact → t.Resolute (acts script)) :
    SameAnswers exact (s.heard script) (t.answers (acts script)) := by
  induction script generalizing s t with
  | nil => exact .refl _
  | cons episode rest ih =>
    cases episode with
    | glance reading => exact ih (trails.glance reading) resolute
    | act act =>
      have first := trails.act fun here => (resolute_cons.mp (resolute here)).1
      exact first.1.append (ih first.2 fun here => (resolute_cons.mp (resolute here)).2)

end Trails

/-- Whoever reads a motor between the acts of a script changes nothing that is heard afterwards but whether the motor
holds its place, and not even that if whether it is to hold a target is chosen before it runs there. -/
theorem readings_leave_answers {travel : Travel} (ordered : travel.lower ≤ travel.upper) (name : String)
    (ticksPerDuty : Rat) (connected : Bool) (now : Nat) :
    ∃ m, Simulated.powerOn name travel ticksPerDuty connected now = .ok m ∧
      ∀ script : List Episode,
        (heard ⟨now,m⟩ script).map Answer.plain = (answers ⟨now,m⟩ (acts script)).map Answer.plain ∧
          (Resolute ⟨now,m⟩ (acts script) → heard ⟨now,m⟩ script = answers ⟨now,m⟩ (acts script)) := by
  obtain ⟨m,powered,within,current,_⟩ := Simulated.powerOn_within ordered name ticksPerDuty connected now
  refine ⟨m,powered,fun script => ?_⟩
  have begun := Trails.begun (Resolute ⟨now,m⟩ (acts script)) ⟨now,m⟩ within current.le
  have heard := begun.hears id
  exact ⟨heard.plain,heard.same⟩

/-- A run to a target that takes half a second, and half a second more. -/
def shortRun : List Act :=
  [.command (.speed 100),.command (.target ⟨50,by decide,by decide⟩),.command .runToTarget,.wait 1000000000]

/-- At the end of such a run somebody glances at the motor, and then its state is asked. -/
def glancedRun (before after : List Act) : List Episode :=
  (before ++ shortRun).map .act ++ .glance .position :: (after ++ [Act.read .state]).map .act

/-- Told to hold its target before it runs there, a motor holds it, glance or no glance. -/
theorem early_choice_is_kept :
    shortTravel.lower ≤ shortTravel.upper ∧
      ∃ m, Simulated.powerOn "x" shortTravel (10 : Rat) true 0 = .ok m ∧
        Resolute ⟨0,m⟩ (acts (glancedRun [.command (.stopAction .hold)] [])) ∧
        heard ⟨0,m⟩ (glancedRun [.command (.stopAction .hold)] []) =
          answers ⟨0,m⟩ (acts (glancedRun [.command (.stopAction .hold)] [])) := by
  have ordered : shortTravel.lower ≤ shortTravel.upper := by decide
  obtain ⟨m,powered,unheard⟩ := readings_leave_answers ordered "x" (10 : Rat) true 0
  have idle : m.drive = .idle := by
    obtain rfl := Except.ok.inj powered
    rfl
  have resolute : Resolute ⟨0,m⟩ (acts (glancedRun [.command (.stopAction .hold)] [])) := by
    refine resolute_cons.mpr ⟨fun running => absurd (idle.symm.trans running) nofun,?_⟩
    simp [shortRun,Settled,Resolute]
  exact ⟨ordered,m,powered,resolute,(unheard _).2 resolute⟩

/-- Told so only after it has come to its target, it holds it unless somebody has glanced at it there. -/
theorem late_choice_is_lost_by_glance :
    ¬ ∀ (travel : Travel) (name : String) (ticksPerDuty : Rat) (connected : Bool) (now : Nat) (m : Simulated Rat),
      travel.lower ≤ travel.upper → 0 < ticksPerDuty →
        Simulated.powerOn name travel ticksPerDuty connected now = .ok m →
          ∀ script : List Episode, heard ⟨now,m⟩ script = answers ⟨now,m⟩ (acts script) := by
  intro claimed
  have same := claimed shortTravel "x" 10 true 0 _ (by decide) (by norm_num) rfl
    (glancedRun [] [.command (.stopAction .hold)])
  revert same
  decide +kernel

end PenPlotter.Motor.Trial
