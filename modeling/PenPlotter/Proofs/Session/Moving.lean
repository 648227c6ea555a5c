import PenPlotter.Proofs.Homing.Reach
import PenPlotter.Proofs.Plotter.Steering
import PenPlotter.Proofs.Session.Homecoming

/-! A program that homes and then moves. Once the plotter is homed the move is begun at once, and if nobody breaks it
off and its targets are in reach, a look finds it over in the end. -/

namespace PenPlotter

open Motor

namespace Session

variable {machine : Machine} {c : Calibration} {now : Nat} {l logged : Logged Rat} {x y z : Option Float}
variable {relative inches : Bool}

/-- The commands of such a program once it has homed. -/
def moveCommands (x y z : Option Float) (relative inches : Bool) : List Gcode :=
  [if inches then .useInches else .useMillimeters, if relative then .relative else .absolute, .go x y z]

/-- The targets of a move that is begun on a plotter that was just homed. -/
def moveTargets (c : Calibration) (now : Nat) (homed : Plotter (Simulated Rat) Panel) (x y z : Option Float)
    (relative inches : Bool) : Targets :=
  Gcode.aims c now { homed with modes := ⟨relative, !inches⟩ } x y z

/-- Once homed the program begins its move at once. -/
theorem undertake_move (homed : Homed machine c l.plotter) (now : Nat) (x y z : Option Float) (relative inches : Bool) :
    let targets := moveTargets c now l.plotter x y z relative inches
    ∃ logged, undertake now (moveCommands x y z relative inches) l = .ok (.waiting 0 ⟨.move targets,[]⟩) logged ∧
      logged.plotter.setup = { l.plotter.setup with modes := ⟨relative,!inches⟩ } ∧
      logged.plotter.display = l.plotter.display ∧
      targets.Steered machine (fun axis => (l.plotter.motor axis).carriage) logged.plotter ∧
      ∀ axis target, targets.on axis = some target →
        (logged.plotter.motor axis).drive = .toTarget ∧
          (logged.plotter.motor axis).speed = l.plotter.motion.goSpeed := by
  intro targets
  let p : Plotter (Simulated Rat) Panel := { l.plotter with modes := ⟨relative,!inches⟩ }
  have connected : p.Connected := fun axis => (homed.rests axis).connected
  obtain ⟨q,p',ran,glanced,apart,motors⟩ := Gcode.go_connected (p := p) now homed.calibration connected mainMenu x y z
  have modes : ∃ log, undertake now (moveCommands x y z relative inches) l = undertake now [.go x y z] ⟨p,log⟩ := by
    cases inches <;> cases relative <;> exact ⟨_,rfl⟩
  obtain ⟨log,modes⟩ := modes
  have motion : p'.setup = { l.plotter.setup with modes := ⟨relative,!inches⟩ } :=
    (congrArg (fun p => ({ p with display := () } : Plotter Unit Unit)) apart :)
  have rests (axis : Axis) : Simulated.Rests (machine.travel axis) (q.motor axis) ∧
      (q.motor axis).carriage = (l.plotter.motor axis).carriage := by
    have rests := homed.rests axis
    rcases glanced.motor axis with same | up
    · rw [same]; exact ⟨rests,rfl⟩
    · rw [up]
      have still := congrArg Simulated.carriage (Simulated.advance_idle rests.drive now)
      exact ⟨rests.advance now,still⟩
  obtain ⟨steered,aimed⟩ := Targets.steered_launches (fun axis => (rests axis).1) motors
  refine ⟨_,modes.trans (by simp only [undertake,Logged.write,ran]; rfl),motion,?_,?_,?_⟩
  · exact (congrArg Plotter.display apart :)
  · rw [show (fun axis => (l.plotter.motor axis).carriage) = fun axis => (q.motor axis).carriage from
      funext fun axis => (rests axis).2.symm]
    exact steered
  · intro axis target on
    rw [aimed axis target on]
    exact ⟨rfl,rfl⟩

namespace Office

variable {targets : Targets} {places : Axis → Rat} {deadline : Nat} {due : Due} {o : Office Rat}

/-- A move is under way that nobody breaks off. -/
structure Moves (machine : Machine) (targets : Targets) (places : Axis → Rat) (deadline : Nat) (due : Due)
    (o : Office Rat) : Prop where
  waits : o.errand = some (due, ⟨.move targets, []⟩)
  bound : targets.Bound machine places deadline o.logged.plotter
  quiet : o.logged.plotter.display.Quiet false
  goPoll : 0 < o.logged.plotter.motion.goPoll

/-- The looks at a move to targets in reach lead to its end. -/
theorem Moves.comes_there (moves : o.Moves machine targets places deadline due)
    (within : ∀ axis target, targets.on axis = some target → (machine.travel axis).Reaches target) :
    o.Leads fun last => last.turn? = none ∧ last.result = some (.ok ()) := by
  -- Looks follow each other in time, and from the deadline on the move is found to be over.
  generalize wait : deadline - due.start o.now = k
  induction k using Nat.strongRecOn generalizing o due with
  | ind k again =>
    have wired : o.Wired := ⟨fun _ => moves.bound.connected,fun _ _ _ => .inr moves.bound.connected⟩
    have printing (now : Nat) (p p' : Plotter (Simulated Rat) Panel)
        (before : targets.Bound machine places deadline p ∧ p.display.Quiet false ∧ 0 < p.motion.goPoll)
        (told : printStatus now p = .ok () p') :
        targets.Bound machine places deadline p' ∧ p'.display.Quiet false ∧ 0 < p'.motion.goPoll := by
      obtain ⟨bound,quiet,goPoll⟩ := before
      obtain ⟨q,line,glanced,rfl⟩ := printStatus_ok told
      have bound := bound.glanced within glanced
      have quiet : q.display.Quiet false := by rwa [glanced.display]
      have goPoll : 0 < q.motion.goPoll := by rwa [glanced.motion]
      exact ⟨⟨⟨bound.heads,bound.rests⟩,bound.arrives⟩,quiet.showStatus line,goPoll⟩
    have comes := wired.comes_to_look moves.waits ⟨moves.bound,moves.quiet,moves.goPoll⟩ printing
    refine comes.bind fun o₁ ⟨turn,same,kept⟩ => ?_
    obtain ⟨bound,quiet,goPoll⟩ := kept.plotter
    obtain ⟨p',bound',quiet',motion,found⟩ := bound.look within quiet (due.start o₁.now)
    rcases found with ran | ⟨ran,early⟩
    · have made : attend (due.start o₁.now) ⟨.move targets,[]⟩ o₁.logged =
          .ok (.ended (.ok ())) {
            plotter := p'
            log := o₁.logged.log ++ [.looked (o₁.logged.plotter.confirmed (due.start o₁.now))] ++
              [.replied (.ok ()) (due.start o₁.now) p'] } := by
        simp only [attend,Logged.write,Operation.poll_move,ran]
        rfl
      have took := Took.looked turn made
      exact .turn took (Wired.ends (kept.wired.took took) rfl)
    · have made : attend (due.start o₁.now) ⟨.move targets,[]⟩ o₁.logged =
          .ok (.waiting o₁.logged.plotter.motion.goPoll ⟨.move targets,[]⟩)
            { plotter := p', log := o₁.logged.log ++ [.looked (o₁.logged.plotter.confirmed (due.start o₁.now))] } := by
        simp only [attend,Logged.write,Operation.poll_move,ran]
        rfl
      have later : due.start o₁.now < _ := Due.start_after goPoll
      refine .turn (.looked turn made) (again _ ?_ ⟨rfl,bound',quiet',motion ▸ goPoll⟩ rfl)
      show deadline - (Due.after (due.start o₁.now) _).start (due.start o₁.now) < k
      omega

/-- After homing a program moves to targets that are in reach, unless the travel of an axis is too short. -/
theorem Resumes.comes_there {setup : Plotter Unit Unit}
    (resumes : o.Resumes machine setup (moveCommands x y z relative inches))
    (goSpeed : 0 < setup.motion.goSpeed) (goPoll : 0 < setup.motion.goPoll)
    (sound : ∀ axis, (machine.travel axis).Sound)
    (room : ∀ axis, (Gcode.along x y z axis).isSome = true → machine.Roomy axis) :
    o.Leads fun last => last.turn? = none ∧ last.result = some (.ok ()) := by
  cases resumes with
  | @begun o c l logged stage homed quiet stored begun =>
    obtain ⟨after,made,setup',display,steered,aimed⟩ := undertake_move homed o.now x y z relative inches
    cases begun.symm.trans made
    have motion : l.plotter.motion = setup.motion := (congrArg Plotter.motion stored :)
    have motion' : logged.plotter.motion = l.plotter.motion := (congrArg Plotter.motion setup' :)
    obtain ⟨deadline,bound⟩ := Targets.Bound.of_steered steered fun axis target on => by
      obtain ⟨running,speed⟩ := aimed axis target on
      rw [speed,motion]
      exact ⟨running,Int.ne_of_gt goSpeed⟩
    have goPoll : 0 < logged.plotter.motion.goPoll := by rwa [motion',motion]
    have moves : (({ o with logged, errand := none } : Office Rat).enter (.waiting 0 ⟨.move _,[]⟩)).Moves machine
        (moveTargets c o.now l.plotter x y z relative inches) _ deadline (.after o.now 0) :=
      ⟨rfl,bound,display ▸ quiet,goPoll⟩
    refine moves.comes_there fun axis target on => ?_
    obtain ⟨value,asked,rfl⟩ := Option.map_eq_some_iff.mp ((Targets.on_aims ..).symm.trans on)
    have roomy := room axis (by rw [asked]; rfl)
    exact (homed.fits.reaches_iff (sound axis)).mpr roomy _ (Interval.toRaw_holds _ _)

end Office

/-- If nobody disturbs it a program that homes and then moves succeeds, unless the travel of an axis that it moves
is too short. -/
theorem go_program_succeeds {settings : Settings} (valid : settings.validate = .ok ())
    (connected : settings.machine.disconnected = []) (dismisses : settings.autoDismiss = true) (x y z : Option Float)
    (room : ∀ axis, (Gcode.along x y z axis).isSome = true → settings.machine.Roomy axis) (relative inches : Bool)
    (out : Writer) :
    let first : Session Rat := opening settings [] out
    (∃ fuel made, first.runProgram fuel (goProgram x y z relative inches) = some made) ∧
      ∀ fuel result after, first.runProgram fuel (goProgram x y z relative inches) = some (result,after) →
        result = .ok () := by
  have sound := Settings.sound_of_validate valid
  obtain ⟨ends,all⟩ := homing_program_ends valid connected dismisses out fun o resumes =>
    resumes.comes_there sound.goSpeed sound.goPoll sound.travel room
  refine ⟨ends,fun fuel result after ran => ?_⟩
  obtain ⟨last,rfl,_,ended⟩ := all fuel result after ran
  rw [Office.verdict,ended]

theorem standard_machine_goes (x y z : Option Float) (relative inches : Bool) :
    ∃ (first : Session Rat) (fuel : Nat) (after : Session Rat), start {} [] = .ok first ∧
      first.runProgram fuel (goProgram x y z relative inches) = some (.ok (),after) := by
  have valid : ({} : Settings).validate = .ok () := rfl
  have room (axis : Axis) (_ : (Gcode.along x y z axis).isSome = true) : Machine.standard.Roomy axis := by
    cases axis <;> decide
  obtain ⟨⟨fuel,⟨result,after⟩,ran⟩,all⟩ := go_program_succeeds valid rfl rfl x y z room relative inches {}
  obtain rfl := all fuel result after ran
  exact ⟨_,fuel,after,start_eq_opening valid,ran⟩

end Session
end PenPlotter
