import PenPlotter.Proofs.Session.Mechanics
import PenPlotter.Proofs.Session.Voyage

/-! What a calibration promises. Every position that a move can have as its target is in reach of the motor, so that
the move can be completed, exactly where the travels are long enough for the limits that homing records. -/

namespace PenPlotter

open Motor

/-- The targets of a move lie between the limits of the calibration. -/
theorem Gcode.go_holds {μ δ : Type} [Motor μ] [Display δ] {previous : Screen} {x y z : Option Float} {goals : Targets}
    {now : Nat} {p p' : Plotter μ δ} {c : Calibration} (known : p.calibration = some c)
    (ran : dispatch previous (.go x y z) now p = .ok (.started (.move goals)) p') {axis : Axis} {target : Raw}
    (on : goals.on axis = some target) : (c.interval axis).Holds target := by
  obtain ⟨steps,same⟩ := go_started known ran (axis,target) (Targets.mem_toList.mpr on)
  obtain rfl : target = c.toRaw axis steps := same
  exact Interval.toRaw_holds _ _

namespace Session

/-- All that lies between the limits of the first homing pass is in reach, and so are the targets of moves, on the
axes whose travels are long enough for these limits and on no other. If they are so on all axes of a move, homing and
this move succeed unless somebody disturbs them. -/
theorem calibration_is_usable {R : Type} [Scalar R] [Scalar.Lawful R] {settings : Settings}
    (valid : settings.validate = .ok ()) (connected : settings.machine.disconnected = []) :
    (∀ presses out (first s : Session R) log now homed, start settings presses out = .ok first → Lived first log s →
      firstHome log = .replied (.ok ()) now homed → ∃ c, homed.calibration = some c ∧ ∀ axis,
        ((∀ target, (c.interval axis).Holds target → (settings.machine.travel axis).Reaches target) ↔
          settings.machine.Roomy axis) ∧
        (settings.machine.Roomy axis → ∀ (p p' : Plotter (Simulated R) Panel) later previous x y z goals target,
          p.calibration = some c → Gcode.dispatch previous (.go x y z) later p = .ok (.started (.move goals)) p' →
          goals.on axis = some target → (settings.machine.travel axis).Reaches target)) ∧
    (settings.autoDismiss = true → ∀ x y z,
      (∀ axis, (Gcode.along x y z axis).isSome = true → settings.machine.Roomy axis) → ∀ relative inches out,
      ∃ first : Session Rat, start settings [] out = .ok first ∧
        (∃ fuel made, first.runProgram fuel (goProgram x y z relative inches) = some made) ∧
        ∀ fuel result after, first.runProgram fuel (goProgram x y z relative inches) = some (result,after) →
          result = .ok ()) := by
  have sound := Settings.sound_of_validate valid
  constructor
  · intro presses out first s log now homed started lived replied
    obtain ⟨c,stored⟩ := homed_of_firstHome valid connected started lived replied
    refine ⟨c,stored.calibration,fun axis => ?_⟩
    have reaches := stored.fits.reaches_iff (sound.travel axis)
    refine ⟨reaches,?_⟩
    intro roomy p p' later previous x y z goals target known ran on
    exact reaches.mpr roomy target (Gcode.go_holds known ran on)
  · intro dismisses x y z room relative inches out
    exact ⟨_,start_eq_opening valid,go_program_succeeds valid connected dismisses x y z room relative inches out⟩

/-- On the standard machine all that lies between the limits is in reach. -/
theorem standard_machine_in_reach :
    ∃ (first s : Session Rat) (log : List (Entry Rat)) (now : Nat) (homed : Plotter (Simulated Rat) Panel)
      (c : Calibration), start {} [] = .ok first ∧ Lived first log s ∧ firstHome log = .replied (.ok ()) now homed ∧
      homed.calibration = some c ∧
      ∀ axis target, (c.interval axis).Holds target → (Machine.standard.travel axis).Reaches target := by
  obtain ⟨first,fuel,after,started,ran⟩ := standard_machine_goes none none none false false
  obtain ⟨last,worked,rfl,voyage⟩ := voyage_of_success rfl rfl started ran
  obtain ⟨now,homed,_,replied,_⟩ := voyage.ends
  have lived : Lived first _ _ := .ran .opened ran worked nofun
  obtain ⟨c,stored,usable⟩ := (calibration_is_usable rfl rfl).1 _ _ _ _ _ _ _ started lived replied
  exact ⟨_,_,_,now,homed,c,started,lived,replied,stored,fun axis => (usable axis).1.mpr (by cases axis <;> decide)⟩

/-- A machine with a short travel. -/
def shortMachine : Machine where
  tool := Machine.standard.tool
  x := Machine.standard.x
  y := { lower := ⟨-10, by decide, by decide⟩, upper := ⟨10, by decide, by decide⟩ }

/-- Its settings are valid and homing it succeeds, and yet what it records as its first limit is out of reach. -/
theorem short_machine_out_of_reach :
    ({ machine := shortMachine } : Settings).validate = .ok () ∧ shortMachine.disconnected = [] ∧
    ∃ (first after : Session Rat) (fuel : Nat) (c : Calibration) (target : Raw),
      start { machine := shortMachine } [] = .ok first ∧ first.runProgram fuel [.home] = some (.ok (),after) ∧
      after.plotter.calibration = some c ∧ (c.interval .y).Holds target ∧ target.ticks = 340 ∧
      ¬ (shortMachine.travel .y).Reaches target := by
  have valid : ({ machine := shortMachine } : Settings).validate = .ok () := rfl
  obtain ⟨⟨fuel,⟨result,after⟩,ran⟩,all⟩ := homing_ends valid rfl rfl {}
  obtain ⟨rfl,c,stored,fits⟩ := all fuel result after ran
  have found : c.yMin.ticks = 340 := fits.measures.yMin
  refine ⟨valid,rfl,_,after,fuel,c,c.yMin,start_eq_opening valid,ran,stored,?_,found,?_⟩
  · exact ⟨Int.min_le_left ..,Int.le_max_left ..⟩
  · rintro ⟨_,below⟩
    rw [found] at below
    revert below
    decide

end Session
end PenPlotter
