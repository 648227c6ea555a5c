import PenPlotter.Proofs.Homing.Reach
import PenPlotter.Proofs.Session.Homecoming

/-! Homing measures the mechanics of a machine and nothing else. The limits that the first homing pass of a session
stores follow from the travels, and if nobody disturbs it there is such a pass: it comes to its end, whatever the
speeds and times of the settings are. -/

namespace PenPlotter.Session

open Motor

variable {settings : Settings}

/-- An office in which the commands after homing are over comes to its end. -/
theorem Office.Resumes.ends {machine : Machine} {setup : Plotter Unit Unit} {o : Office Rat}
    (resumes : o.Resumes machine setup []) :
    o.Leads fun last => last.turn? = none ∧ last.result = some (.ok ()) ∧
      ∃ c, last.logged.plotter.calibration = some c ∧ c.Fits machine := by
  cases resumes with
  | @begun o c l logged stage homed quiet stored begun =>
    cases begun
    have wired : ({ o with logged := l, errand := none, result := some (.ok ()) } : Office Rat).Wired :=
      ⟨fun _ axis => (homed.rests axis).connected,fun _ _ waits => by cases waits⟩
    have printing (now : Nat) (p p' : Plotter (Simulated Rat) Panel) (known : p.calibration = some c)
        (told : printStatus now p = .ok () p') : p'.calibration = some c := by
      obtain ⟨q,line,glanced,rfl⟩ := printStatus_ok told
      exact glanced.calibration.trans known
    refine (wired.comes_to_end rfl homed.calibration printing).mono ?_
    exact fun last ⟨idle,kept⟩ => ⟨idle,kept.result,c,kept.plotter,homed.fits⟩

/-- If nobody disturbs it a session comes to the end of its first homing pass, and it comes to no other end. -/
theorem homing_ends (valid : settings.validate = .ok ()) (connected : settings.machine.disconnected = [])
    (dismisses : settings.autoDismiss = true) (out : Writer) :
    let first : Session Rat := opening settings [] out
    (∃ fuel made, first.runProgram fuel [.home] = some made) ∧
      ∀ fuel result after, first.runProgram fuel [.home] = some (result,after) →
        result = .ok () ∧ ∃ c, after.plotter.calibration = some c ∧ c.Fits settings.machine := by
  obtain ⟨ends,all⟩ := homing_program_ends valid connected dismisses out fun _ => Office.Resumes.ends
  refine ⟨ends,fun fuel result after ran => ?_⟩
  obtain ⟨last,rfl,rfl,ended,stored⟩ := all fuel result after ran
  exact ⟨by rw [Office.verdict,ended],stored⟩

/-- The first homing pass of a session comes to its end if nobody disturbs it, and whenever it succeeds it stores
the ends of the travels moved inwards. -/
theorem homing_measures_mechanics (valid : settings.validate = .ok ())
    (connected : settings.machine.disconnected = []) :
    (settings.autoDismiss = true → ∀ out, ∃ first : Session Rat, start settings [] out = .ok first ∧
      (∃ fuel made, first.runProgram fuel [.home] = some made) ∧
      ∀ fuel result after, first.runProgram fuel [.home] = some (result,after) →
        result = .ok () ∧ ∃ c, after.plotter.calibration = some c ∧ c.Measures settings.machine) ∧
    ∀ presses out (first s : Session Rat) log now homed, start settings presses out = .ok first →
      Lived first log s → firstHome log = .replied (.ok ()) now homed →
      ∃ c, homed.calibration = some c ∧ c.Measures settings.machine := by
  constructor
  · intro dismisses out
    obtain ⟨ends,all⟩ := homing_ends valid connected dismisses out
    refine ⟨_,start_eq_opening valid,ends,fun fuel result after ran => ?_⟩
    obtain ⟨told,c,stored,fits⟩ := all fuel result after ran
    exact ⟨told,c,stored,fits.measures⟩
  · intro presses out first s log now homed started lived replied
    obtain ⟨c,stored⟩ := homed_of_firstHome valid connected started lived replied
    exact ⟨c,stored.calibration,stored.fits.measures⟩

/-- The limits of the standard machine. -/
theorem standard_machine_measured :
    ∃ first : Session Rat, start {} [] = .ok first ∧ ∃ fuel after c,
      first.runProgram fuel [.home] = some (.ok (),after) ∧ after.plotter.calibration = some c ∧
      [c.toolUp,c.toolDown,c.xMin,c.xMax,c.yMin,c.yMax].map Position.ticks = [-20,45,570,-570,-1150,1470] := by
  have valid : ({} : Settings).validate = .ok () := rfl
  obtain ⟨first,started,⟨fuel,⟨result,after⟩,ran⟩,all⟩ := (homing_measures_mechanics valid rfl).1 rfl {}
  obtain ⟨rfl,c,stored,measures⟩ := all fuel result after ran
  refine ⟨first,started,fuel,after,c,ran,stored,?_⟩
  simp only [List.map_cons,List.map_nil,measures.toolUp,measures.toolDown,measures.xMin,measures.xMax,measures.yMin,
    measures.yMax]
  decide

end PenPlotter.Session
