import PenPlotter.Display.Journal
import PenPlotter.Motor.Recorded
import PenPlotter.Proofs.Gcode.Coordinates
import PenPlotter.Proofs.Shop.Basic

/-! What is left behind when a client dispatches a move and it is refused. All coordinates are made targets before the
first motor is commanded, so that a position that cannot be read stops a move that has done nothing; a command that is
refused leaves the axes before it going. -/

namespace PenPlotter

variable {access : Shop.Access} {μ δ χ : Type} [Motor μ] [Display δ]

namespace Gcode

variable {now : Nat} {p : Plotter μ δ} {c : Calibration} {x y z : Option Float}

omit [Motor μ] [Display δ] in
theorem reads_positions (modes : Modes) (x y z : Option Float) :
    ∀ ask ∈ reads modes x y z, ask.2 = .position ∧ (along x y z ask.1).isSome = true := by
  have each (axis : Axis) (value : Option Float) :
      ∀ ask ∈ reading modes axis value, ask = (axis,.position) ∧ value.isSome = true := by
    intro ask inside
    obtain ⟨same,_,present⟩ := mem_reading.mp inside
    exact ⟨same,present⟩
  intro ask inside
  rcases List.mem_append.mp inside with onX | inside
  · obtain ⟨rfl,present⟩ := each .x x ask onX
    exact ⟨rfl,present⟩
  rcases List.mem_append.mp inside with onY | onTool
  · obtain ⟨rfl,present⟩ := each .y y ask onY
    exact ⟨rfl,present⟩
  · obtain ⟨rfl,present⟩ := each .tool z ask onTool
    exact ⟨rfl,present⟩

/-- A move is dispatched in two steps, the second of them after all of the first. -/
theorem dispatch_go (known : p.calibration = some c) (previous : Screen) :
    dispatch previous (.go x y z) now p =
      match targets x y z now p with
      | .error reason q => .error reason q
      | .ok goals q =>
        match goals.start now q with
        | .error reason r => .error reason r
        | .ok () r => .ok (.started (.move goals)) r := by
  simp only [dispatch,bind_apply,Plotter.get_apply,known,Option.isNone_some,Bool.false_eq_true,↓reduceIte]
  cases targets x y z now p with
  | error => rfl
  | ok goals q =>
    dsimp only
    cases goals.start now q <;> rfl

theorem go_unhomed (unknown : p.calibration = none) (previous : Screen) :
    dispatch previous (.go x y z) now p = .ok (.replied (.error .notHomed)) p := by
  simp only [dispatch,bind_apply,Plotter.get_apply,unknown,Option.isNone_none,↓reduceIte]
  rfl

/-- A move none of whose positions is refused has its targets before anything is commanded. -/
theorem go_read (known : p.calibration = some c) (previous : Screen)
    (read : refusal? now p.motor (reads p.modes x y z) = none) :
    ∃ goals : Targets, (∀ axis, (goals.on axis).isSome = (along x y z axis).isSome) ∧
      dispatch previous (.go x y z) now p =
        match goals.start now (p.withMotors (attempt now p.motor (reads p.modes x y z)).2) with
        | .error reason r => .error reason r
        | .ok () r => .ok (.started (.move goals)) r := by
  obtain ⟨goals,made⟩ := (targets_performs known x y z).answered read
  refine ⟨goals,fun axis => (targets_found known made axis).1,?_⟩
  rw [dispatch_go known,made]

end Gcode

namespace Shop

/-- What becomes of a move that is dispatched. If the plotter is not homed the callback is told so, and nothing else
happens. Otherwise the positions that the coordinates need are read first; if one of these is refused, its error is
all that there is. The commands that start the axes come after that: if one of them is refused, those before it were
given and none after it. Only a move that is not refused anywhere is accepted, and its callback is kept. -/
theorem go_is_refused_in_order (x y z : Option Float) (previous : Screen) (callback : Told → Script access μ δ χ)
    (rest : Except Failure Unit → Script access μ δ χ) (moment : Moment) (w : Working access μ δ χ) :
    let now := Request.clock moment.now w.requests
    let p := w.context.plotter
    let order : Order access := .command (.go x y z) previous
    let ran := (Script.order order callback rest).run moment w
    let failed (error : DeviceError) : Except Failure Unit := .error (.report (.ofFault (.ofDevice error)))
    let positions := Gcode.reads p.modes x y z
    let read := (attempt now p.motor positions).2
    (p.calibration = none →
      let answered := (callback (.replied (.error .notHomed))).run moment w
      ran = (rest answered.1).run moment answered.2) ∧
    (∀ ask ∈ positions, ask.2 = .position ∧ (Gcode.along x y z ask.1).isSome = true) ∧
    (p.calibration.isSome = true → ∀ error, refusal? now p.motor positions = some error →
      ran = (rest (failed error)).run moment (w.withPlotter (p.withMotors read))) ∧
    (p.calibration.isSome = true → refusal? now p.motor positions = none →
      ∃ goals : Targets, (∀ axis, (goals.on axis).isSome = (Gcode.along x y z axis).isSome) ∧
        let launches := goals.launches p.motion.goSpeed
        let launched := attempt now read launches
        (∀ error, refusal? now read launches = some error →
          ran = (rest (failed error)).run moment (w.withPlotter (p.withMotors launched.2)) ∧
            (∃ done failing later, BreaksOff now read launches done failing later error) ∧
            ∀ axis, (∀ call ∈ launched.1, call.axis ≠ axis) → launched.2 axis = read axis) ∧
        (refusal? now read launches = none →
          ran = (rest (.ok ())).run moment
            ((w.withPlotter (p.withMotors launched.2)).accept order callback (.move goals)))) := by
  intro now p order ran failed positions read
  have replied {reply : Except Fault Unit} {plotter : Plotter μ δ}
      (placed : Gcode.dispatch previous (.go x y z) now p = .ok (.replied reply) plotter) :
      let answered := (callback (.replied reply)).run moment (w.withPlotter plotter)
      ran = (rest answered.1).run moment answered.2 := by
    simp only [ran,Script.run,order,Order.place,now,p] at placed ⊢
    rw [placed]
  have broken {reason : Failure} {plotter : Plotter μ δ}
      (placed : Gcode.dispatch previous (.go x y z) now p = .error reason plotter) :
      ran = (rest (.error reason)).run moment (w.withPlotter plotter) := by
    simp only [ran,Script.run,order,Order.place,now,p] at placed ⊢
    rw [placed]
  have started {operation : Operation} {plotter : Plotter μ δ}
      (placed : Gcode.dispatch previous (.go x y z) now p = .ok (.started operation) plotter) :
      ran = (rest (.ok ())).run moment ((w.withPlotter plotter).accept order callback operation) := by
    simp only [ran,Script.run,order,Order.place,now,p] at placed ⊢
    rw [placed]
  refine ⟨fun unknown => ?_,Gcode.reads_positions p.modes x y z,fun homed error why => ?_,fun homed answered => ?_⟩
  · exact replied (Gcode.go_unhomed unknown previous)
  · obtain ⟨c,known⟩ := Option.isSome_iff_exists.mp homed
    refine broken ?_
    rw [Gcode.dispatch_go known,(Gcode.targets_performs known x y z).refused error why]
  · obtain ⟨c,known⟩ := Option.isSome_iff_exists.mp homed
    obtain ⟨goals,present,dispatched⟩ := Gcode.go_read known previous answered
    refine ⟨goals,present,?_⟩
    intro launches launched
    have starts : Plotter.Performs launches (goals.start : PlotterM μ δ Unit) now (p.withMotors read) :=
      goals.start_performs now (p.withMotors read)
    constructor
    · intro error why
      have refused := starts.refused error (by rw [Plotter.motor_withMotors]; exact why)
      refine ⟨broken ?_,breaksOff_of_refusal? why,fun axis => attempt_untouched⟩
      rw [dispatched,refused,Plotter.motor_withMotors]
      rfl
    · intro none
      obtain ⟨_,launched⟩ := starts.answered (by rw [Plotter.motor_withMotors]; exact none)
      refine started ?_
      rw [dispatched,launched,Plotter.motor_withMotors]
      rfl

/-- A homed plotter whose motor along y is jammed. -/
def jammed : Plotter Motor.Recorded Journal where
  tool := {}
  x := {}
  y := { failure := some "jammed" }
  display := {}
  calibration := some {}

/-- A move of all three axes on the jammed plotter. In absolute mode x is set going before the first command to y is
refused, and the tool is left alone; in relative mode the position of y is refused before anything is set going. -/
theorem jammed_move_is_refused :
    let move : Script .commands Motor.Recorded Journal Unit :=
      .order (.command (.go (some 1) (some 2) (some 3)) (.menu "main menu")) (fun _ => .stop (.ok ())) .stop
    let fresh (plotter : Plotter Motor.Recorded Journal) : Working .commands Motor.Recorded Journal Unit :=
      { context := ⟨plotter, { notes := () }⟩ }
    let blocked : Except Failure Unit := .error (.report (.ofFault (.ofDevice (.other "jammed"))))
    let relative : Plotter Motor.Recorded Journal := { jammed with modes := { relativeMoves := true } }
    (∃ target, move.run ⟨0,0⟩ (fresh jammed) =
      (blocked,fresh { jammed with
        x := { stopAction := some .hold, speed := some 200, target := some target, commands := ["run-to-abs-pos"] } })) ∧
      move.run ⟨0,0⟩ (fresh relative) = (blocked,fresh relative) := by
  intro move fresh blocked relative
  constructor
  · obtain ⟨_,_,_,launched⟩ := go_is_refused_in_order (some 1) (some 2) (some 3) (.menu "main menu")
      (fun _ => .stop (.ok ())) .stop ⟨0,0⟩ (fresh jammed)
    obtain ⟨⟨x,y,tool⟩,present,refused,_⟩ := launched rfl rfl
    obtain ⟨target,rfl⟩ := Option.isSome_iff_exists.mp (present .x)
    obtain ⟨goal,rfl⟩ := Option.isSome_iff_exists.mp (present .y)
    exact ⟨target,(refused (.other "jammed") rfl).1⟩
  · obtain ⟨_,_,unread,_⟩ := go_is_refused_in_order (some 1) (some 2) (some 3) (.menu "main menu")
      (fun _ => .stop (.ok ())) .stop ⟨0,0⟩ (fresh relative)
    exact unread rfl (.other "jammed") rfl

end Shop
end PenPlotter
