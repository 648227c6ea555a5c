import PenPlotter.Proofs.Plotter.Overlaid
import PenPlotter.Proofs.Schedule.Timing
import PenPlotter.Proofs.Session.Deeds
import PenPlotter.Proofs.Session.Opening
import PenPlotter.Proofs.Session.Progress

/-! A program with its status lines and without them. The office in which no status lines are printed takes the same
looks at the same times: a status line moves the clock on, but never past the next look, and what it reads of the
motors makes no difference to them. So all deeds are the same, and the two part only after the last look, when one
more status line is printed. -/

namespace PenPlotter.Session

open Motor

/-- Whether an instant comes less than a period of status lines after another one. -/
def Soon (instant later : Nat) : Prop := later < instant + statusPeriod

theorem Soon.refl (instant : Nat) : Soon instant instant := Nat.lt_add_of_pos_right statusPeriod_pos

namespace Office

variable {out : Writer} {o o' u : Office Rat} {fuel : Nat}

/-- A status line is printed before a look that is due later. -/
theorem overtaken {due other : Due} {errand : Errand (List Gcode)} (turn : o.turn? = some (.status due))
    (waits : o.errand = some (other,errand)) : due.rank < other.rank := by
  unfold turn? at turn
  rw [waits] at turn
  cases status : o.status with
  | none => simp [status] at turn
  | some line =>
    simp only [status] at turn
    split at turn
    · cases turn
    next later =>
      cases turn
      exact Nat.lt_of_not_le later

/-- The office once a status line was printed. -/
def afterLine (o : Office R) (line : Due) (plotter : Plotter (Simulated R) Panel) : Office R :=
  { o with
    now := line.start o.now
    status := if o.errand.isSome then some (Due.after (line.start o.now) statusPeriod) else none
    logged.plotter := plotter }

theorem take_line {line : Due} {plotter : Plotter (Simulated Rat) Panel}
    (told : printStatus (line.start o.now) o.logged.plotter = .ok () plotter) :
    o.take (.status line) = (.ok (),o.afterLine line plotter) := by
  simp only [take,printLine,told]
  rfl

/-- How many ranks the next status line lags behind the next look. -/
def lag (o : Office R) : Nat :=
  o.status.elim 0 fun line => o.errand.elim 1 fun waiting => waiting.1.rank - line.rank

/-- A status line that comes back later catches up. -/
theorem lag_lt {line next : Due} (turn : o.turn? = some (.status line)) (later : line.rank < next.rank)
    (errand : o'.errand = o.errand) (back : o'.status = if o.errand.isSome then some next else none) :
    o'.lag < o.lag := by
  unfold lag
  rw [status_of_turn turn,back,errand]
  cases waits : o.errand with
  | none => simp
  | some waiting =>
    have before := overtaken turn waits
    simp only [Option.isSome_some,↓reduceIte,Option.elim_some]
    exact Nat.sub_lt_sub_left before later

/-- An office without status lines that keeps up with one in which they are printed. -/
structure Abreast (out : Writer) (o u : Office Rat) : Prop where
  alike : (Likeness.overlaid out o.now).Alike o.logged.plotter u.logged.plotter
  errand : u.errand = o.errand
  result : u.result = o.result
  silent : u.status = none
  clock : u.now ≤ o.now
  /-- The next look is taken at the same time. -/
  start : ∀ due errand, o.errand = some (due, errand) → due.start u.now = due.start o.now
  ahead : ∀ instant errand, o.errand = some (.dated instant, errand) → o.now < instant
  /-- The next status line comes within a period of the next look, or of the last one. -/
  line : ∀ instant, o.status = some (.dated instant) →
    Soon (o.errand.elim u.now fun waiting => waiting.1.start o.now) instant
  idle : o.errand = none → Soon u.now o.now

/-- How two offices end, one with status lines and one without. -/
structure Parted (out : Writer) (o u : Office Rat) : Prop where
  alike : (Likeness.overlaid out o.now).Alike o.logged.plotter u.logged.plotter
  result : u.result = o.result
  clock : u.now ≤ o.now
  soon : Soon u.now o.now

namespace Abreast

variable {due : Due} {errand : Errand (List Gcode)}

theorem prints (abreast : Abreast out o u) {line : Due} (turn : o.turn? = some (.status line))
    {plotter : Plotter (Simulated Rat) Panel}
    (told : printStatus (line.start o.now) o.logged.plotter = .ok () plotter) :
    Abreast out (o.afterLine line plotter) u := by
  have onward := line.le_start o.now
  have ahead (instant : Nat) (errand : Errand (List Gcode)) (waits : o.errand = some (.dated instant,errand)) :
      line.start o.now < instant := by
    have before := overtaken turn waits
    have ahead := abreast.ahead instant errand waits
    cases line with
    | immediate => exact ahead
    | dated other =>
      simp only [Due.rank,Due.start,Clock.sleepUntil_eq_max] at before ⊢
      omega
  refine { abreast with alike := ?_, clock := abreast.clock.trans onward, start := ?_, ahead, line := ?_, idle := ?_ }
  · obtain ⟨q,text,glanced,rfl⟩ := printStatus_ok told
    exact ((abreast.alike.later onward).glanced glanced).showStatus text
  · intro due errand waits
    exact (abreast.start due errand waits).trans (Due.start_start (Nat.le_of_lt (overtaken turn waits)) o.now).symm
  · intro instant back
    cases waits : o.errand with
    | none => simp [afterLine,waits] at back
    | some waiting =>
      obtain ⟨due,errand⟩ := waiting
      cases due with
      | immediate => exact absurd (overtaken turn waits) (Nat.not_lt_zero _)
      | dated next =>
        have ahead := ahead next errand waits
        have delayed : statusPeriod ≠ 0 := Nat.ne_of_gt statusPeriod_pos
        simp only [afterLine,waits,Option.isSome_some,↓reduceIte,Due.after,delayed,Option.some.injEq,
          Due.dated.injEq] at back
        have started : (Due.dated next).start (line.start o.now) = next :=
          (Clock.sleepUntil_eq_max ..).trans (Nat.max_eq_right ahead.le)
        simp only [afterLine,waits,Option.elim_some,started,Soon]
        omega
  · intro free
    have idle := abreast.idle free
    cases line with
    | immediate => exact idle
    | dated instant =>
      have soon := abreast.line instant (status_of_turn turn)
      rw [show o.errand = none from free,Option.elim_none] at soon
      simp only [Soon,afterLine,Due.start,Clock.sleepUntil_eq_max] at idle soon ⊢
      omega

/-- What a task has left on both sides. -/
theorem enter {now : Nat} {logged logged' : Logged Rat} (stage : Stage) (result : Session.Result) {status : Option Due}
    (alike : (Likeness.overlaid out now).Alike logged.plotter logged'.plotter)
    (soon : ∀ instant, status = some (.dated instant) → Soon now instant) :
    Abreast out { ({ now, logged, result } : Office Rat).enter stage with status }
      { ({ now, logged := logged', result } : Office Rat).enter stage with status := none } := by
  cases stage with
  | ended | dropped =>
    refine ⟨alike,rfl,rfl,rfl,le_rfl,?_,?_,soon,fun _ => .refl now⟩
    · intro _ _ waits
      cases waits
    · intro _ _ waits
      cases waits
  | waiting delay next =>
    refine ⟨alike,rfl,rfl,rfl,le_rfl,fun _ _ _ => rfl,?_,?_,nofun⟩
    · intro instant errand waits
      simp only [Office.enter,Option.some.injEq,Prod.mk.injEq] at waits
      exact Due.lt_of_after waits.1
    · intro instant status
      have later := (Due.after now delay).le_start now
      have soon := soon instant status
      simp only [Soon,Office.enter,Option.elim_some] at soon ⊢
      omega

/-- A look is taken on both sides, with the same deeds, and it fails on both or on neither. -/
theorem look (abreast : Abreast out o u) (turn : o.turn? = some (.look due errand)) :
    u.turn? = some (.look due errand) ∧ u.does (.look due errand) = o.does (.look due errand) ∧
      ((∃ o' u', o.take (.look due errand) = (.ok (),o') ∧ u.take (.look due errand) = (.ok (),u') ∧
          o.Took o' ∧ Abreast out o' u') ∨
        ∃ reason o' u', o.take (.look due errand) = (.error reason,o') ∧
          u.take (.look due errand) = (.error reason,u') ∧ Parted out o' u') := by
  have waits := errand_of_turn turn
  have start := abreast.start due errand waits
  have alike := abreast.alike.later (due.le_start o.now)
  refine ⟨?_,?_,?_⟩
  · simp [turn?,abreast.errand,waits,abreast.silent]
  · have same := deed_same alike (some errand.operation) (attending_same _ errand)
    simp only [does,start,same]
  have agree := attend_same _ errand _ _ alike
  simp only [take,Office.look,start]
  generalize left : attend (due.start o.now) errand o.logged = made at agree
  generalize attend (due.start o.now) errand u.logged = made' at agree
  cases agree with
  | @ok stage logged logged' alike =>
    left
    refine ⟨_,_,rfl,rfl,.looked turn left,?_⟩
    have soon (instant : Nat) (status : o.status = some (.dated instant)) :
        Soon (due.start o.now) instant := by
      have line := abreast.line instant status
      rwa [waits,Option.elim_some] at line
    have entered := enter stage o.result alike soon
    rw [abreast.result,abreast.silent]
    cases stage <;> exact entered
  | error reason alike =>
    right
    exact ⟨reason,_,_,rfl,rfl,alike,abreast.result,le_rfl,.refl _⟩

theorem idle_of_free (abreast : Abreast out o u) (free : o.errand = none) : u.turn? = none := by
  simp [turn?,abreast.errand,free,abreast.silent]

theorem parted (abreast : Abreast out o u) (free : o.errand = none) : Parted out o u :=
  ⟨abreast.alike,abreast.result,abreast.clock,abreast.idle free⟩

end Abreast

/-- Two runs that end in the same way, or of which neither has ended. -/
inductive Part (out : Writer) :
    Option (Except Failure Unit × Office Rat) → Option (Except Failure Unit × Office Rat) → Prop where
  | unfinished : Part out none none
  | finished (result : Except Failure Unit) {o u : Office Rat} :
      Parted out o u → Part out (some (result, o)) (some (result, u))

/-- Some status lines are printed, and then it is time for the next look or there is nothing left to do. -/
theorem Abreast.comes_to_look (abreast : Abreast out o u) (wired : o.Wired) :
    ∃ (lines : Nat) (o' : Office Rat), Abreast out o' u ∧ o'.Wired ∧ (∀ due, o'.turn? ≠ some (.status due)) ∧
      ∀ fuel, o.run (fuel + lines) = o'.run fuel ∧ o.deeds (fuel + lines) = o'.deeds fuel := by
  generalize gap : o.lag = n
  induction n using Nat.strongRecOn generalizing o with
  | ind n ih =>
    by_cases look : ∀ due, o.turn? ≠ some (.status due)
    · exact ⟨0,o,abreast,wired,look,fun _ => ⟨rfl,rfl⟩⟩
    obtain ⟨line,turn⟩ : ∃ line, o.turn? = some (.status line) := by simpa using look
    obtain ⟨plotter,_,told,_⟩ := wired.prints turn
    have nearer : (o.afterLine line plotter).lag < n := by
      rw [← gap]
      exact lag_lt turn (line.rank_after statusPeriod_pos) rfl rfl
    obtain ⟨lines,o',after,wired',look,same⟩ :=
      ih _ nearer (abreast.prints turn told) (wired.took (.printed turn told)) rfl
    refine ⟨lines + 1,o',after,wired',look,fun fuel => ?_⟩
    obtain ⟨ran,did⟩ := same fuel
    rw [← ran,← did,show fuel + (lines + 1) = (fuel + lines) + 1 from rfl]
    simp only [run,deeds,turn,does,take_line told,List.nil_append,and_self]

/-- However long the office with status lines works, the other one does the same in its time. -/
theorem Abreast.follows (abreast : Abreast out o u) (wired : o.Wired) (fuel : Nat) :
    ∃ fuel', u.deeds fuel' = o.deeds fuel ∧ Part out (o.run fuel) (u.run fuel') := by
  induction fuel generalizing o u with
  | zero => exact ⟨0,rfl,.unfinished⟩
  | succ fuel ih =>
    cases next : o.turn? with
    | none =>
      have free := errand_idle next
      have idle := abreast.idle_of_free free
      refine ⟨1,?_,?_⟩
      · simp only [deeds,next,idle]
      · simp only [run,next,idle]
        exact .finished _ (abreast.parted free)
    | some turn =>
      cases turn with
      | status line =>
        obtain ⟨plotter,_,told,_⟩ := wired.prints next
        obtain ⟨fuel',same,part⟩ := ih (abreast.prints next told) (wired.took (.printed next told))
        refine ⟨fuel',?_,?_⟩
        · simpa only [deeds,next,does,take_line told,List.nil_append] using same
        · simpa only [run,next,take_line told] using part
      | look due errand =>
        obtain ⟨turn,does,⟨o',u',taken,taken',took,abreast⟩ | ⟨reason,o',u',taken,taken',parted⟩⟩ := abreast.look next
        · obtain ⟨fuel',same,part⟩ := ih abreast (wired.took took)
          refine ⟨fuel' + 1,?_,?_⟩
          · simp only [deeds,next,turn,does,taken,taken',same]
          · simp only [run,next,turn,taken,taken']
            exact part
        · refine ⟨1,?_,?_⟩
          · simp only [deeds,next,turn,does,taken,taken']
          · simp only [run,next,turn,taken,taken']
            exact .finished _ parted

/-- However long the office without status lines works, the other one comes to do the same. -/
theorem Abreast.catches_up (abreast : Abreast out o u) (wired : o.Wired) (fuel : Nat) :
    ∃ fuel', o.deeds fuel' = u.deeds fuel ∧ Part out (o.run fuel') (u.run fuel) := by
  induction fuel generalizing o u with
  | zero => exact ⟨0,rfl,.unfinished⟩
  | succ fuel ih =>
    obtain ⟨lines,o',abreast,wired,look,same⟩ := abreast.comes_to_look wired
    suffices found : ∃ fuel', o'.deeds fuel' = u.deeds (fuel + 1) ∧ Part out (o'.run fuel') (u.run (fuel + 1)) by
      obtain ⟨fuel',did,part⟩ := found
      exact ⟨fuel' + lines,(same fuel').2.trans did,(same fuel').1 ▸ part⟩
    cases next : o'.turn? with
    | none =>
      have free := errand_idle next
      have idle := abreast.idle_of_free free
      refine ⟨1,?_,?_⟩
      · simp only [deeds,next,idle]
      · simp only [run,next,idle]
        exact .finished _ (abreast.parted free)
    | some turn =>
      cases turn with
      | status line => exact absurd next (look line)
      | look due errand =>
        obtain ⟨turn,does,⟨o',u',taken,taken',took,abreast⟩ | ⟨reason,o',u',taken,taken',parted⟩⟩ := abreast.look next
        · obtain ⟨fuel',same,part⟩ := ih abreast (wired.took took)
          refine ⟨fuel' + 1,?_,?_⟩
          · simp only [deeds,next,turn,does,taken,taken',same]
          · simp only [run,next,turn,taken,taken']
            exact part
        · refine ⟨1,?_,?_⟩
          · simp only [deeds,next,turn,does,taken,taken']
          · simp only [run,next,turn,taken,taken']
            exact .finished _ parted

end Office
/-! The motors of a session can be read at any time. -/

section Poised

variable {first s : Session Rat} {log : List (Entry Rat)} {o o' : Office Rat}

theorem Office.Took.poised (took : o.Took o') (poised : o.logged.plotter.Poised o.now) :
    o'.logged.plotter.Poised o'.now := by
  have alike := Likeness.Alike.overlaid_refl poised
  cases took with
  | @looked due errand stage logged turn made =>
    have agree := attend_same _ errand o.logged o.logged (alike.later (due.le_start o.now))
    rw [made] at agree
    cases agree with
    | ok stage alike => cases stage <;> exact alike.poised
  | @printed due plotter turn told =>
    obtain ⟨q,text,glanced,rfl⟩ := printStatus_ok told
    exact ((alike.later (due.le_start o.now)).glanced glanced).poised

theorem poised_begun {stage : Stage} {logged : Logged Rat} (poised : s.plotter.Poised s.schedule.now)
    {program : List Gcode} (made : undertake s.schedule.now program { plotter := s.plotter } = .ok stage logged) :
    logged.plotter.Poised s.schedule.now := by
  have alike := Likeness.Alike.overlaid_refl poised
  have agree := undertake_same _ program { plotter := s.plotter } { plotter := s.plotter } alike
  rw [made] at agree
  cases agree with
  | ok stage alike => exact alike.poised

theorem Lived.poised (lived : Lived first log s) (settled : first.Settled)
    (begins : first.plotter.Poised first.schedule.now) : s.plotter.Poised s.schedule.now := by
  induction lived with
  | opened => exact begins
  | @ran log s fuel program result last before _ work returned ih =>
    have keeps (o o' : Office Rat) (_ : o.Wired) (poised : o.logged.plotter.Poised o.now) (took : o.Took o') :
        o'.logged.plotter.Poised o'.now := took.poised poised
    have opens (stage : Stage) (logged : Logged Rat)
        (made : undertake s.schedule.now program { plotter := s.plotter } = .ok stage logged) :
        (s.begun stage logged).logged.plotter.Poised (s.begun stage logged).now := by
      cases stage <;> exact poised_begun ih made
    rcases (before.settled settled).work_ends keeps opens work with
      ⟨overflow,rfl⟩ | ⟨_,_,poised,_⟩
    · exact absurd rfl (returned overflow)
    · exact poised
  | waited time _ ih => exact fun axis => (ih axis).later (Nat.le_add_right ..)
  | asked _ glances ih =>
    rw [ask_plotter]
    exact ((Likeness.Alike.overlaid_refl ih).glanced (glances _ _)).poised

theorem poised_opening {settings : Settings} {presses : List Nat} {out : Writer} (sound : settings.Sound) :
    (opening settings presses out : Session Rat).plotter.Poised 0 := by
  intro axis
  rw [motor_opening]
  have travel := sound.travel axis
  exact ⟨⟨Rat.intCast_le_intCast.mpr travel.above,Rat.intCast_le_intCast.mpr travel.below⟩,Nat.le_refl 0,nofun⟩

end Poised

/-- Sessions that come of one program, of which the first one has printed status lines meanwhile: nothing but these and
the clock tells them apart. -/
structure Likewise (out : Writer) (after after' : Session Rat) : Prop where
  calibration : after'.plotter.calibration = after.plotter.calibration
  modes : after'.plotter.modes = after.plotter.modes
  motors : ∀ axis instant, after.schedule.now ≤ instant →
    (after'.plotter.motor axis).advance instant = (after.plotter.motor axis).advance instant
  display : Panel.Overlaid out after.plotter.display after'.plotter.display
  earlier : after'.schedule.now ≤ after.schedule.now
  soon : after.schedule.now < after'.schedule.now + statusPeriod

/-- Two runs of one program that return the same, or of which neither has returned. -/
inductive Alongside (out : Writer) :
    Option (Except Failure Unit × Session Rat) → Option (Except Failure Unit × Session Rat) → Prop where
  | unfinished : Alongside out none none
  | finished (result : Except Failure Unit) {after after' : Session Rat} :
      Likewise out after after' → Alongside out (some (result, after)) (some (result, after'))

theorem Office.Parted.likewise {out : Writer} {o u : Office Rat} (parted : Parted out o u) :
    Likewise out o.session u.session where
  calibration := parted.alike.calibration.symm
  modes := parted.alike.modes.symm
  motors axis _ later := ((parted.alike.motor axis).later later).same.symm
  display := parted.alike.display
  earlier := parted.clock
  soon := parted.soon

theorem Office.Part.alongside {out : Writer} {made made' : Option (Except Failure Unit × Office Rat)}
    (part : Part out made made') :
    Alongside out (made.map fun (result, o) => (result.bind fun () => o.verdict, o.session))
      (made'.map fun (result, o) => (result.bind fun () => o.verdict, o.session)) := by
  cases part with
  | unfinished => exact .unfinished
  | @finished result o u parted =>
    have same : u.verdict = o.verdict := by
      unfold Office.verdict
      rw [parted.result]
    simp only [Option.map_some,same]
    exact .finished _ parted.likewise

/-- The status lines are nothing but observed. However long a program runs with them, it does the same without them:
it takes the same looks at the same instants, with the same calls and answers, screens and replies, and returns the
same; and the other way round. Only what is printed differs by the status lines, and the clock when it returns by less
than one period of them. -/
theorem status_lines_observe {settings : Settings} {presses : List Nat} {out : Writer} {first s : Session Rat}
    {log : List (Entry Rat)} (valid : settings.validate = .ok ()) (started : start settings presses out = .ok first)
    (lived : Lived first log s) (program : List Gcode) :
    (∀ fuel, ∃ fuel', s.deedsWith false fuel' program = s.deedsWith true fuel program ∧
      Alongside s.plotter.display.console.out (s.runProgram fuel program) (s.runWith false fuel' program)) ∧
    ∀ fuel', ∃ fuel, s.deedsWith true fuel program = s.deedsWith false fuel' program ∧
      Alongside s.plotter.display.console.out (s.runProgram fuel program) (s.runWith false fuel' program) := by
  have begun := (start_settled started).1
  have settled := lived.settled begun
  have poised : s.plotter.Poised s.schedule.now := by
    refine lived.poised begun ?_
    rw [eq_opening valid started]
    exact poised_opening (Settings.sound_of_validate valid)
  obtain ⟨stage,logged,made,_⟩ := undertake_wired (l := { plotter := s.plotter }) s.schedule.now program settled.wired
  have alike : (Likeness.overlaid s.plotter.display.console.out s.schedule.now).Alike logged.plotter logged.plotter := by
    have agree := undertake_same (Likeness.overlaid s.plotter.display.console.out s.schedule.now) program
      { plotter := s.plotter } { plotter := s.plotter } (.overlaid_refl poised)
    rw [made] at agree
    cases agree with
    | ok stage alike => exact alike
  have abreast : Office.Abreast s.plotter.display.console.out (s.begunWith true stage logged)
      (s.begunWith false stage logged) :=
    .enter stage none alike fun _ => nofun
  have wired : (s.begunWith true stage logged).Wired := settled.begun made
  have runs (lines : Bool) (fuel : Nat) := runWith_begun lines fuel settled.idle made
  simp only [← runWith_true,runs]
  constructor
  · intro fuel
    obtain ⟨fuel',did,part⟩ := abreast.follows wired fuel
    exact ⟨fuel',congrArg _ did,part.alongside⟩
  · intro fuel'
    obtain ⟨fuel,did,part⟩ := abreast.catches_up wired fuel'
    exact ⟨fuel,congrArg _ did,part.alongside⟩

/-- On the standard machine a homing pass is the same without status lines, however long it is watched. -/
theorem standard_machine_observed :
    ∃ first : Session Rat, start {} [] = .ok first ∧
      (∀ fuel, ∃ fuel', first.deedsWith false fuel' [.home] = first.deedsWith true fuel [.home] ∧
        Alongside first.plotter.display.console.out (first.runProgram fuel [.home])
          (first.runWith false fuel' [.home])) ∧
      ∀ fuel', ∃ fuel, first.deedsWith true fuel [.home] = first.deedsWith false fuel' [.home] ∧
        Alongside first.plotter.display.console.out (first.runProgram fuel [.home])
          (first.runWith false fuel' [.home]) :=
  have valid : ({} : Settings).validate = .ok () := rfl
  ⟨_,rfl,status_lines_observe valid rfl .opened [.home]⟩

end PenPlotter.Session
