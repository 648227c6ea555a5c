import PenPlotter.Proofs.Schedule.Timing
import PenPlotter.Proofs.Session.Life

/-! What an office at work comes to. An operation that waits for its look gets it, however many status lines come
before, and when no operation is left the last status line ends the work. -/

namespace PenPlotter

namespace Due

theorem rank_after (due : Due) {now period : Nat} (positive : 0 < period) :
    due.rank < (Due.after (due.start now) period).rank := by
  have delayed : period ≠ 0 := Nat.ne_of_gt positive
  cases due with
  | immediate => simp [after,delayed,rank]
  | dated instant =>
    simp only [after,delayed,↓reduceIte,rank,start,Clock.sleepUntil_eq_max]
    omega

theorem start_after {now delay : Nat} (positive : 0 < delay) : now < (Due.after now delay).start now := by
  rw [start_of_after]
  omega

theorem lt_of_after {now delay instant : Nat} (dated : Due.after now delay = .dated instant) : now < instant := by
  unfold after at dated
  split at dated
  · cases dated
  · cases dated
    omega

end Due

namespace Session

theorem statusPeriod_pos : 0 < statusPeriod := Nat.mul_pos (by decide) (by decide)

variable {R : Type} [Motor.Scalar R]

theorem printStatus_ok {now : Nat} {p p' : Plotter (Motor.Simulated R) Panel}
    (told : printStatus now p = .ok () p') :
    ∃ q line, Plotter.Glanced now p q ∧ p' = { q with display := q.display.showStatus line } := by
  rw [printStatus_apply] at told
  cases made : Plotter.statusLine now p with
  | error => simp [made] at told
  | ok line q =>
    simp only [made] at told
    cases told
    exact ⟨q,line,Plotter.Glances.statusLine.of_ok made,rfl⟩

namespace Office

variable {o o' last : Office R} {fuel more : Nat} {made : Except Failure Unit × Office R}

/-- Turns that do not fail lead to an office of which something holds. -/
inductive Leads (goal : Office R → Prop) : Office R → Prop where
  | here {o : Office R} : goal o → Leads goal o
  | turn {o o' : Office R} : o.Took o' → Leads goal o' → Leads goal o

theorem Leads.bind {mid goal : Office R → Prop} (leads : Leads mid o) (next : ∀ o', mid o' → Leads goal o') :
    Leads goal o := by
  induction leads with
  | here found => exact next _ found
  | turn took _ ih => exact .turn took ih

theorem Leads.mono {mid goal : Office R → Prop} (leads : Leads mid o) (weaken : ∀ o', mid o' → goal o') :
    Leads goal o := leads.bind fun o' found => .here (weaken o' found)

theorem Took.take (took : o.Took o') : ∃ turn, o.turn? = some turn ∧ o.take turn = (.ok (),o') := by
  cases took with
  | looked turn made => exact ⟨_,turn,by simp [Office.take,look,made]⟩
  | printed turn made => exact ⟨_,turn,by simp [Office.take,printLine,made]⟩

/-- Work that leads to an office with nothing left to do ends there. -/
theorem Leads.run {holds : Office R → Prop} (leads : o.Leads fun last => last.turn? = none ∧ holds last) :
    ∃ fuel last, o.run fuel = some (.ok (),last) ∧ holds last := by
  induction leads with
  | @here o found => exact ⟨1,o,by simp [Office.run,found.1],found.2⟩
  | turn took _ ih =>
    obtain ⟨fuel,last,ran,found⟩ := ih
    obtain ⟨turn,next,taken⟩ := took.take
    exact ⟨fuel + 1,last,by simp [Office.run,next,taken,ran],found⟩

/-- More fuel makes no difference to work that ends. -/
theorem run_mono (ran : o.run fuel = some made) (enough : fuel ≤ more) : o.run more = some made := by
  induction fuel generalizing o more with
  | zero => cases ran
  | succ fuel ih =>
    obtain ⟨more,rfl⟩ := Nat.exists_eq_add_of_le' enough
    have enough : fuel ≤ more + fuel := Nat.le_add_left ..
    rw [show more + (fuel + 1) = (more + fuel) + 1 from rfl]
    unfold run at ran ⊢
    cases next : o.turn? with
    | none => simpa only [next] using ran
    | some turn =>
      simp only [next] at ran ⊢
      cases taken : o.take turn with
      | mk result after =>
        simp only [taken] at ran ⊢
        cases result with
        | ok => exact ih ran enough
        | error => exact ran

/-- A status line that comes back comes later. -/
theorem Wired.prints (wired : o.Wired) {line : Due} (turn : o.turn? = some (.status line)) :
    ∃ plotter status, printStatus (line.start o.now) o.logged.plotter = .ok () plotter ∧
      o.Took { o with now := line.start o.now, status, logged.plotter := plotter } ∧
      (o.errand = none → status = none) ∧ ∀ next, status = some next → line.rank < next.rank := by
  obtain ⟨q,text,_,told⟩ := printStatus_wired (line.start o.now) wired.plotter
  refine ⟨_,_,told,.printed turn told,fun free => by rw [free]; rfl,fun next back => ?_⟩
  split at back
  · cases back
    exact line.rank_after statusPeriod_pos
  · cases back

variable {holds : Plotter (Motor.Simulated R) Panel → Prop}

/-- What an office keeps while it prints status lines. -/
structure Kept (holds : Plotter (Motor.Simulated R) Panel → Prop) (o o' : Office R) : Prop where
  wired : o'.Wired
  plotter : holds o'.logged.plotter
  log : o'.logged.log = o.logged.log
  result : o'.result = o.result
  errand : o'.errand = o.errand

/-- An operation that waits for its look gets it at its time. -/
theorem Wired.comes_to_look (wired : o.Wired) {due : Due} {errand : Errand (List Gcode)}
    (waits : o.errand = some (due,errand)) (start : holds o.logged.plotter)
    (printing : ∀ now p p', holds p → printStatus now p = .ok () p' → holds p') :
    o.Leads fun o' => o'.turn? = some (.look due errand) ∧ due.start o'.now = due.start o.now ∧ Kept holds o o' := by
  -- Every status line puts the next one off, until that one comes after the look.
  generalize gap : (o.status.elim 0 fun line => due.rank - line.rank) = n
  induction n using Nat.strongRecOn generalizing o with
  | ind n ih =>
    cases status : o.status with
    | none => exact .here ⟨by simp [turn?,waits,status],rfl,wired,start,rfl,rfl,rfl⟩
    | some line =>
      by_cases first : due.rank ≤ line.rank
      · exact .here ⟨by simp [turn?,waits,status,first],rfl,wired,start,rfl,rfl,rfl⟩
      have turn : o.turn? = some (.status line) := by simp [turn?,waits,status,first]
      obtain ⟨plotter,status',told,took,_,later⟩ := wired.prints turn
      have shorter : (status'.elim 0 fun line => due.rank - line.rank) < n := by
        rw [status,Option.elim_some] at gap
        cases status' with
        | none => rw [Option.elim_none]; omega
        | some next =>
          have later := later next rfl
          rw [Option.elim_some]
          omega
      have rest := ih _ shorter (wired.took took) waits (printing _ _ _ start told) rfl
      refine .turn took (rest.mono fun o' ⟨turn,same,kept⟩ => ⟨turn,?_,?_⟩)
      · exact same.trans (Due.start_start (Nat.le_of_not_le first) o.now)
      · exact ⟨kept.wired,kept.plotter,kept.log,kept.result,kept.errand⟩

/-- When no operation is left the work ends. -/
theorem Wired.comes_to_end (wired : o.Wired) (free : o.errand = none) (start : holds o.logged.plotter)
    (printing : ∀ now p p', holds p → printStatus now p = .ok () p' → holds p') :
    o.Leads fun o' => o'.turn? = none ∧ Kept holds o o' := by
  cases status : o.status with
  | none => exact .here ⟨by simp [turn?,free,status],wired,start,rfl,rfl,rfl⟩
  | some line =>
    have turn : o.turn? = some (.status line) := by simp [turn?,free,status]
    obtain ⟨plotter,status,told,took,last,_⟩ := wired.prints turn
    obtain rfl := last free
    exact .turn took (.here ⟨by simp [turn?,free],wired.took took,printing _ _ _ start told,rfl,rfl,rfl⟩)

theorem Wired.ends (wired : o.Wired) (free : o.errand = none) :
    o.Leads fun last => last.turn? = none ∧ last.result = o.result := by
  have printing (now : Nat) (p p' : Plotter (Motor.Simulated R) Panel) (_ : True)
      (_ : printStatus now p = .ok () p') : True := trivial
  exact (wired.comes_to_end free trivial printing).mono fun last ⟨idle,kept⟩ => ⟨idle,kept.result⟩

end Office

/-- Work that leads to an end comes to no other. -/
theorem work_of_leads {s : Session R} {program : List Gcode} {stage : Stage} {logged : Logged R}
    {holds : Office R → Prop}
    (begins : undertake s.schedule.now program { plotter := s.plotter } = .ok stage logged)
    (leads : (s.begun stage logged).Leads fun last => last.turn? = none ∧ holds last) :
    (∃ fuel made, s.work fuel program = some made) ∧
      ∀ fuel result last, s.work fuel program = some (result,last) → result = last.verdict ∧ holds last := by
  obtain ⟨fuel,end_,ran,found⟩ := leads.run
  have opened : s.opened program = (.ok (),s.begun stage logged) := by
    unfold opened
    simp only [begins]
    rfl
  refine ⟨⟨fuel,(end_.verdict,end_),by simp [work,opened,ran,Except.bind]⟩,fun other result last made => ?_⟩
  simp only [work,opened] at made
  obtain ⟨⟨_,_⟩,again,told⟩ := Option.map_eq_some_iff.mp made
  cases told
  have same := (Office.run_mono again (Nat.le_max_left other fuel)).symm.trans
    (Office.run_mono ran (Nat.le_max_right other fuel))
  cases same
  exact ⟨rfl,found⟩

end Session
end PenPlotter
