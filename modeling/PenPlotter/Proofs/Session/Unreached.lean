import PenPlotter.Proofs.Session.Order

/-! Commands that are not reached. As long as one command of a row is not done, it makes no difference which
commands follow the row. With the log of a program this says all that a program does. -/

namespace PenPlotter.Session

variable {R : Type} [Motor.Scalar R]

/-- A stage of a row of commands that others follow. -/
def Stage.followed (others : List Gcode) : Stage → Stage
  | .waiting delay errand => .waiting delay { errand with next := errand.next ++ others }
  | .ended reply => .ended reply
  | .dropped => .dropped

/-- What a row of commands leaves when others follow it, which are begun when all of the row are done. -/
def Left.follow (now : Nat) (others : List Gcode) : Left R → Left R
  | .ok (.ended (.ok ())) l => undertake now others l
  | .ok stage l => .ok (stage.followed others) l
  | .error reason l => .error reason l

theorem undertake_append (now : Nat) (row others : List Gcode) (l : Logged R) :
    undertake now (row ++ others) l = (undertake now row l).follow now others := by
  induction row generalizing l with
  | nil => rfl
  | cons command row ih =>
    simp only [List.cons_append,undertake]
    cases command.dispatch mainMenu now (l.write (.begun command)).plotter with
    | error => rfl
    | ok dispatched plotter =>
      cases dispatched with
      | started operation => rfl
      | replied reply =>
        cases reply with
        | error fault => rfl
        | ok => exact ih _

theorem attend_append (now : Nat) (errand : Errand (List Gcode)) (others : List Gcode) (l : Logged R) :
    attend now { errand with next := errand.next ++ others } l = (attend now errand l).follow now others := by
  simp only [attend]
  cases errand.operation.poll now (l.write (.looked (l.plotter.confirmed now))).plotter with
  | error => rfl
  | ok progress plotter =>
    cases progress with
    | again | dropped => rfl
    | done completion =>
      simp only [conclude]
      cases Gcode.reply completion now plotter with
      | error => rfl
      | ok reply plotter =>
        cases reply with
        | error fault => rfl
        | ok => exact undertake_append ..

namespace Office

/-- An office that is to go on with others. -/
def followed (others : List Gcode) (o : Office R) : Office R :=
  { o with errand := o.errand.map fun (due, errand) => (due, { errand with next := errand.next ++ others }) }

end Office

def Turn.followed (others : List Gcode) : Turn → Turn
  | .look due errand => .look due { errand with next := errand.next ++ others }
  | .status due => .status due

namespace Office

variable {o last : Office R} {fuel : Nat} {row : List Gcode}

omit [Motor.Scalar R] in
theorem turn?_followed (others : List Gcode) (o : Office R) :
    (o.followed others).turn? = o.turn?.map (Turn.followed others) := by
  unfold turn? followed
  cases o.errand with
  | none => cases o.status <;> rfl
  | some waiting =>
    cases o.status with
    | none => rfl
    | some line =>
      simp only [Option.map_some]
      split <;> rfl

/-- A turn after which the row is not done is the same whatever follows the row. -/
theorem take_followed (others : List Gcode) (turn : Turn) (o : Office R)
    (going : (o.take turn).2.result ≠ some (.ok ())) :
    (o.followed others).take (turn.followed others) = ((o.take turn).1,(o.take turn).2.followed others) := by
  cases turn with
  | status due =>
    simp only [take,Turn.followed,printLine,followed,Option.isSome_map]
    cases printStatus (due.start o.now) o.logged.plotter <;> rfl
  | look due errand =>
    simp only [take,Turn.followed,look,attend_append] at going ⊢
    simp only [followed] at going ⊢
    cases made : attend (due.start o.now) errand o.logged with
    | error reason logged => rfl
    | ok stage logged =>
      simp only [made] at going
      cases stage with
      | waiting | dropped => rfl
      | ended reply =>
        cases reply with
        | error fault => rfl
        | ok => exact absurd rfl going

/-- Once a row is done its replies are in the log for good. -/
theorem run_done {first : List Gcode} {turn : Turn} (told : o.Tells row) (going : o.result ≠ some (.ok ()))
    (next : o.turn? = some turn) (done : (o.take turn).2.result = some (.ok ()))
    (ran : ((o.followed first).take (turn.followed first)).2.run fuel = some (.ok (),last))
    (went : ((o.followed first).take (turn.followed first)).1 = .ok ()) :
    List.replicate row.length (.ok ()) <+: replies last.logged.log := by
  cases turn with
  | status due =>
    simp only [take,printLine] at done
    split at done <;> exact absurd done going
  | look due errand =>
    obtain ⟨_,told⟩ := told.waiting (errand_of_turn next)
    simp only [take,Turn.followed,look,attend_append] at done went ran
    simp only [followed] at went ran
    cases made : attend (due.start o.now) errand o.logged with
    | error reason logged =>
      simp only [made] at done
      exact absurd done going
    | ok stage logged =>
      have after := attend_tells told made
      simp only [made] at done went ran
      obtain rfl : stage = .ended (.ok ()) := by
        cases stage with
        | waiting => exact absurd done going
        | dropped => exact absurd done going
        | ended reply => simpa [enter] using done
      have finished : Done row logged.log := by
        generalize logged.log = log at after ⊢
        cases after with
        | done done => exact done
      rw [← finished.replies]
      simp only [Left.follow] at went ran
      cases begun : undertake (due.start o.now) first logged with
      | error => simp [begun] at went
      | ok stage more =>
        simp only [begun] at ran
        have later := (undertake_extends begun).trans (by cases stage <;> exact run_extends ran)
        exact later.filterMap _

/-- A run in whose log not all of a row are done is the same whatever follows the row. -/
theorem run_followed {first : List Gcode} (others : List Gcode) (told : o.Tells row)
    (going : o.result ≠ some (.ok ())) (ran : (o.followed first).run fuel = some (.ok (),last))
    (unreached : ¬ List.replicate row.length (.ok ()) <+: replies last.logged.log) :
    ∃ o' : Office R, last = o'.followed first ∧ (o.followed others).run fuel = some (.ok (),o'.followed others) := by
  induction fuel generalizing o with
  | zero => cases ran
  | succ fuel ih =>
    unfold run at ran ⊢
    rw [turn?_followed] at ran ⊢
    cases next : o.turn? with
    | none =>
      simp only [next,Option.map_none] at ran ⊢
      cases ran
      exact ⟨o,rfl,rfl⟩
    | some turn =>
      simp only [next,Option.map_some] at ran ⊢
      by_cases done : (o.take turn).2.result = some (.ok ())
      · refine absurd ?_ unreached
        cases taken : (o.followed first).take (turn.followed first) with
        | mk made after =>
          simp only [taken] at ran
          cases made with
          | error => cases ran
          | ok =>
            exact run_done told going next done (by rw [taken]; exact ran) (by rw [taken])
      · rw [take_followed first turn o done] at ran
        rw [take_followed others turn o done]
        cases taken : o.take turn with
        | mk made after =>
          simp only [taken] at ran done ⊢
          rcases take_cases next taken with ⟨rfl,took⟩ | ⟨reason,rfl,_⟩
          · exact ih (told.took took) done ran
          · cases ran

omit [Motor.Scalar R] in
theorem followed_idle (others : List Gcode) (idle : o.turn? = none) : o.followed others = o := by
  unfold followed
  rw [errand_idle idle,Option.map_none,← errand_idle idle]

omit [Motor.Scalar R] in
/-- When nothing is left to do the log accounts for what is reported. -/
theorem Tells.account {program : List Gcode} (told : o.Tells program) (idle : o.turn? = none) :
    ∃ k, Account program o.logged.log k o.verdict := by
  have free := errand_idle idle
  unfold Office.Tells at told
  unfold verdict
  rw [free] at told
  cases result : o.result with
  | none => simpa [result,Stage.report] using Session.Tells.account (by simpa [result] using told) rfl
  | some reply =>
    have told : Session.Tells program (.ended reply) o.logged.log := by simpa [result] using told
    have account := told.account rfl
    cases reply <;> exact account

end Office

namespace Settled

variable {s : Session R} {fuel : Nat} {program row others : List Gcode} {result : Except Failure Unit}
variable {last : Office R}

/-- A program that does not end in an overflow is begun, and then there is nothing left to do. -/
theorem work_ok (settled : s.Settled) (ran : s.work fuel program = some (result,last))
    (returned : ∀ overflow, result ≠ .error (.overflow overflow)) :
    ∃ stage logged, undertake s.schedule.now program { plotter := s.plotter } = .ok stage logged ∧
      (s.begun stage logged).run fuel = some (.ok (),last) ∧ result = last.verdict := by
  obtain ⟨stage,logged,begun,_⟩ := undertake_wired (l := { plotter := s.plotter }) s.schedule.now program settled.wired
  have opened := settled.begun begun
  simp only [work,Session.opened,begun] at ran
  obtain ⟨⟨made,after⟩,run,told⟩ := Option.map_eq_some_iff.mp ran
  cases told
  refine ⟨stage,logged,begun,?_⟩
  have keeps (a b : Office R) (wired : a.Wired) (took : a.Took b) : b.Wired := wired.took took
  rcases Office.run_ends keeps opened run with ⟨rfl,_⟩ | ⟨before,reason,wired,broke,rfl⟩
  · exact ⟨run,rfl⟩
  · obtain ⟨overflow,rfl⟩ := wired.broke broke
    exact absurd rfl (returned overflow)

/-- A program of which not all of a row are done ends in the same way whatever follows the row. -/
theorem work_followed (settled : s.Settled) (ran : s.work fuel (row ++ program) = some (result,last))
    (returned : ∀ overflow, result ≠ .error (.overflow overflow))
    (unreached : ¬ List.replicate row.length (.ok ()) <+: replies last.logged.log) :
    s.work fuel (row ++ others) = some (result,last) := by
  obtain ⟨stage,logged,begun,run,rfl⟩ := settled.work_ok ran returned
  rw [undertake_append] at begun
  cases made : undertake s.schedule.now row { plotter := s.plotter } with
  | error => simp [made,Left.follow] at begun
  | ok at_ l =>
    have told := undertake_tells (l := { plotter := s.plotter }) .nil rfl made
    rw [List.nil_append] at told
    have tells : (s.begun at_ l).Tells row := .enter told s.schedule.now (some .immediate)
    have unfinished : at_ ≠ .ended (.ok ()) := by
      rintro rfl
      refine absurd ?_ unreached
      have finished : Done row l.log := by
        generalize l.log = log at told ⊢
        cases told with
        | done done => exact done
      rw [← finished.replies]
      have soFar := (undertake_extends (by simpa [made,Left.follow] using begun)).trans
        (by cases stage <;> exact Office.run_extends run)
      exact soFar.filterMap _
    have going : (s.begun at_ l).result ≠ some (.ok ()) := by
      cases at_ with
      | ended reply => simpa [Session.begun,Office.enter] using unfinished
      | waiting | dropped => simp [Session.begun,Office.enter]
    -- Whatever follows, the same is left up to it.
    have onward (more : List Gcode) :
        (Left.follow s.schedule.now more (.ok at_ l) : Left R) = .ok (at_.followed more) l ∧
          s.begun (at_.followed more) l = (s.begun at_ l).followed more := by
      cases at_ with
      | ended reply =>
        cases reply with
        | ok => exact absurd rfl unfinished
        | error => exact ⟨rfl,rfl⟩
      | waiting | dropped => exact ⟨rfl,rfl⟩
    rw [made,(onward program).1] at begun
    cases begun
    rw [(onward program).2] at run
    obtain ⟨o',same,again⟩ := Office.run_followed others tells going run unreached
    have idle : o'.turn? = none := by
      have keeps (a b : Office R) (_ : True) (_ : a.Took b) : True := trivial
      rcases Office.run_ends keeps trivial again with ⟨_,_,idle⟩ | ⟨_,_,_,_,broke⟩
      · rw [Office.turn?_followed] at idle
        exact Option.map_eq_none_iff.mp idle
      · cases broke
    rw [Office.followed_idle _ idle] at same again
    simp only [work,opened,undertake_append,made,(onward others).1]
    have run := again
    rw [← (onward others).2] at run
    rw [same]
    exact congrArg (Option.map _) run

end Settled

/-- A program runs in order, and its result tells how far it got: `k` commands have replied that they are done, no
command after the next one is begun, none of these has any effect, and nothing is left to run. -/
theorem program_runs_in_order {settings : Settings} {presses : List Nat} {out : Writer} {first s after : Session R}
    {log : List (Entry R)} {fuel : Nat} {program : List Gcode} {result : Except Failure Unit}
    (started : start settings presses out = .ok first) (lived : Lived first log s)
    (ran : s.runProgram fuel program = some (result,after))
    (returned : ∀ overflow, result ≠ .error (.overflow overflow)) :
    ∃ last k, s.work fuel program = some (result,last) ∧ after = last.session ∧
      Account program last.logged.log k result ∧
      (result ≠ .ok () → ∀ others, s.runProgram fuel (program.take (k + 1) ++ others) = some (result,after)) ∧
      after.schedule.isIdle = true := by
  have settled := lived.settled (start_settled started).1
  obtain ⟨last,worked,rfl⟩ := work_of_runProgram settled.idle ran
  obtain ⟨stage,logged,begun,run,told⟩ := settled.work_ok worked returned
  have tells : (s.begun stage logged).Tells program :=
    .enter (undertake_tells (l := { plotter := s.plotter }) .nil rfl begun) s.schedule.now (some .immediate)
  have keeps (a b : Office R) (told : a.Tells program) (took : a.Took b) : b.Tells program := told.took took
  rcases Office.run_ends keeps tells run with ⟨_,tells,idle⟩ | ⟨_,_,_,_,broke⟩
  · obtain ⟨k,account⟩ := tells.account idle
    rw [← told] at account
    refine ⟨last,k,worked,rfl,account,?_,by simp [Office.session,Office.queue_idle idle,Schedule.isIdle,Schedule.size]⟩
    intro failed others
    obtain ⟨short,_⟩ := account.told.resolve_left failed
    have row : (program.take (k + 1)).length = k + 1 := by
      rw [List.length_take]
      omega
    rw [← List.take_append_drop (k + 1) program] at worked
    rw [runProgram_eq_work fuel settled.idle,settled.work_followed worked returned ?_]
    · rfl
    -- Only `k` commands have replied that they are done.
    rw [row]
    obtain ⟨rest,replied,rfl | ⟨fault,rfl,_⟩⟩ := account.replied
    · intro all
      have shorter := all.length_le
      simp only [replied,List.append_nil,List.length_replicate] at shorter
      omega
    · intro all
      rw [replied,List.replicate_succ',List.prefix_append_right_inj] at all
      simp at all
  · cases broke

/-- A program that moves before it homes stops at the move, and does not home. -/
theorem unhomed_program_stops :
    ∃ first after : Session Rat, start {} [] = .ok first ∧
      first.runProgram 2 [.useInches,.go none none none,.home] =
        some (.error (.report (.ofFault .notHomed)),after) ∧
      ∃ last k, first.work 2 [.useInches,.go none none none,.home] =
          some (.error (.report (.ofFault .notHomed)),last) ∧ after = last.session ∧
        Account [.useInches,.go none none none,.home] last.logged.log k (.error (.report (.ofFault .notHomed))) ∧
        ((.error (.report (.ofFault .notHomed)) : Except Failure Unit) ≠ .ok () → ∀ others,
          first.runProgram 2 ([.useInches,.go none none none,.home].take (k + 1) ++ others) =
            some (.error (.report (.ofFault .notHomed)),after)) ∧
        after.schedule.isIdle = true := by
  refine ⟨_,_,rfl,rfl,?_⟩
  exact @program_runs_in_order Rat _ {} [] {} _ _ _ _ _ _ _ rfl .opened rfl fun _ => nofun

end PenPlotter.Session
