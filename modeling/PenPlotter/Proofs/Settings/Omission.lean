import PenPlotter.Proofs.Settings.Schema

/-! Settings of which only some keys are kept. A document that has lost keys and sections still gives settings if every
travel that is left in it has both of its ends: what is left keeps its value, and everything else is as usual. If an end
of a travel is missing, nothing is loaded, although there is a usual travel for each axis. -/

namespace PenPlotter

open Toml (Value Entries)

/-! ### What is left of settings -/

def Motion.keeping (kept : List String → Bool) (m : Motion) : Motion where
  goSpeed := if kept ["go_speed"] then m.goSpeed else ({} : Motion).goSpeed
  goPoll := if kept ["go_poll_ms"] then m.goPoll else ({} : Motion).goPoll
  homingPoll := if kept ["homing_poll_ms"] then m.homingPoll else ({} : Motion).homingPoll
  spinUp := if kept ["spin_up_ms"] then m.spinUp else ({} : Motion).spinUp

def StepLengths.keeping (kept : List String → Bool) (s : StepLengths) : StepLengths where
  millimeters := if kept ["mm_per_step"] then s.millimeters else standard.millimeters
  inches := if kept ["inches_per_step"] then s.inches else standard.inches

def Motor.Travel.keeping (t usual : Motor.Travel) (kept : List String → Bool) : Motor.Travel where
  lower := if kept ["lower"] then t.lower else usual.lower
  upper := if kept ["upper"] then t.upper else usual.upper
  start := if kept ["start"] then t.start else usual.start

def Machine.keeping (kept : List String → Bool) (m : Machine) : Machine where
  ticksPerDuty := if kept ["ticks_per_duty"] then m.ticksPerDuty else standard.ticksPerDuty
  disconnected := if kept ["disconnected"] then m.disconnected else standard.disconnected
  tool := m.tool.keeping standard.tool fun path => kept ("tool" :: path)
  x := m.x.keeping standard.x fun path => kept ("x" :: path)
  y := m.y.keeping standard.y fun path => kept ("y" :: path)

def Logging.keeping (kept : List String → Bool) (l : Logging) : Logging where
  file := if kept ["file"] then l.file else none
  level := if kept ["level"] then l.level else none
  rotation := if kept ["rotation"] then l.rotation else none

namespace Settings

/-- The settings with the keys that are kept, each given with the sections it is in, and with the usual values of all
others. -/
def keeping (kept : List String → Bool) (s : Settings) : Settings where
  motion := s.motion.keeping fun path => kept ("motion" :: path)
  steps := s.steps.keeping fun path => kept ("units" :: path)
  machine := s.machine.keeping fun path => kept ("sim" :: path)
  autoDismiss := if kept ["ui","auto_dismiss"] then s.autoDismiss else ({} : Settings).autoDismiss
  logging := s.logging.keeping fun path => kept ("logging" :: path)

/-! ### The sections -/

namespace Schema

def plain (keys : List String) : Schema := .keyed keys [] fun _ => .value

def motion : Schema := plain ["go_speed","go_poll_ms","homing_poll_ms","spin_up_ms"]

def steps : Schema := plain ["mm_per_step","inches_per_step"]

def travel : Schema := .keyed ["lower","upper","start"] ["lower","upper"] fun _ => .value

def machine : Schema :=
  .keyed ["ticks_per_duty","disconnected","tool","x","y"] [] fun key =>
    if key ∈ ["tool","x","y"] then travel else .value

def display : Schema := plain ["auto_dismiss"]

def logging : Schema := plain ["file","level","rotation"]

/-- The sections of a document. -/
def sections : List (String × Schema) :=
  [("motion",motion),("units",steps),("sim",machine),("ui",display),("logging",logging)]

def document : Schema := .keyed (sections.map Prod.fst) [] fun key => (sections.lookup key).getD .value

end Schema

theorem reads_motion : Reads .motion readMotion Motion.keeping := by
  refine .of_known (fun kept => by simp [Motion.keeping]) ?_ fun key unknown => ⟨rfl,fun m value => ?_⟩
  · simp only [List.forall_mem_cons]
    refine ⟨?_,?_,?_,?_,nofun⟩
    all_goals exact .leaf (fun gone => by simp [Motion.keeping,gone]) fun there => by simp [Motion.keeping,there]
  · simp_all [takeMotion,pure,Except.pure]

theorem reads_steps : Reads .steps readSteps StepLengths.keeping := by
  refine .of_known (fun kept => by simp [StepLengths.keeping]) ?_ fun key unknown => ⟨rfl,fun s value => ?_⟩
  · simp only [List.forall_mem_cons]
    refine ⟨?_,?_,nofun⟩
    all_goals
      exact .leaf (fun gone => by simp [StepLengths.keeping,gone]) fun there => by simp [StepLengths.keeping,there]
  · simp_all [takeSteps,pure,Except.pure]

theorem reads_display : Reads .display readDisplay fun kept shown => if kept ["auto_dismiss"] then shown else true := by
  refine .of_known (fun kept => by simp) ?_ fun key unknown => ⟨rfl,fun shown value => ?_⟩
  · simp only [List.forall_mem_cons]
    refine ⟨?_,nofun⟩
    have put : (fun s value => takeDisplay s "auto_dismiss" value) = fun _ value => readFlag value >>= pure :=
      funext fun s => funext fun value => (bind_pure _).symm
    rw [put]
    exact .leaf (fun gone => by simp [gone]) fun there => by simp [there]
  · simp_all [takeDisplay]

theorem reads_logging : Reads .logging readLogging Logging.keeping := by
  refine .of_known (fun kept => by simp [Logging.keeping]) ?_ fun key unknown => ⟨rfl,fun l value => ?_⟩
  · simp only [List.forall_mem_cons]
    refine ⟨?_,?_,?_,nofun⟩
    all_goals exact .leaf (fun gone => by simp [Logging.keeping,gone]) fun there => by simp [Logging.keeping,there]
  · simp_all [takeLogging,pure,Except.pure]

def readDraft : Read TravelDraft := readSection "SimTravel" ["lower","upper","start"] takeTravel {}

def TravelDraft.keeping (kept : List String → Bool) (t : TravelDraft) : TravelDraft where
  lower := if kept ["lower"] then t.lower else none
  upper := if kept ["upper"] then t.upper else none
  start := if kept ["start"] then t.start else .zero

theorem overlaid_travel : Overlaid (fun _ => .value) takeTravel TravelDraft.keeping := by
  refine .of_known ["lower","upper","start"] ?_ fun key unknown => ⟨rfl,fun t value => ?_⟩
  · simp only [List.forall_mem_cons]
    refine ⟨?_,?_,?_,nofun⟩
    all_goals
      exact .leaf (fun gone => by simp [TravelDraft.keeping,gone]) fun there => by simp [TravelDraft.keeping,there]
  · simp_all [takeTravel,pure,Except.pure]

/-- What is drafted from a part of a travel. -/
theorem readDraft_part {less whole : Value} {draft : TravelDraft} (part : Schema.travel.Part less whole)
    (distinct : Schema.travel.Distinct whole) (drafted : readDraft whole = .ok draft) :
    readDraft less = .ok (draft.keeping (Schema.travel.has less)) := by
  obtain ⟨taken,same⟩ := readSection_sameForm part.1 drafted
  have unset (kept : List String → Bool) : TravelDraft.keeping kept {} = {} := by simp [TravelDraft.keeping]
  have left := overlaid_travel.members part distinct taken
  have complete : ((members ["lower","upper","start"] less).flatMap fun e => Schema.value.lacking e.2) = [] :=
    List.flatMap_eq_nil_iff.mpr fun _ _ => rfl
  rw [unset,complete] at left
  exact same.trans left

/-- A travel that can be read has both of its ends. -/
theorem readDraft_of_travel {value : Value} {t : Motor.Travel} (read : readTravel value = .ok t) :
    readDraft value = .ok ⟨some t.lower,some t.upper,t.start⟩ := by
  obtain ⟨⟨lower,upper,start⟩,drafted,ended⟩ := ok_of_bind read
  cases lower <;> cases upper <;> dsimp only at ended
  case some.some lower upper =>
    rw [readDraft,drafted,← Except.ok.inj ended]
  all_goals split at ended <;> nomatch ended

theorem reads_travel {usual : Motor.Travel} (rest : usual.start = .zero) :
    Reads .travel readTravel fun kept t => t.keeping usual kept := by
  intro less whole t part distinct read
  have drafted := readDraft_of_travel read
  have lacking : Schema.travel.lacking less = ["lower","upper"].filter fun key => !Schema.travel.has less [key] := by
    simp [Schema.travel,Schema.lacking,Schema.has_singleton]
  -- Nothing is lost where nothing is left out, so that both ends are there in the whole travel.
  have itself := (readDraft_part (Schema.Part.refl _ whole) distinct drafted).symm.trans drafted
  simp only [TravelDraft.keeping,Except.ok.injEq,TravelDraft.mk.injEq] at itself
  have ends : Schema.travel.has whole ["lower"] = true ∧ Schema.travel.has whole ["upper"] = true :=
    ⟨by simpa using itself.1,by simpa using itself.2.1⟩
  have table (lost : Schema.travel.has less ["lower"] = false ∨ Schema.travel.has less ["upper"] = false) :
      items? less = none := by
    refine part.1.keys.resolve_right fun same => ?_
    have same (key : String) : Schema.travel.has less [key] = Schema.travel.has whole [key] := by
      simp only [Schema.travel,Schema.has_singleton,same]
    simp [same,ends] at lost
  have read : readTravel less = _ := congrArg (· >>= _) (readDraft_part part distinct drafted)
  rw [read,lacking]
  cases lower : Schema.travel.has less ["lower"] with
  | false =>
    have none := table (.inl lower)
    simp [outcome,TravelDraft.keeping,lower,none,bind,Except.bind,throw,throwThe,MonadExceptOf.throw]
  | true =>
    cases upper : Schema.travel.has less ["upper"] with
    | false =>
      have none := table (.inr upper)
      simp [outcome,TravelDraft.keeping,lower,upper,none,bind,Except.bind,throw,throwThe,MonadExceptOf.throw]
    | true => simp [outcome,Motor.Travel.keeping,TravelDraft.keeping,lower,upper,rest,bind,Except.bind,pure,Except.pure]

theorem reads_machine : Reads .machine readMachine Machine.keeping := by
  refine .of_known (fun kept => by simp [Machine.keeping,Motor.Travel.keeping]) ?_ fun key unknown => ?_
  · simp only [List.forall_mem_cons]
    refine ⟨?_,?_,?_,?_,?_,nofun⟩
    · exact .leaf (fun gone => by simp [Machine.keeping,gone]) fun there => by simp [Machine.keeping,there]
    · exact .leaf (fun gone => by simp [Machine.keeping,gone]) fun there => by simp [Machine.keeping,there]
    all_goals
      exact .field (reads_travel rfl) (fun gone => by simp [Machine.keeping,Motor.Travel.keeping,gone]) fun _ => rfl
  · refine ⟨by simp_all,fun m value => ?_⟩
    simp_all [takeMachine,pure,Except.pure]

theorem reads_document :
    Reads .document (readSection "Config" (Schema.sections.map Prod.fst) takeEntry {}) keeping := by
  refine .of_known (fun kept => ?_) ?_ fun key unknown => ?_
  · simp [keeping,Motion.keeping,StepLengths.keeping,Machine.keeping,Motor.Travel.keeping,Logging.keeping]
  · simp only [Schema.sections,List.map_cons,List.forall_mem_cons]
    refine ⟨?_,?_,?_,?_,?_,nofun⟩
    · exact .field reads_motion (fun gone => by simp [keeping,Motion.keeping,gone]) fun _ => rfl
    · exact .field reads_steps (fun gone => by simp [keeping,StepLengths.keeping,gone]) fun _ => rfl
    · exact .field reads_machine (fun gone => by simp [keeping,Machine.keeping,Motor.Travel.keeping,gone]) fun _ => rfl
    · exact .field reads_display (fun gone => by simp [keeping,gone]) fun _ => rfl
    · exact .field reads_logging (fun gone => by simp [keeping,Logging.keeping,gone]) fun _ => rfl
  · refine ⟨?_,fun s value => ?_⟩
    · have none : Schema.sections.lookup key = none := by simp_all [Schema.sections,List.lookup_cons,beq_false_of_ne]
      rw [none,Option.getD_none]
    · simp_all [Schema.sections,takeEntry,pure,Except.pure]

/-- If keys and sections are left out of a document that can be loaded, the rest is loaded unless a travel lacks one of
its ends: what is there keeps its value and what is not there is as usual. The first end that is missing is reported. -/
theorem omitted_keys_are_as_usual {whole less : Entries} {s : Settings} (loads : ofEntries whole = .ok s)
    (distinct : Schema.document.Distinct (.table .header whole))
    (part : Schema.document.Part (.table .header less) (.table .header whole)) :
    (Schema.document.lacking (.table .header less) = [] →
      ofEntries less = .ok (s.keeping (Schema.document.has (.table .header less)))) ∧
    ∀ key others, Schema.document.lacking (.table .header less) = key :: others →
      ofEntries less = .error (.missing key) := by
  have read : ofEntries less = _ := reads_document part distinct loads
  refine ⟨fun complete => ?_,fun key others missing => ?_⟩
  · rw [read,complete]
    rfl
  · rw [read,missing]
    rfl

/-- A start, a pause and an unplugged motor are left out. -/
theorem shorter_document_is_loaded :
    let speed : String × Value := ("go_speed",.integer 120)
    let travel (ends : Entries) : String × Value := ("x",.table .inline ends)
    let ends : Entries := [("upper",.integer 500),("lower",.integer (-600))]
    let whole : Entries := [("motion",.table .header [speed,("go_poll_ms",.integer 50)]),
      ("sim",.table .header [travel (("start",.integer 7) :: ends),("disconnected",.array [.string "y"])])]
    let less : Entries := [("motion",.table .header [speed]),("sim",.table .header [travel ends])]
    ∃ s, ofEntries whole = .ok s ∧ s.machine.x.start.ticks = 7 ∧
      Schema.document.Distinct (.table .header whole) ∧
      Schema.document.Part (.table .header less) (.table .header whole) ∧
      Schema.document.lacking (.table .header less) = [] ∧
      ofEntries less = .ok (s.keeping (Schema.document.has (.table .header less))) ∧
      (s.keeping (Schema.document.has (.table .header less))).machine.x.start.ticks = 0 := by
  intro speed travel ends whole less
  have distinct : Schema.document.Distinct (.table .header whole) := by decide
  have motion : Schema.motion.Part (.table .header [speed]) (.table .header [speed,("go_poll_ms",.integer 50)]) :=
    ⟨trivial,.cons ⟨rfl,rfl⟩ .nil⟩
  have sim : Schema.machine.Part (.table .header [travel ends])
      (.table .header [travel (("start",.integer 7) :: ends),("disconnected",.array [.string "y"])]) :=
    ⟨trivial,.cons ⟨rfl,trivial,.cons_right (.cons ⟨rfl,rfl⟩ (.cons ⟨rfl,rfl⟩ .nil))⟩ .nil⟩
  have part : Schema.document.Part (.table .header less) (.table .header whole) :=
    ⟨trivial,.cons ⟨rfl,motion⟩ (.cons ⟨rfl,sim⟩ .nil)⟩
  have complete : Schema.document.lacking (.table .header less) = [] := by decide +kernel
  refine ⟨_,rfl,rfl,distinct,part,complete,(omitted_keys_are_as_usual rfl distinct part).1 complete,?_⟩
  rfl

/-- A travel that is given by one end is not completed by the usual other one. -/
theorem one_end_is_not_enough :
    ¬ ∀ (whole less : Entries) (s : Settings), ofEntries whole = .ok s →
      Schema.document.Distinct (.table .header whole) →
      Schema.document.Part (.table .header less) (.table .header whole) →
      ofEntries less = .ok (s.keeping (Schema.document.has (.table .header less))) := by
  intro harmless
  let sim (ends : Entries) : Entries := [("sim",.table .implied [("x",.table .header ends)])]
  let ends : Entries := [("lower",.integer (-600)),("upper",.integer 500)]
  have distinct : Schema.document.Distinct (.table .header (sim ends)) := by decide
  have part : Schema.document.Part (.table .header (sim [("upper",.integer 500)])) (.table .header (sim ends)) :=
    ⟨trivial,.cons ⟨rfl,trivial,.cons ⟨rfl,trivial,.cons_right (.cons ⟨rfl,rfl⟩ .nil)⟩ .nil⟩ .nil⟩
  have loads := harmless _ _ _ rfl distinct part
  have rejected : ofEntries (sim [("upper",.integer 500)]) = .error (.missing "lower") := rfl
  exact nomatch loads.symm.trans rejected

end Settings
end PenPlotter
