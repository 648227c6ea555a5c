import PenPlotter.Errand
import PenPlotter.Gcode
import PenPlotter.Proofs.Schedule.Turn

/-! A plotter in the hands of a client. What a client does is a script: it may start operations, leaving
another script to be run when they complete, submit tasks of its own, change the plotter and let time
pass, and it decides by everything it can see. Each accepted operation gets a number, and a register
keeps the looks that were taken at it and the calls of its callback. -/

namespace PenPlotter.Shop

inductive Access where
  | full
  /-- It may dispatch commands only. -/
  | commands
  deriving DecidableEq, Repr

/-- How a client starts an operation. -/
inductive Order (access : Access) where
  | command (command : Gcode) (previous : Screen)
  | home (direct : access = .full) (previous : Screen)
  | go (direct : access = .full) (targets : Targets)

/-- What a callback is told. -/
inductive Told where
  | replied (reply : Except Fault Unit)
  | completed (completion : Completion)

inductive Script (access : Access) (μ δ χ : Type) where
  | stop (result : Except Failure Unit)
  | look (rest : Moment → Plotter μ δ → χ → Script access μ δ χ)
  | note (notes : χ) (rest : Script access μ δ χ)
  | change (free : access = .full) (plotter : Plotter μ δ) (rest : Script access μ δ χ)
  | spend (time : Nat) (rest : Script access μ δ χ)
  | submit (priority : Int) (delay : Nat) (task rest : Script access μ δ χ)
  /-- `callback` is run when the operation completes, or at once when the order is answered at once;
  `rest` goes on, told whether that has succeeded. -/
  | order (order : Order access) (callback : Told → Script access μ δ χ)
      (rest : Except Failure Unit → Script access μ δ χ)

/-- Starts operations one after the other, whatever becomes of them. -/
def Script.startAll : List (Order access) → Script access μ δ χ
  | [] => .stop (.ok ())
  | first :: rest => .order first (fun _ => .stop (.ok ())) fun _ => startAll rest

structure Ticket (access : Access) (μ δ χ : Type) where
  number : Nat
  order : Order access
  callback : Told → Script access μ δ χ

abbrev Errands (access : Access) (μ δ χ : Type) := List (Errand (Ticket access μ δ χ))

inductive Job (access : Access) (μ δ χ : Type) where
  | errand (errand : Errand (Ticket access μ δ χ))
  | task (script : Script access μ δ χ)

/-- A look at an operation, with the plotter as it was before. -/
structure Look (access : Access) (μ δ χ : Type) where
  errand : Errand (Ticket access μ δ χ)
  now : Nat
  plotter : Plotter μ δ

structure Register (access : Access) (μ δ χ : Type) where
  notes : χ
  accepted : Nat := 0
  /-- Numbers of the operations whose callback was called, latest first. -/
  calls : List Nat := []
  /-- Latest first. -/
  looks : List (Look access μ δ χ) := []

end Shop

/-- A plotter with its schedule and its register. -/
structure Shop (access : Shop.Access) (μ δ χ : Type) where
  schedule : Schedule (Shop.Job access μ δ χ)
  desk : Desk μ δ (Shop.Register access μ δ χ)

namespace Shop

variable {access : Access} {μ δ χ : Type} [Motor μ] [Display δ]

def Order.place : Order access → PlotterM μ δ Dispatched
  | .command asked previous => asked.dispatch previous
  | .home _ previous => do return .started (.homing (← Homing.Pass.start previous))
  | .go _ targets => do
    targets.start
    return .started (.move targets)

abbrev Working (access : Access) (μ δ χ : Type) :=
  Draft (Job access μ δ χ) (Desk μ δ (Register access μ δ χ))

namespace Working

variable (w : Working access μ δ χ)

def withPlotter (plotter : Plotter μ δ) : Working access μ δ χ :=
  { w with context := { w.context with plotter } }

def request (request : Request (Job access μ δ χ)) : Working access μ δ χ :=
  { w with requests := w.requests ++ [request] }

/-- Accepts an operation under the next number. -/
def accept (order : Order access) (callback : Told → Script access μ δ χ) (operation : Operation) :
    Working access μ δ χ :=
  let register := w.context.notes
  let ticket : Ticket access μ δ χ := ⟨register.accepted, order, callback⟩
  { context := { w.context with notes := { register with accepted := register.accepted + 1 } }
    requests := w.requests ++ [.submit 0 0 (.errand ⟨operation, ticket⟩)] }

end Working

/-- What is seen after a row of requests by a task that has started at a moment. -/
def momentAfter (moment : Moment) (requests : List (Request α)) : Moment :=
  ⟨Request.clock moment.now requests, moment.waiting + (Request.tasks moment.now requests).length⟩

def Script.run (moment : Moment) :
    Script access μ δ χ → Working access μ δ χ → Except Failure Unit × Working access μ δ χ
  | .stop result, w => (result, w)
  | .look rest, w =>
    (rest (momentAfter moment w.requests) w.context.plotter w.context.notes.notes).run moment w
  | .note notes rest, w =>
    rest.run moment { w with context := { w.context with notes := { w.context.notes with notes } } }
  | .change _ plotter rest, w => rest.run moment (w.withPlotter plotter)
  | .spend time rest, w => rest.run moment (w.request (.spend time))
  | .submit priority delay task rest, w => rest.run moment (w.request (.submit priority delay (.task task)))
  | .order placed callback rest, w =>
    match placed.place (Request.clock moment.now w.requests) w.context.plotter with
    | .error reason plotter => (rest (.error reason)).run moment (w.withPlotter plotter)
    | .ok (.started operation) plotter =>
      (rest (.ok ())).run moment ((w.withPlotter plotter).accept placed callback operation)
    | .ok (.replied reply) plotter =>
      let answered := (callback (.replied reply)).run moment (w.withPlotter plotter)
      (rest answered.1).run moment answered.2

abbrev ShopM (access : Access) (μ δ χ : Type) (β : Type) :=
  DeskM (Job access μ δ χ) μ δ (Register access μ δ χ) β

def Script.action (script : Script access μ δ χ) : ShopM access μ δ χ Unit := fun moment w =>
  match script.run moment w with
  | (.ok (), w) => .ok () w
  | (.error reason, w) => .error reason w

def finish (ticket : Ticket access μ δ χ) (completion : Completion) : ShopM access μ δ χ Unit := do
  Desk.note fun register => { register with calls := ticket.number :: register.calls }
  match ticket.order with
  | .command .. =>
    let reply ← Desk.onPlotter (Gcode.reply completion)
    (ticket.callback (.replied reply)).action
  | _ => (ticket.callback (.completed completion)).action

def enter (errand : Errand (Ticket access μ δ χ)) : ShopM access μ δ χ Unit := fun moment w =>
  let desk := w.context
  let look : Look access μ δ χ := ⟨errand, moment.now, desk.plotter⟩
  .ok () { w with context := { desk with notes := { desk.notes with looks := look :: desk.notes.looks } } }

def perform : Job access μ δ χ → ShopM access μ δ χ Unit
  | .errand errand => do
    enter errand
    errand.perform .errand finish
  | .task script => script.action

def behaviour : Behaviour Failure (Job access μ δ χ) (Desk μ δ (Register access μ δ χ)) where
  perform job moment desk := (perform job).outcome moment desk

inductive Event (access : Access) (μ δ χ : Type) where
  /-- The task whose turn it is is run. -/
  | turn
  /-- The client acts between two tasks. -/
  | script (script : Script access μ δ χ)
  /-- The world changes everything but the calibration, which is not its own. -/
  | world (plotter : Plotter μ δ)

/-- What an event leaves. A task that leaves the range of positions ends everything; one that fails does
not. -/
def next (shop : Shop access μ δ χ) : Event access μ δ χ → Except Overflow (Shop access μ δ χ)
  | .turn =>
    match behaviour.step shop.schedule shop.desk with
    | .idle schedule desk | .continued schedule desk | .failed (.report _) schedule desk =>
      .ok ⟨schedule, desk⟩
    | .failed (.overflow overflow) .. => .error overflow
  | .script script =>
    match script.run ⟨shop.schedule.now, shop.schedule.size⟩ { context := shop.desk } with
    | (.error (.overflow overflow), _) => .error overflow
    | (_, w) => .ok ⟨shop.schedule.applyAll w.requests, w.context⟩
  | .world plotter =>
    .ok { shop with
      desk := { shop.desk with plotter := { plotter with calibration := shop.desk.plotter.calibration } } }

def live (shop : Shop access μ δ χ) (events : List (Event access μ δ χ)) :
    Except Overflow (Shop access μ δ χ) :=
  events.foldlM next shop

/-- A shop in which nothing was done yet. -/
def opened (now : Nat) (plotter : Plotter μ δ) (notes : χ) : Shop access μ δ χ :=
  ⟨{ now }, plotter, { notes }⟩

end Shop
end PenPlotter
