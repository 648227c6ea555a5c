/-! Values of a TOML document. A table keeps its entries in the order in which they were defined and
remembers how it was defined, because that decides what may still be added to it. -/

namespace PenPlotter.Toml

/-- How a table came to be. -/
inductive Origin where
  /-- By a header of its own, or as the document. -/
  | header
  /-- By a longer header, as one of the tables on its way. -/
  | implied
  /-- By a dotted key. -/
  | dotted
  /-- Between braces; such a table is closed. -/
  | inline
  deriving DecidableEq, Repr

inductive Value where
  | string (text : String)
  | integer (value : Int)
  | float (value : Float)
  | boolean (value : Bool)
  /-- A date, a time or both; which one it is does not matter to any setting. -/
  | instant
  | array (items : List Value)
  | table (origin : Origin) (entries : List (String × Value))
  /-- Tables that were each begun by a header in double brackets. -/
  | tables (bodies : List (List (String × Value)))

abbrev Entries := List (String × Value)

/-- A change of the entries of a table, which may be refused. -/
abbrev Edit (β : Type) := StateT Entries Option β

namespace Entries

def replace (key : String) (value : Value) : Entries → Entries
  | [] => []
  | (k, v) :: rest => if k = key then (key, value) :: rest else (k, v) :: replace key value rest

def erase (key : String) (entries : Entries) : Entries := entries.filter (·.1 ≠ key)

/-- Adds an entry at the end, under a key that is not taken. -/
def insert (key : String) (value : Value) : Edit Unit := fun entries =>
  if (entries.lookup key).isSome then none else some ((), entries ++ [(key, value)])

/-- Makes a change in the table at the end of a path and makes the tables that are missing on the
way. Of a list of tables the last one is meant. A dotted path does not lead into a table that has a
header, and no path leads into an inline table. -/
def within (dotted : Bool) (change : Origin → Edit β) : Origin → List String → Edit β
  | origin, [] => change origin
  | _, key :: path => fun entries =>
    match entries.lookup key with
    | none => do
      let origin := if dotted then .dotted else .implied
      let (result, inner) ← within dotted change origin path []
      return (result, entries ++ [(key, .table origin inner)])
    | some (.table origin inner) =>
      if origin = .inline ∨ (dotted = true ∧ origin = .header) then none
      else do
        let (result, inner) ← within dotted change origin path inner
        return (result, replace key (.table origin inner) entries)
    | some (.tables bodies) => do
      let (result, body) ← within dotted change .header path (← bodies.getLast?)
      return (result, replace key (.tables (bodies.dropLast ++ [body])) entries)
    | some _ => none

/-- Defines a key at the end of a dotted path in a table. What a dotted key has made can be extended
by dotted keys only. -/
def define (path : List String) (key : String) (value : Value) : Origin → Edit Unit := fun origin =>
  within true (fun found =>
    if (found = .dotted) = path.isEmpty then failure else insert key value) origin path

/-- Takes out a table that a header reopens: one that was implied before, or none. -/
def reopen (key : String) : Edit Entries := fun entries =>
  match entries.lookup key with
  | none => some ([], entries)
  | some (.table .implied inner) => some (inner, erase key entries)
  | some _ => none

/-- Makes room for a list of tables. -/
def reserve (key : String) : Edit Unit := fun entries =>
  match entries.lookup key with
  | none => some ((), entries ++ [(key, .tables [])])
  | some (.tables _) => some ((), entries)
  | some _ => none

/-- Adds a table to a list of tables. -/
def push (key : String) (body : Entries) : Edit Unit := fun entries =>
  match entries.lookup key with
  | some (.tables bodies) => some ((), replace key (.tables (bodies ++ [body])) entries)
  | _ => none

end Entries

/-- The inline table with these definitions. -/
def inlineTable? (definitions : List ((List String × String) × Value)) : Option Value := do
  let edit := definitions.forM fun ((path, key), value) => Entries.define path key value .inline
  let ((), entries) ← edit []
  return .table .inline entries

/-- A part of a document that a header begins. -/
inductive Section where
  /-- What stands before the first header. -/
  | root
  | table (path : List String) (key : String)
  | element (path : List String) (key : String)
  deriving DecidableEq, Repr

/-- A document that is being read: the tables closed so far and the one that is open. -/
structure Draft where
  closed : Entries := []
  current : Section := .root
  body : Entries := []

namespace Draft

def define (d : Draft) (path : List String) (key : String) (value : Value) : Option Draft := do
  let ((), body) ← Entries.define path key value .header d.body
  return { d with body }

/-- The tables of a draft whose open table is closed. -/
def close (d : Draft) : Option Entries :=
  match d.current with
  | .root => some d.body
  | .table path key => do
    let change (_ : Origin) := Entries.insert key (.table .header d.body)
    let ((), closed) ← Entries.within false change .header path d.closed
    return closed
  | .element path key => do
    let ((), closed) ← Entries.within false (fun _ => Entries.push key d.body) .header path d.closed
    return closed

/-- Begins a table. -/
def openTable (d : Draft) (path : List String) (key : String) : Option Draft := do
  let (body, closed) ← Entries.within false (fun _ => Entries.reopen key) .header path (← d.close)
  return { closed, current := .table path key, body }

/-- Begins the next table of a list of tables. -/
def openElement (d : Draft) (path : List String) (key : String) : Option Draft := do
  let ((), closed) ← Entries.within false (fun _ => Entries.reserve key) .header path (← d.close)
  return { closed, current := .element path key }

end Draft
end PenPlotter.Toml
