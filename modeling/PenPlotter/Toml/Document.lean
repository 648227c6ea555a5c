import PenPlotter.Toml.Scalar

/-! The grammar of a document: keys, arrays, inline tables, definitions and headers. -/

namespace PenPlotter.Toml
namespace Reader

/-! ### Keys -/

def isBareKey (c : Char) : Bool := c.isAlphanum || c == '_' || c == '-'

def simpleKey : Reader String :=
  basicString <|> literalString <|> (return String.ofList (← takeWhile1 isBareKey))

/-- Number of parts that a dotted key must stay below, and of values that are open at once. -/
def nestingLimit : Nat := 80

/-- A key with points in it: the way to a table and the key in that table. -/
def dottedKey : Reader (List String × String) := do
  let parts ← separated (blanks *> simpleKey <* blanks) (char '.')
  match parts.getLast? with
  | some key => if parts.length < nestingLimit then return (parts.dropLast, key) else failure
  | none => failure

/-! ### Values -/

/-- Items may stand on several lines, and a comma may follow the last one. -/
def array (item : Reader Value) : Reader Value := do
  char '['
  let items ← separated (gap *> item <* gap) (char ',')
  if !items.isEmpty then discard (optional (char ','))
  gap
  char ']'
  return .array items

def definition (value : Reader Value) : Reader ((List String × String) × Value) := do
  let key ← dottedKey
  char '='
  blanks
  return (key, ← value)

/-- An inline table stands on one line, and no comma follows its last definition. -/
def inlineTable (value : Reader Value) : Reader Value := do
  char '\x7b'
  let definitions ← separated (definition value <* blanks) (char ',')
  blanks
  char '\x7d'
  match inlineTable? definitions with
  | some table => return table
  | none => failure

/-- A value with at most this many values open at once. -/
def value : Nat → Reader Value
  | 0 => scalar
  | depth + 1 => scalar <|> array (value depth) <|> inlineTable (value depth)

/-! ### Lines -/

inductive Line where
  | empty
  | definition (path : List String) (key : String) (value : Value)
  | table (path : List String) (key : String)
  | element (path : List String) (key : String)

def elementHeader : Reader Line := do
  word "[["
  let (path, key) ← dottedKey
  word "]]"
  lineEnd
  return .element path key

def tableHeader : Reader Line := do
  char '['
  let (path, key) ← dottedKey
  char ']'
  lineEnd
  return .table path key

def definitionLine : Reader Line := do
  let ((path, key), value) ← definition (value (nestingLimit - 1))
  lineEnd
  return .definition path key value

/-- A line without a definition; at the end of the text there is none. -/
def emptyLine : Reader Line := do
  blanks
  match ← peek? with
  | none => failure
  | some _ => lineEnd *> return .empty

def line : Reader Line :=
  emptyLine <|> (blanks *> (elementHeader <|> tableHeader <|> definitionLine))

/-- All lines of a text. -/
def lines : Reader (List Line) := do
  discard (optional (char '\ufeff'))
  let lines ← many line
  blanks
  atEnd
  return lines

end Reader

def Draft.add (d : Draft) : Reader.Line → Option Draft
  | .empty => some d
  | .definition path key value => d.define path key value
  | .table path key => d.openTable path key
  | .element path key => d.openElement path key

/-- The entries of a document, or nothing if the text is none. -/
def document? (text : String) : Option Entries := do
  let (lines, _) ← Reader.lines text.toList
  let draft ← lines.foldlM Draft.add {}
  draft.close

-- A header reopens what another header has implied, but no table is begun twice.
example : (document? "[a.b]\n[a]\nc = 1").isSome = true := by decide +kernel
example : (document? "[a]\n[a]").isSome = false := by decide +kernel
example : (document? "a.b = 1\n[a]").isSome = false := by decide +kernel
example : (document? "a = \x7b\x7d\na.b = 1").isSome = false := by decide +kernel

end PenPlotter.Toml
