/-! Readers of text: a reader takes something off the front of a text or fails, and a failure leaves
the text to the next alternative. -/

namespace PenPlotter.Toml

abbrev Reader (α : Type) := StateT (List Char) Option α

namespace Reader

def peek? : Reader (Option Char) := fun text => some (text.head?, text)

/-- The next character, if it belongs to a class. -/
def satisfy (allowed : Char → Bool) : Reader Char
  | c :: rest => if allowed c then some (c, rest) else none
  | [] => none

def char (c : Char) : Reader Unit := fun text => do
  let (_, rest) ← satisfy (· == c) text
  return ((), rest)

/-- A word that must come next. -/
def word (expected : String) : Reader Unit := expected.toList.forM char

/-- The longest run of characters of a class, which may be empty. -/
def takeWhile (allowed : Char → Bool) : Reader (List Char) := fun text =>
  some (text.takeWhile allowed, text.dropWhile allowed)

def takeWhile1 (allowed : Char → Bool) : Reader (List Char) := do
  match ← takeWhile allowed with
  | [] => failure
  | run => return run

def optional (reader : Reader α) : Reader (Option α) := (some <$> reader) <|> pure none

def manyUpTo (reader : Reader α) : Nat → Reader (List α)
  | 0 => return []
  | bound + 1 => do
    match ← optional reader with
    | none => return []
    | some value => return value :: (← manyUpTo reader bound)

/-- As many repetitions as there are, of a reader that takes something each time. -/
def many (reader : Reader α) : Reader (List α) := fun text => manyUpTo reader text.length text

/-- Items with something between them. -/
def separated (reader : Reader α) (separator : Reader Unit) : Reader (List α) := do
  match ← optional reader with
  | none => return []
  | some value => return value :: (← many (separator *> reader))

def atEnd : Reader Unit := fun text => if text.isEmpty then some ((), []) else none

/-! ### Blanks and line ends -/

def isBlank (c : Char) : Bool := c == ' ' || c == '\t'

/-- Characters that may stand in a comment and, apart from its delimiters, in a string. -/
def isPlain (c : Char) : Bool := c == '\t' || (0x20 ≤ c.toNat && c.toNat ≠ 0x7F)

def blanks : Reader Unit := discard (takeWhile isBlank)

def lineFeed : Reader Unit := char '\n' <|> (char '\r' *> char '\n')

def comment : Reader Unit := char '#' *> discard (takeWhile isPlain)

/-- What may follow a definition or a header on its line. -/
def lineEnd : Reader Unit := blanks *> discard (optional comment) *> (lineFeed <|> atEnd)

/-- Blanks, comments and line ends between the items of an array. -/
def gap : Reader Unit :=
  discard (many (discard (satisfy isBlank) <|> lineFeed <|> (comment *> lineFeed)))

end Reader
end PenPlotter.Toml
