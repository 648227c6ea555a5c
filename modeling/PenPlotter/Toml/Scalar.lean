import PenPlotter.Decimal.Text
import PenPlotter.Toml.Reader
import PenPlotter.Toml.Value

/-! Values without parts: strings in four notations, numbers, truth values, dates and times. -/

namespace PenPlotter.Toml.Reader

/-! ### Strings -/

def isHexDigit (c : Char) : Bool :=
  c.isDigit || ('a' ≤ c && c ≤ 'f') || ('A' ≤ c && c ≤ 'F')

def hexValue (digits : List Char) : Nat :=
  digits.foldl (fun n c =>
    16 * n + (if c.isDigit then c.toNat - '0'.toNat else c.toLower.toNat - 'a'.toNat + 10)) 0

/-- A character by its code point in a fixed number of hexadecimal digits. -/
def codePoint (size : Nat) : Reader Char := fun text =>
  let digits := text.take size
  let n := hexValue digits
  if digits.length = size ∧ digits.all isHexDigit ∧ n.isValidChar then some (.ofNat n, text.drop size)
  else none

/-- What a backslash stands for together with what follows it. -/
def escape : Reader Char := do
  char '\\'
  match ← satisfy fun _ => true with
  | 'b' => return '\x08'
  | 't' => return '\t'
  | 'n' => return '\n'
  | 'f' => return '\x0c'
  | 'r' => return '\r'
  | '"' => return '"'
  | '\\' => return '\\'
  | 'u' => codePoint 4
  | 'U' => codePoint 8
  | _ => failure

def isBasic (c : Char) : Bool := isPlain c && c != '"' && c != '\\'

def isLiteral (c : Char) : Bool := isPlain c && c != '\''

def basicString : Reader String := do
  char '"'
  let text ← many (satisfy isBasic <|> escape)
  char '"'
  return String.ofList text

def literalString : Reader String := do
  char '\''
  let text ← takeWhile isLiteral
  char '\''
  return String.ofList text

/-- One or two quotes that do not end a string of several lines. -/
def quotesInside (quote : Char) : Reader (List Char) := do
  let quotes ← takeWhile1 (· == quote)
  if quotes.length ≤ 2 then return quotes else failure

/-- Three quotes that end a string of several lines, with up to two that belong to it before them. -/
def quotesAtEnd (quote : Char) : Reader (List Char) := do
  let quotes ← takeWhile (· == quote)
  if 3 ≤ quotes.length ∧ quotes.length ≤ 5 then return quotes.drop 3 else failure

/-- A string of several lines, the first of which is left out if it is empty. -/
def longString (quote : Char) (piece : Reader (List Char)) : Reader String := do
  word (String.ofList [quote, quote, quote])
  discard (optional lineFeed)
  let pieces ← many (piece <|> (lineFeed *> return ['\n']) <|> quotesInside quote)
  return String.ofList (pieces.flatten ++ (← quotesAtEnd quote))

/-- A backslash at the end of a line takes away all blanks and line ends up to the next character. -/
def joinLines : Reader Unit :=
  char '\\' *> blanks *> lineFeed *> discard (many (discard (satisfy isBlank) <|> lineFeed))

def longBasicString : Reader String :=
  longString '"' (takeWhile1 isBasic <|> (joinLines *> return []) <|> (return [← escape]))

def longLiteralString : Reader String := longString '\'' (takeWhile1 isLiteral)

def string : Reader String :=
  longBasicString <|> basicString <|> longLiteralString <|> literalString

/-! ### Numbers -/

/-- Digits with single underscores between them. -/
def digits (isDigit : Char → Bool) : Reader (List Char) := do
  let first ← satisfy isDigit
  return first :: (← many (optional (char '_') *> satisfy isDigit))

/-- A sign, which is a plus if there is none. Tells whether the sign is a minus. -/
def sign : Reader Bool := (char '-' *> return true) <|> (char '+' *> return false) <|> return false

/-- Decimal digits without a superfluous zero in front. -/
def wholeDigits : Reader (List Char) :=
  (char '0' *> return ['0']) <|> digits Char.isDigit

def exponent : Reader Int := do
  discard (char 'e' <|> char 'E')
  let negative ← sign
  let size : Int := Decimal.digitsValue (← digits Char.isDigit)
  return if negative then -size else size

def minInteger : Int := -9223372036854775808
def maxInteger : Int := 9223372036854775807

def infinity : Float := .ofBits 0x7FF0000000000000

/-- A decimal number. One with a fraction or an exponent is a float, which must not be too large; no
bound is put on what is below zero. -/
def decimal : Reader Value := do
  let negative ← sign
  let whole ← wholeDigits
  let fraction ← optional (char '.' *> digits Char.isDigit)
  let power ← optional exponent
  if fraction.isNone && power.isNone then
    let size : Int := Decimal.digitsValue whole
    let value := if negative then -size else size
    if minInteger ≤ value ∧ value ≤ maxInteger then return .integer value else failure
  else
    let fraction := fraction.getD []
    let size := Decimal.nearest (Decimal.digitsValue (whole ++ fraction)) (power.getD 0 - fraction.length)
    if !negative && size == infinity then failure
    else return .float (Decimal.negateIf negative size)

/-- The words for infinity and for no number. -/
def special : Reader Value := do
  let negative ← sign
  let size ← (word "inf" *> return infinity) <|> (word "nan" *> return .ofBits 0x7FF8000000000000)
  return .float (Decimal.negateIf negative size)

/-- A whole number in base 2, 8 or 16, which has no sign. -/
def based (mark : String) (base : Nat) (isDigit : Char → Bool) : Reader Value := do
  word mark
  let value := (← digits isDigit).foldl (fun n c => base * n + hexValue [c]) 0
  if value ≤ maxInteger then return .integer value else failure

def number : Reader Value :=
  based "0x" 16 isHexDigit <|> based "0o" 8 (fun c => '0' ≤ c && c ≤ '7') <|>
    based "0b" 2 (fun c => c == '0' || c == '1') <|> special <|> decimal

/-! ### Dates and times -/

/-- A number of digits whose value is within bounds. -/
def field (size least most : Nat) : Reader Nat := fun text =>
  let digits := text.take size
  let n := Decimal.digitsValue digits
  if digits.length = size ∧ digits.all Char.isDigit ∧ least ≤ n ∧ n ≤ most then some (n, text.drop size)
  else none

def isLeapYear (year : Nat) : Bool := year % 4 == 0 && (year % 100 != 0 || year % 400 == 0)

def daysIn (year month : Nat) : Nat :=
  if month = 2 then (if isLeapYear year then 29 else 28)
  else if month = 4 ∨ month = 6 ∨ month = 9 ∨ month = 11 then 30
  else 31

def date : Reader Unit := do
  let year ← field 4 0 9999
  char '-'
  let month ← field 2 1 12
  char '-'
  discard (field 2 1 (daysIn year month))

def hourAndMinute : Reader Unit := field 2 0 23 *> char ':' *> discard (field 2 0 59)

/-- A time of the day, to which a leap second may belong. -/
def time : Reader Unit := do
  hourAndMinute
  char ':'
  discard (field 2 0 60)
  discard (optional (char '.' *> takeWhile1 Char.isDigit))

def offset : Reader Unit :=
  char 'Z' <|> char 'z' <|> ((char '+' <|> char '-') *> hourAndMinute)

def dateAndTime : Reader Unit := do
  date
  discard (optional ((char 'T' <|> char 't' <|> char ' ') *> time *> optional offset))

/-! ### All of them -/

def scalar : Reader Value :=
  (return .string (← string)) <|>
  (word "true" *> return .boolean true) <|>
  (word "false" *> return .boolean false) <|>
  ((dateAndTime <|> time) *> return .instant) <|>
  number

end PenPlotter.Toml.Reader
