import PenPlotter.Decimal.Shortest

/-! Decimal text of a binary number, written and read. A `Layout` says where the positional form
ends and how whole numbers look; the digits are always the shortest that read back. -/

namespace PenPlotter.Decimal

/-- How a number is laid out. Exponents are those of the leading digit. -/
structure Layout where
  /-- Smaller exponents are written with `e`. -/
  least : Option Int
  /-- Larger exponents are written with `e`. -/
  most : Option Int
  /-- Whether a whole number in positional form ends in `.0`. -/
  wholeMark : Bool

/-- Layout of a record field: positional from `1e-5` to below `1e16`, always with a point. -/
def Layout.field : Layout := ⟨some (-5), some 15, true⟩

/-- Layout of a number in running text: always positional, a point only where digits follow. -/
def Layout.plain : Layout := ⟨none, none, false⟩

/-- Layout of a number in a message: always positional and always with a point. -/
def Layout.pointed : Layout := ⟨none, none, true⟩

def zeros (n : Int) : List Char := List.replicate n.toNat '0'

def Layout.positional (layout : Layout) (d : Digits) : List Char :=
  let digits := Nat.toDigits 10 d.digits
  let whole : Int := digits.length + d.exponent
  if whole ≤ 0 then ['0', '.'] ++ zeros (-whole) ++ digits
  else if 0 ≤ d.exponent then
    digits ++ zeros d.exponent ++ (if layout.wholeMark then ['.', '0'] else [])
  else digits.take whole.toNat ++ '.' :: digits.drop whole.toNat

def scientific (d : Digits) : List Char :=
  let digits := Nat.toDigits 10 d.digits
  let exponent : Int := digits.length - 1 + d.exponent
  let fraction := if digits.length = 1 then [] else '.' :: digits.drop 1
  digits.take 1 ++ fraction ++ 'e' :: (toString exponent).toList

def Layout.magnitudeText (layout : Layout) (m : Nat) (q : Int) : List Char :=
  if m = 0 then '0' :: (if layout.wholeMark then ['.', '0'] else [])
  else
    let d := shortest m q
    let exponent : Int := (Nat.toDigits 10 d.digits).length - 1 + d.exponent
    if layout.least.all (· ≤ exponent) && layout.most.all (exponent ≤ ·) then layout.positional d
    else scientific d

def Layout.write (layout : Layout) : Binary → String
  | .nan => "NaN"
  | .infinite negative => if negative then "-inf" else "inf"
  | .finite negative m q =>
    String.ofList ((if negative then ['-'] else []) ++ layout.magnitudeText m q)

example : Layout.field.write (.finite true (5 * twoPow 50) (-33)) = "-655360.0" := by decide +kernel
example : Layout.plain.write (.finite false (twoPow 52) (-54)) = "0.25" := by decide +kernel
example : Layout.field.write (.finite false 1 (-1074)) = "5e-324" := by decide +kernel

/-- The number nearest to `digits * 10 ^ exponent`. What is beyond the range of exponents by far is
answered without computing the power. -/
def nearest (digits : Nat) (exponent : Int) : Float :=
  let size : Int := (Nat.toDigits 10 digits).length + exponent
  if digits = 0 ∨ size < -400 then 0
  else if 400 < size then Float.ofBits 0x7FF0000000000000
  else Float.ofScientific digits (exponent < 0) exponent.natAbs

def digitValue (c : Char) : Nat := c.toNat - '0'.toNat

def digitsValue (digits : List Char) : Nat :=
  digits.foldl (fun n c => 10 * n + digitValue c) 0

def negateIf (negative : Bool) (x : Float) : Float := if negative then -x else x

/-- An optional sign in front of a text. -/
def splitSign : List Char → Bool × List Char
  | '-' :: rest => (true, rest)
  | '+' :: rest => (false, rest)
  | text => (false, text)

/-- Digits with an optional point among or beside them and an optional exponent. -/
def readMagnitude? (text : List Char) : Option Float :=
  let whole := text.takeWhile Char.isDigit
  let rest := text.dropWhile Char.isDigit
  let (fraction, rest) := match rest with
    | '.' :: rest => (rest.takeWhile Char.isDigit, rest.dropWhile Char.isDigit)
    | rest => ([], rest)
  if whole.isEmpty && fraction.isEmpty then none
  else
    let value (exponent : Int) := nearest (digitsValue (whole ++ fraction)) (exponent - fraction.length)
    match rest with
    | [] => some (value 0)
    | e :: rest =>
      let (negative, digits) := splitSign rest
      if (e == 'e' || e == 'E') && !digits.isEmpty && digits.all Char.isDigit then
        let exponent : Int := digitsValue digits
        some (value (if negative then -exponent else exponent))
      else none

/-- Reads a number in decimal, or a word for infinity or for no number, in any letter case. -/
def read? (text : List Char) : Option Float :=
  let (negative, rest) := splitSign text
  let word := String.ofList (rest.map Char.toLower)
  if word = "inf" ∨ word = "infinity" then
    some (negateIf negative (Float.ofBits 0x7FF0000000000000))
  else if word = "nan" then some (Float.ofBits 0x7FF8000000000000)
  else (readMagnitude? rest).map (negateIf negative)

end PenPlotter.Decimal
