import PenPlotter.Decimal.Text

/-! The words of a command line. Options that concern every command stand before it, each of them
once; `go` has options of its own. -/

namespace PenPlotter.CommandLine

/-- Where to move, and how the coordinates are meant. -/
structure Go where
  x : Option Float := none
  y : Option Float := none
  z : Option Float := none
  relative : Bool := false
  inches : Bool := false

inductive Command where
  | home
  | go (options : Go)
  | selfCheck

structure Options where
  settingsFile : Option String := none
  json : Bool := false
  logLevel : Option String := none

structure Invocation where
  options : Options
  command : Command

def Invocation.settingsFile (i : Invocation) : String := i.options.settingsFile.getD "etc/plotter.toml"

/-- Digits with at most one point and one exponent, neither of them in front and no exponent without
digits behind it. -/
def isNumeral : List Char → Bool
  | first :: rest => first.isDigit && afterDigit true rest
  | [] => false
where
  afterDigit (pointAllowed : Bool) : List Char → Bool
    | [] => true
    | '.' :: rest => pointAllowed && afterDigit false rest
    | 'e' :: rest => !rest.isEmpty && rest.all Char.isDigit
    | c :: rest => c.isDigit && afterDigit pointAllowed rest

/-- Whether a word can be the value of the option before it. A word with a hyphen in front is an
option itself, unless it is a number. -/
def isValue (word : String) : Bool :=
  match word.toList with
  | '-' :: rest => isNumeral rest
  | _ => true

example : isValue "-1.5e2" = true := by decide +kernel
example : isValue "-.5" = false := by decide +kernel
example : isValue "-1e-2" = false := by decide +kernel

/-- An option and the value that is joined to it by an equals sign. -/
def splitValue (word : String) : String × Option String :=
  let name := word.toList.takeWhile (· != '=')
  match word.toList.drop name.length with
  | [] => (word, none)
  | _ :: value => (String.ofList name, some (String.ofList value))

namespace Go

def flag? (go : Go) : String → Option Go
  | "--relative" => if go.relative then none else some { go with relative := true }
  | "--inches" => if go.inches then none else some { go with inches := true }
  | _ => none

def coordinate? (go : Go) (name : String) (value : Float) : Option Go :=
  match name with
  | "--x" => if go.x.isSome then none else some { go with x := some value }
  | "--y" => if go.y.isSome then none else some { go with y := some value }
  | "--z" => if go.z.isSome then none else some { go with z := some value }
  | _ => none

/-- Reads the options of `go`. Nothing may stand behind two hyphens. -/
def ofWords? (go : Go) : List String → Option Go
  | [] => some go
  | ["--"] => some go
  | [word] =>
    match go.flag? word, splitValue word with
    | some go, _ => some go
    | none, (name, some value) => do go.coordinate? name (← Decimal.read? value.toList)
    | none, (_, none) => none
  | word :: next :: rest =>
    match go.flag? word, splitValue word with
    | some go, _ => go.ofWords? (next :: rest)
    | none, (name, some value) => do
      (← go.coordinate? name (← Decimal.read? value.toList)).ofWords? (next :: rest)
    | none, (name, none) =>
      if isValue next then do
        (← go.coordinate? name (← Decimal.read? next.toList)).ofWords? rest
      else none

end Go

def Command.ofWords? : List String → Option Command
  | "home" :: rest => if rest = [] ∨ rest = ["--"] then some .home else none
  | "self-check" :: rest => if rest = [] ∨ rest = ["--"] then some .selfCheck else none
  | "go" :: rest => .go <$> Go.ofWords? {} rest
  | _ => none

namespace Options

def flag? (options : Options) : String → Option Options
  | "--json" => if options.json then none else some { options with json := true }
  | _ => none

def value? (options : Options) (name value : String) : Option Options :=
  match name with
  | "--config" =>
    if options.settingsFile.isSome then none else some { options with settingsFile := some value }
  | "--log-level" =>
    if options.logLevel.isSome then none else some { options with logLevel := some value }
  | _ => none

end Options

def readInvocation? (options : Options) : List String → Option Invocation
  | [] => none
  | [word] =>
    match Command.ofWords? [word] with
    | some command => some ⟨options, command⟩
    | none => none
  | word :: next :: rest =>
    match Command.ofWords? (word :: next :: rest), options.flag? word, splitValue word with
    | some command, _, _ => some ⟨options, command⟩
    | none, some options, _ => readInvocation? options (next :: rest)
    | none, none, (name, some value) => do readInvocation? (← options.value? name value) (next :: rest)
    | none, none, (name, none) =>
      if next.startsWith "-" then none
      else do readInvocation? (← options.value? name next) rest

/-- What a command line asks for, or nothing if it is refused. -/
def Invocation.ofWords? (words : List String) : Option Invocation := readInvocation? {} words

end PenPlotter.CommandLine
