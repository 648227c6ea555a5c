import PenPlotter.Text.Hidden

/-! Text between double quotes, in which every character can be recognised: the quote and the
backslash follow a backslash, and a hidden character is given by its code point. -/

namespace PenPlotter.Text

def escapeQuoted (c : Char) : List Char :=
  match c with
  | '\x00' => ['\\', '0']
  | '\t' => ['\\', 't']
  | '\r' => ['\\', 'r']
  | '\n' => ['\\', 'n']
  | '"' => ['\\', '"']
  | '\\' => ['\\', '\\']
  | c =>
    if isHidden c then ['\\', 'u', '\x7b'] ++ Nat.toDigits 16 c.toNat ++ ['\x7d'] else [c]

def quoted (text : String) : String :=
  "\"" ++ String.ofList (text.toList.flatMap escapeQuoted) ++ "\""

example : quoted "a\"\u00a0\n" = "\"a\\\"\\u\x7ba0\x7d\\n\"" := by decide +kernel

end PenPlotter.Text
