/-! Blanks are the characters with the Unicode property White_Space. `trim` removes them at the
ends of a text and `words` splits a text at them. -/

namespace PenPlotter.Text

def isBlank (c : Char) : Bool :=
  let n := c.toNat
  (0x09 ≤ n && n ≤ 0x0D) || n == 0x20 || n == 0x85 || n == 0xA0 || n == 0x1680 ||
    (0x2000 ≤ n && n ≤ 0x200A) || n == 0x2028 || n == 0x2029 || n == 0x202F || n == 0x205F ||
    n == 0x3000

/-- The text without the blanks at its two ends. -/
def trim (text : String) : String :=
  let front := text.toList.dropWhile isBlank
  String.ofList (front.reverse.dropWhile isBlank).reverse

/-- The longest runs of characters that are not blank, from left to right. -/
def wordsOf : List Char → List (List Char)
  | [] => []
  | c :: rest =>
    if isBlank c then wordsOf rest
    else match rest with
      | [] => [[c]]
      | d :: _ =>
        if isBlank d then [c] :: wordsOf rest
        else match wordsOf rest with
          | [] => [[c]]
          | word :: others => (c :: word) :: others

def words (text : String) : List String := (wordsOf text.toList).map String.ofList

example : words " running\tstalled\n" = ["running", "stalled"] := by decide +kernel
example : trim "\u0085z " = "z" := by decide +kernel

end PenPlotter.Text
