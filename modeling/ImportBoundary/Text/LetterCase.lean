import ImportBoundary.Text.CaseRuns
import ImportBoundary.Text.CaseContext
import ImportBoundary.Text.Ranges

/-!
Contract: full Unicode case mapping of texts.

Owns `lower` and `upper`. A character may become several (`upper` of the sharp s is two capital
letters), and a capital sigma becomes its final form at the end of a word and its medial form
elsewhere.
-/

namespace ImportBoundary.Text

def CaseRun.covers (run : CaseRun) (codePoint : Nat) : Bool :=
  run.first ≤ codePoint && codePoint ≤ run.last && (codePoint - run.first) % run.step == 0

/-- The code point moved by the run that covers it, or itself. -/
def shiftBy (runs : List CaseRun) (codePoint : Nat) : Nat :=
  match runs.find? (·.covers codePoint) with
  | some run => (codePoint + run.shift).toNat
  | none => codePoint

def meetsCased (characters : List Char) : Bool :=
  match characters.dropWhile fun character => inRanges ignorableRanges character.toNat with
  | [] => false
  | character :: _ => inRanges casedRanges character.toNat

/-- The small form of one character between the characters before it, nearest first, and those
after it. -/
def lowerBetween (before : List Char) (character : Char) (after : List Char) : List Char :=
  if character.toNat = 0x3a3 then
    [Char.ofNat (if meetsCased before && !meetsCased after then 0x3c2 else 0x3c3)]
  else if character.toNat = 0x130 then [Char.ofNat 0x69, Char.ofNat 0x307]
  else [Char.ofNat (shiftBy smallRuns character.toNat)]

/-- The small forms of the remaining characters. -/
def lowerFrom (before : List Char) : List Char → List Char
  | [] => []
  | character :: after =>
    lowerBetween before character after ++ lowerFrom (character :: before) after

/-- The text in small letters. -/
def lower (text : String) : String :=
  String.ofList (lowerFrom [] text.toList)

/-- The capital form of one character. -/
def upperChar (character : Char) : List Char :=
  match capitalExpansions.lookup character.toNat with
  | some codePoints => codePoints.map Char.ofNat
  | none => [Char.ofNat (shiftBy capitalRuns character.toNat)]

/-- The text in capital letters. -/
def upper (text : String) : String :=
  String.ofList (text.toList.flatMap upperChar)

end ImportBoundary.Text
