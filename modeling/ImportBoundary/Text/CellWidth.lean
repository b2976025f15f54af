import ImportBoundary.Text.Ranges
import ImportBoundary.Text.CellRanges

/-!
Contract: how many cells of a character grid a text takes.

Owns `cellWidth`, the cells of a character that stands alone, and `cells`, those of a text. In a text a
joiner hides the character after it, so that joined emoji are as wide as the first of them, and a
selector of the emoji form widens the character that it follows. A combining mark adds nothing and
does not come between a character and its selector.
-/

namespace ImportBoundary.Text

/-- The cells that a character takes: two if it is wide, none if it is not seen, else one. -/
def cellWidth (character : Char) : Nat :=
  let point := character.toNat
  if 32 ≤ point ∧ point < 127 then 1
  else if inRanges zeroWidthRanges point then 0
  else if inRanges wideRanges point then 2
  else 1

/-- The character that joins its neighbours into one. -/
def joiner : Char := Char.ofNat 0x200d

/-- The character that asks for the emoji form of the one before it. -/
def emojiSelector : Char := Char.ofNat 0xfe0f

/-- The cells that a selector of the emoji form adds, after the last character that was seen. -/
def widening (seen : Option Char) : Nat :=
  match seen with
  | some character => if inRanges widenedRanges character.toNat then 1 else 0
  | none => 0

/-- The cells of a text, after the last character that a selector may widen; whether the next
character is hidden by a joiner. -/
def cellsAfter (seen : Option Char) (hidden : Bool) : List Char → Nat
  | [] => 0
  | character :: rest =>
    if hidden then cellsAfter seen false rest
    else if character = joiner then cellsAfter seen true rest
    else if character = emojiSelector then widening seen + cellsAfter none false rest
    else if cellWidth character = 0 then cellsAfter seen false rest
    else cellWidth character + cellsAfter (some character) false rest

def cells (text : List Char) : Nat :=
  cellsAfter none false text

end ImportBoundary.Text
