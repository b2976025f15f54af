import ImportBoundary.Text.Pieces

/-!
Contract: blank characters, and what stands between them.

Owns `isBlank`, the Unicode white space characters together with the four information separators
U+001C to U+001F, `trim`, which cuts them off the ends of a text, and `words`. The zero width space
U+200B is not blank.
-/

namespace ImportBoundary.Text

/-- White space, wherever the rules of this library speak of it. -/
def isBlank (character : Char) : Bool :=
  let point := character.toNat
  (0x09 ≤ point && point ≤ 0x0d) || (0x1c ≤ point && point ≤ 0x20) || point == 0x85 ||
    point == 0xa0 || point == 0x1680 || (0x2000 ≤ point && point ≤ 0x200a) ||
    point == 0x2028 || point == 0x2029 || point == 0x202f || point == 0x205f || point == 0x3000

/-- The text without the blanks at its two ends. -/
def trim (text : String) : String :=
  let fromFirst := text.toList.dropWhile isBlank
  String.ofList (fromFirst.reverse.dropWhile isBlank).reverse

/-- The words of a text: what stands between its blanks. -/
def words (text : String) : List String :=
  ((cutWhere isBlank text.toList).all.filter (!·.isEmpty)).map String.ofList

end ImportBoundary.Text
