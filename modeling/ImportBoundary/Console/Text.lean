import ImportBoundary.Failure
import ImportBoundary.Text.CellWidth

/-!
Contract: texts as a console shows them.

Owns `shown` and `shownMarkup`, which give a line of text, literal or marked up, as it is shown: with
emoji for their codes, without the control characters that a console has no use for, and with tabs set
to columns of eight cells. Owns `withoutSequences`, which takes the sequences that control a terminal
out of a text.
-/

namespace ImportBoundary.Console

/-- The control characters that are not shown. -/
def isDropped (character : Char) : Bool :=
  let point := character.toNat
  point == 7 || point == 8 || point == 11 || point == 12 || point == 13

def tabWidth : Nat := 8

/-- The blanks from a column to the next tab stop; none at a stop. -/
def blanksAt (column : Nat) : Nat :=
  (tabWidth - column % tabWidth) % tabWidth

/-- The blanks end at a stop. -/
theorem column_add_blanksAt_mod (column : Nat) : (column + blanksAt column) % tabWidth = 0 := by
  simp only [blanksAt, tabWidth]
  omega

/-- A line cut at its tabs, from a column of cells on: the piece before a tab and the pieces after it.
A tab is one blank and as many more as lead to a stop. -/
def expandedFrom (column : Nat) (piece : List Char) : List (List Char) → List Char
  | [] => piece
  | next :: rest =>
    let past := column + Text.cells (piece ++ [' '])
    let blanks := blanksAt past
    piece ++ ' ' :: List.replicate blanks ' ' ++ expandedFrom (past + blanks) next rest

/-- No tab is left of pieces without tabs. -/
theorem tab_notMem_expandedFrom (column : Nat) {piece : List Char} {rest : List (List Char)}
    (free : ∀ each ∈ piece :: rest, '\t' ∉ each) : '\t' ∉ expandedFrom column piece rest := by
  induction rest generalizing column piece with
  | nil => simpa [expandedFrom] using free
  | cons next rest hypothesis =>
    have here : '\t' ∉ piece := free piece (by simp)
    have later (column : Nat) : '\t' ∉ expandedFrom column next rest :=
      hypothesis column fun each within =>
        free each (by simp only [List.mem_cons] at within ⊢; exact .inr within)
    simp [expandedFrom, here, later]

/-- A line with blanks for its tabs. -/
def expandedLine (line : List Char) : List Char :=
  let pieces := Text.cutAt '\t' line
  expandedFrom 0 pieces.first pieces.others

/-- No tab is left of a line. -/
theorem tab_notMem_expandedLine (line : List Char) : '\t' ∉ expandedLine line :=
  tab_notMem_expandedFrom 0 fun _ held => Text.separator_notMem_of_mem_all_cutAt held

/-- The text with blanks for its tabs; every line begins at the first column. -/
def expandTabs (text : List Char) : List Char :=
  let lines := Text.cutAt '\n' text
  (Text.Pieces.mk (expandedLine lines.first) (lines.others.map expandedLine)).join '\n'

/-- No tab is left. -/
theorem tab_notMem_expandTabs (text : List Char) : '\t' ∉ expandTabs text := by
  simp [expandTabs, Text.Pieces.join, tab_notMem_expandedLine]

def lineOf (characters : List Char) : String :=
  String.ofList (expandTabs (characters.filter fun character => !isDropped character)) ++ "\n"

def shown (text : String) : String :=
  lineOf (Markup.withEmoji text.toList)

/-- A line of marked-up text as it is shown, if its tags match. -/
def shownMarkup (text : String) : Except Failure String :=
  ((Markup.withoutTags text.toList).map lineOf).mapError .badMarkup

/-- The character that begins a sequence that controls a terminal. -/
def escape : Char := Char.ofNat 0x1b

/-- Whether a character is a parameter in such a sequence. -/
def isParameter (character : Char) : Bool :=
  character.isDigit || character == ';' || character == '?'

/-- What is left of a text that follows `escape` up to the next one. An opening bracket, parameters and
a letter are a sequence; after anything else `escape` stays. -/
def withoutSequence (text : List Char) : List Char :=
  match text with
  | '[' :: rest =>
    match rest.dropWhile isParameter with
    | final :: after => if final.isAlpha then after else escape :: text
    | [] => escape :: text
  | _ => escape :: text

def withoutSequences (text : String) : String :=
  let pieces := Text.cutAt escape text.toList
  String.ofList (pieces.first ++ pieces.others.flatMap withoutSequence)

/-- A text without `escape` stays as it is. -/
theorem withoutSequences_of_no_escape {text : String} (absent : escape ∉ text.toList) :
    withoutSequences text = text := by
  simp [withoutSequences, Text.cutAt_of_notMem absent]

end ImportBoundary.Console
