import ImportBoundary.Markup.Emoji
import ImportBoundary.Markup.Style

/-!
Contract: texts with style tags in them.

Owns the reading of a text into pieces and `withoutTags`, which gives the text that they leave, if
every closing tag closes one. A tag is a bracketed text that begins with a small letter, `#`, `/` or `@` and
holds no opening bracket. Two backslashes before a tag write one, and an odd one makes it a text; a
backslash before any other opening bracket is dropped. A tag that begins with a slash closes the latest
open one, or the latest of its name.
-/

namespace ImportBoundary.Markup

/-- A piece of a text: characters to be shown, or what is between the brackets of a tag, with the
position of its opening bracket. -/
inductive Piece where
  | plain (characters : List Char)
  | tag (body : List Char) (position : Nat)
deriving DecidableEq, Repr

/-- Whether a bracketed text that begins so is a tag. -/
def beginsTag (character : Char) : Bool :=
  character.isLower || character == '#' || character == '/' || character == '@'

/-- The body of a tag and what follows it, from the text between two opening brackets. -/
def tag? (text : List Char) : Option (List Char × List Char) :=
  match text, text.dropWhile (· ≠ ']') with
  | first :: _, _ :: after =>
    if beginsTag first then some (text.takeWhile (· ≠ ']'), after) else none
  | _, _ => none

/-- The text without a backslash before each opening bracket. -/
def withoutEscapes : List Char → List Char
  | '\\' :: '[' :: rest => '[' :: withoutEscapes rest
  | character :: rest => character :: withoutEscapes rest
  | [] => []

/-- The pieces of a tag and of the text before it, with the backslashes at the end of that text. -/
def tagPieces (before body : List Char) (position : Nat) : List Piece :=
  let slashes := (before.reverse.takeWhile (· == '\\')).length
  [.plain (withoutEscapes (before.take (before.length - slashes))),
    .plain (List.replicate (slashes / 2) '\\'),
    if slashes % 2 = 1 then .plain ('[' :: body ++ [']']) else .tag body position]

/-- The pieces of a text cut at its opening brackets, from the text since the last tag, the position
of the next bracket, and what follows each bracket. -/
def piecesFrom (before : List Char) (position : Nat) : List (List Char) → List Piece
  | [] => [.plain (withoutEscapes before)]
  | text :: rest =>
    let next := position + 1 + text.length
    match tag? text with
    | some (body, after) => tagPieces before body position ++ piecesFrom after next rest
    | none => piecesFrom (before ++ '[' :: text) next rest

def pieces (text : List Char) : List Piece :=
  let cut := Text.cutAt '[' text
  piecesFrom cut.first cut.first.length cut.others

/-- The names of the tags that are open after a tag, the latest first. -/
def openAfter (opened : List String) (body : List Char) (position : Nat) :
    Except Fault (List String) := do
  match body.takeWhile (· ≠ '=') with
  | '/' :: closed =>
    let closedName := Text.trim (String.ofList closed)
    match closedName, opened with
    | "", [] => .error (.nothingToClose position)
    | "", _ :: others => .ok others
    | _, _ =>
      let name ← normalName closedName
      if opened.contains name then .ok (opened.erase name)
      else .error (.notOpen (String.ofList body) position)
  | name => .ok ((← normalName (String.ofList name)) :: opened)

/-- The characters that pieces show after the tags that are open. -/
def shownFrom (opened : List String) : List Piece → Except Fault (List Char)
  | [] => .ok []
  | .plain characters :: rest => do
    let others ← shownFrom opened rest
    .ok (withEmoji characters ++ others)
  | .tag body position :: rest => do shownFrom (← openAfter opened body position) rest

/-- The text that is left without its tags, with emoji for its codes. -/
def withoutTags (text : List Char) : Except Fault (List Char) :=
  shownFrom [] (pieces text)

end ImportBoundary.Markup
