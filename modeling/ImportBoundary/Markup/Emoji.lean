import ImportBoundary.Markup.EmojiNames
import ImportBoundary.Text.Blank
import ImportBoundary.Text.CellWidth
import ImportBoundary.Text.LetterCase

/-!
Contract: emoji written by their names.

Owns `withEmoji`, which puts an emoji for each code in a text. A code is a colon, a name without blanks
and a colon; the name may end in `-emoji` or `-text`, which asks for that form of the emoji. The two
colons of a code belong to it also if nothing has its name, and then it stays.
-/

namespace ImportBoundary.Markup

/-- An entry as its name and its emoji. -/
def entryOf (entry : String) : String × String :=
  let pieces := Text.cutAt '=' entry.toList
  (String.ofList pieces.first, String.ofList pieces.others.flatten)

def emojiByName : List (String × String) :=
  emojiNames.flatMap fun entries => (Text.words entries).map entryOf

/-- The character that asks for the text form of the one before it. -/
def textSelector : Char := Char.ofNat 0xfe0e

/-- The endings of a name that ask for a form of the emoji, each with the selector of the form. -/
def forms : List (String × Char) :=
  [("-emoji", Text.emojiSelector), ("-text", textSelector)]

/-- A name without the ending that asks for a form, and the selector of the form. -/
def formOf (name : List Char) : List Char × List Char :=
  match forms.find? fun (ending, _) => ending.toList.isSuffixOf name with
  | some (ending, selector) => (name.take (name.length - ending.length), [selector])
  | none => (name, [])

/-- The emoji that a name stands for. Capital letters count as small ones, save in its ending. -/
def emoji? (name : List Char) : Option (List Char) :=
  let (plain, selector) := formOf name
  (emojiByName.lookup (Text.lower (String.ofList plain))).map fun emoji => emoji.toList ++ selector

/-- What is shown for a code: the emoji of its name, or else the code. -/
def shownCode (name : List Char) : List Char :=
  (emoji? name).getD (':' :: name ++ [':'])

/-- A text cut at its colons with emoji for its codes, from the piece before a colon and the pieces
after it. -/
def withEmojiFrom (before : List Char) : List (List Char) → List Char
  | [] => before
  | [last] => before ++ ':' :: last
  | name :: after :: rest =>
    if name.any Text.isBlank then before ++ ':' :: withEmojiFrom name (after :: rest)
    else before ++ shownCode name ++ withEmojiFrom after rest

def withEmoji (text : List Char) : List Char :=
  let pieces := Text.cutAt ':' text
  withEmojiFrom pieces.first pieces.others

end ImportBoundary.Markup
