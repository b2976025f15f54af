import ImportBoundary.Text.Unprintable
import ImportBoundary.Text.Ranges

/-!
Contract: texts between quotes.

Owns the single quote, `quoted`, which adds quotes and nothing else, and `literal`, which also escapes
whatever could not be told apart on a line: backslashes, the quote itself, and characters that are
not printed as themselves.
-/

namespace ImportBoundary.Text

def singleQuote : Char := Char.ofNat 39

/-- A text between two quotes of the given sort. -/
def quoted (quote : Char) (text : String) : String :=
  String.ofList (quote :: text.toList ++ [quote])

/-- A number in hexadecimal digits, padded with zeros to a width. -/
def hexDigits (width value : Nat) : List Char :=
  let digits := Nat.toDigits 16 value
  List.replicate (width - digits.length) '0' ++ digits

/-- Whether a character is printed as itself. -/
def isPrintable (character : Char) : Bool :=
  !inRanges unprintableRanges character.toNat

/-- A character as it is written within a literal between quotes of the given sort. -/
def escapeChar (quote character : Char) : List Char :=
  let value := character.toNat
  if character = quote ∨ character = '\\' then ['\\', character]
  else if character = '\n' then ['\\', 'n']
  else if character = '\r' then ['\\', 'r']
  else if character = '\t' then ['\\', 't']
  else if isPrintable character then [character]
  else if value < 0x100 then '\\' :: 'x' :: hexDigits 2 value
  else if value < 0x10000 then '\\' :: 'u' :: hexDigits 4 value
  else '\\' :: 'U' :: hexDigits 8 value

/-- A text as a literal: between single quotes, or between double quotes if it holds a single one
and no double one. -/
def literal (text : String) : String :=
  let characters := text.toList
  let quote := if characters.contains singleQuote && !characters.contains '"' then '"'
    else singleQuote
  String.ofList (quote :: characters.flatMap (escapeChar quote) ++ [quote])

end ImportBoundary.Text
