import ImportBoundary.Text.Utf8

/-!
Contract: texts of paths that are not UTF-8.

A path is read from octets. Each octet that belongs to no character is kept in its text as a surrogate
that stands alone, `U+DC00` more than the octet. No `Char` is a surrogate, so other characters stand for
them here, and `StrayOctets` says which. Only paths, and the specifiers made of them, hold such
characters: the text of a file is decoded strictly. Apart from writing, a character that stands for an
octet is a character like any other.

Owns `Utf8.write`, which writes a text strictly, and the fault of a text that cannot be written.
-/

namespace ImportBoundary

/-- Which characters stand for octets of a path that belong to no character. None is ASCII. -/
class StrayOctets where
  octet? : Char → Option UInt8
  ascii : ∀ {character : Char}, character.toNat < 0x80 → octet? character = none

namespace StrayOctets

/-- Every path is UTF-8. -/
@[reducible] def absent : StrayOctets where
  octet? _ := none
  ascii _ := rfl

/-- The last characters of the last private area stand for octets. -/
@[reducible] def privateUse : StrayOctets where
  octet? character :=
    if 0x10ff80 ≤ character.toNat then some (character.toNat - 0x10ff00).toUInt8 else none
  ascii isAscii := if_neg (by omega)

end StrayOctets

namespace Utf8

/-- The first stray octets of a text that stand one after the other: the first of them, and the
positions of the first and the last. -/
structure Unwritable where
  octet : UInt8
  first : Nat
  last : Nat
deriving DecidableEq, Repr

/-- A single octet is named by its surrogate and position, several by their positions only. -/
def Unwritable.message (fault : Unwritable) : String :=
  if fault.first = fault.last then
    "'utf-8' codec can't encode character '\\udc" ++ String.ofList (hexOctet fault.octet) ++
      "' in position " ++ toString fault.first ++ ": surrogates not allowed"
  else
    "'utf-8' codec can't encode characters in position " ++ toString fault.first ++ "-" ++
      toString fault.last ++ ": surrogates not allowed"

variable [StrayOctets]

/-- The first stray octets among characters of which the first stands at `position`. -/
def unwritableFrom (position : Nat) : List Char → Option Unwritable
  | [] => none
  | character :: rest =>
    match StrayOctets.octet? character with
    | none => unwritableFrom (position + 1) rest
    | some octet =>
      let more := rest.takeWhile fun next => (StrayOctets.octet? next).isSome
      some ⟨octet, position, position + more.length⟩

/-- The octets of a text, unless it holds stray ones. -/
def write (text : String) : Except Unwritable (List UInt8) :=
  match unwritableFrom 0 text.toList with
  | none => .ok (encode text)
  | some fault => .error fault

end Utf8

end ImportBoundary
