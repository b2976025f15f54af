/-!
Contract: what can be wrong with the tags of a text.

Owns the causes and their wording. Positions count characters from zero.
-/

namespace ImportBoundary.Markup

/-- What is wrong with a tag. -/
inductive Fault where
  /-- A closing tag without a name, at a position, while no tag is open. -/
  | nothingToClose (position : Nat)
  /-- A closing tag, at a position, while no tag of its name is open. -/
  | notOpen (body : String) (position : Nat)
  /-- A colour that is written by its three parts, one of which is empty. -/
  | emptyColourPart
deriving DecidableEq, Repr

/-- The wording of a fault. -/
def Fault.message : Fault → String
  | .nothingToClose position =>
    "closing tag '[/]' at position " ++ toString position ++ " has nothing to close"
  | .notOpen body position =>
    "closing tag '[" ++ body ++ "]' at position " ++ toString position ++
      " doesn't match any open tag"
  | .emptyColourPart => "invalid literal for int() with base 10: ''"

end ImportBoundary.Markup
