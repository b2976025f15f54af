import ImportBoundary.Import.Marked
import ImportBoundary.Text.Quoted
import ImportBoundary.Text.Stray

/-!
Contract: marked imports pointed at new files.

Owns `Source.redirect`, which replaces the source of each given import by a new specifier between
the same quotes and removes its attribute clause. Edits are ranges of octets; everything outside
them is kept. A specifier that holds stray octets of a path cannot be written, and nothing is redirected.
-/

namespace ImportBoundary

/-- The octets from `start` up to `stop` give way to others. -/
structure Edit where
  start : Nat
  stop : Nat
  replacement : List UInt8
deriving DecidableEq, Repr

def Edit.apply (octets : List UInt8) (edit : Edit) : List UInt8 :=
  octets.take edit.start ++ edit.replacement ++ octets.drop edit.stop

/-- The quote that a source text begins with, or else a single one. -/
def quoteOf (text : String) : Char :=
  match text.toList with
  | [] => Text.singleQuote
  | first :: _ => if first = Text.singleQuote ∨ first = '"' then first else Text.singleQuote

/-- The octets of a new specifier, between quotes of the sort that the source of an import begins
with. -/
def MarkedImport.replacement [StrayOctets] (marked : MarkedImport) (specifier : String) :
    Except Failure (List UInt8) :=
  (Utf8.write (Text.quoted (quoteOf marked.parts.source) specifier)).mapError .unwritable

/-- The two edits that put octets in place of the source of an import and remove everything from there
to the end of its attribute clause. -/
def MarkedImport.edits (marked : MarkedImport) (replacement : List UInt8) : List Edit := [
  ⟨marked.sourceNode.start, marked.sourceNode.stop, replacement⟩,
  ⟨marked.sourceNode.stop, marked.attributeNode.stop, []⟩]

/-- Edits ordered from the end of the source to its beginning; those that begin together keep their
order. -/
def lastFirst (edits : List Edit) : List Edit :=
  edits.mergeSort fun left right => right.start ≤ left.start

/-- The source text with each given import pointed at its new specifier. -/
def Source.redirect [StrayOctets] (source : Source) (replacements : List (MarkedImport × String)) :
    Except Failure String := do
  let edits ← replacements.mapM fun (marked, specifier) => do
    .ok (marked.edits (← marked.replacement specifier))
  (Utf8.decode ((lastFirst edits.flatten).foldl Edit.apply source.octets)).mapError .undecodable

end ImportBoundary
