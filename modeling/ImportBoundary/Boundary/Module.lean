import ImportBoundary.Digest.Sha256
import ImportBoundary.Import.Members
import ImportBoundary.Text.Quoted

/-!
Contract: boundary modules, the generated files that stand on the client side of a marked import.

Owns the module type and its text, where modules are kept, how one is named after the import that
needs it, and `Source.boundaryOf`, which makes the module of a marked import.
-/

namespace ImportBoundary

/-- A generated module that hands the names of an import on. -/
structure BoundaryModule where
  id : String
  path : FilePath
  exportStatement : String
  directive : String
deriving DecidableEq, Repr

/-- The directive that makes a module a client module. -/
def clientDirective : String := "use client"

/-- The text of a module: its directive in single quotes on a line of its own, and its one
statement. -/
def BoundaryModule.content (boundary : BoundaryModule) : String :=
  Text.quoted Text.singleQuote boundary.directive ++ ";\n" ++ boundary.exportStatement

def generatedDirectory : String := ".generated"

/-- The directory of boundary modules, seen from the project root. -/
def boundaryDirectory : FilePath := ⟨.none, [generatedDirectory, "boundaries"]⟩

/-- The file of the module with an id. -/
def boundaryPath (root : FilePath) (id : String) : FilePath :=
  (root.join boundaryDirectory).joinText (id ++ ".js")

/-- How many digits of a digest name a module. -/
def idLength : Nat := 8

/-- The id of a text: the first digits of its digest. -/
def boundaryId (normalized : String) : String :=
  String.ofList ((Sha256.hex (Utf8.encode normalized)).take idLength)

/-- The id of the module that an import needs. -/
def ImportParts.boundaryId (parts : ImportParts) : String :=
  ImportBoundary.boundaryId parts.normalized

/-- The module of a marked import. -/
def Source.boundaryOf (source : Source) (root : FilePath) (parts : ImportParts) :
    Except Failure BoundaryModule := do
  let statement ← source.exportStatement parts
  .ok ⟨parts.boundaryId, boundaryPath root parts.boundaryId, statement, clientDirective⟩

end ImportBoundary
