import ImportBoundary.Props.Serializable
import ImportBoundary.Path.Basic
import ImportBoundary.Syntax.Source

/-!
Contract: findings about a place in a file.

Owns the type, its one-line text, and the findings about faulty syntax.
-/

namespace ImportBoundary

/-- A finding: the file, the octets and the line and column, counted from zero, that it is about,
its number and its text. -/
structure Diagnostic where
  file : String
  start : Int
  length : Int
  line : Int
  column : Int
  code : Int
  message : String
  reason : Option RejectionReason
deriving DecidableEq, Repr

namespace Diagnostic

/-- The category of every finding. -/
def category : String := "error"

/-- The finding as a text that begins with its place, counted from one. The file is written as seen
from the given directory if it lies below it. -/
def format (diagnostic : Diagnostic) (relativeTo : Option FilePath) : String :=
  let file := FilePath.ofText diagnostic.file
  let shown := match relativeTo.bind fun base => base.namesBelow? file with
    | some names => FilePath.mk .none names
    | none => file
  shown.text ++ ":" ++ toString (diagnostic.line + 1) ++ ":" ++ toString (diagnostic.column + 1) ++
    " - " ++ category ++ " CB" ++ toString diagnostic.code ++ ": " ++ diagnostic.message

/-- A finding about a node. -/
def atNode (source : Source) (node : Node) (code : Int) (message : String)
    (reason : Option RejectionReason) : Diagnostic :=
  let place := source.place node
  { file := source.path.text
    start := node.start
    length := (node.stop : Int) - node.start
    line := place.row
    column := place.column
    code := code
    message := message
    reason := reason }

/-- The number of findings about syntax. -/
def syntaxCode : Int := 100000

/-- The finding about a faulty node. -/
def ofFault (source : Source) (node : Node) : Diagnostic :=
  atNode source node syntaxCode
    (if node.missing then "Missing '" ++ node.kind ++ "'." else "Unexpected syntax.") none

end Diagnostic

/-- The findings about the syntax of a source, in document order. -/
def Source.syntaxDiagnostics (source : Source) : List Diagnostic :=
  source.syntaxFaults.map (Diagnostic.ofFault source)

end ImportBoundary
