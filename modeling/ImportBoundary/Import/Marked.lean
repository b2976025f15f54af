import ImportBoundary.Import.Parts
import ImportBoundary.Syntax.Source

/-!
Contract: the imports of a source that are marked with the attribute `use: 'client'`.

Owns the recognition of the mark, the reading of an import's parts from its nodes, and
`Source.markedImports`, the marked imports in document order. The mark is any entry of the first
attribute object whose key is the bare or quoted word `use` and whose value is a string literal
with the content `client`.
-/

namespace ImportBoundary

/-- A marked import: its statement, the nodes of its source and of its attribute clause, and its
parts. -/
structure MarkedImport where
  node : Node
  sourceNode : Node
  attributeNode : Node
  parts : ImportParts
deriving Repr, Inhabited

def markKey : String := "use"

def markValue : String := "client"

namespace Source

/-- Whether an entry of an attribute object is the mark. -/
def isMark (source : Source) (entry : Node) : Except Failure Bool :=
  if entry.kind != "pair" then .ok false
  else
    match entry.child? "key", entry.child? "value" with
    | some key, some value =>
      if value.kind != "string" then .ok false
      else do
        let keyText ← if key.kind == "string" then source.unquoted key else source.text key
        if keyText = markKey then
          let valueText ← source.unquoted value
          .ok (valueText = markValue)
        else .ok false
    | _, _ => .ok false

/-- Whether some entry is the mark. No entry after the first mark is looked at. -/
def anyMark (source : Source) : List Node → Except Failure Bool
  | [] => .ok false
  | entry :: rest => do
    if ← source.isMark entry then .ok true else source.anyMark rest

def isMarked (source : Source) (statement : Node) : Except Failure Bool :=
  match (statement.firstOfKind? "import_attribute").bind (·.firstOfKind? "object") with
  | none => .ok false
  | some attributes => source.anyMark attributes.namedChildren

/-- The entry of a braced import list that a node writes. -/
def specifierOf (source : Source) (node : Node) : Except Failure Specifier := do
  let name ← source.text ((node.child? "name").getD node)
  let renamed ← source.text? (node.child? "alias")
  .ok ⟨name, renamed, node.hasToken "type"⟩

/-- The parts read so far, with those that one child of the import clause adds. -/
def addBinding (source : Source) (parts : ImportParts) (child : Node) :
    Except Failure ImportParts :=
  if child.kind == "identifier" then do
    let name ← source.text child
    .ok { parts with defaultName := some name }
  else if child.kind == "namespace_import" then
    match child.firstOfKind? "identifier" with
    | none => .ok parts
    | some identifier => do
      let name ← source.text identifier
      .ok { parts with namespaceName := some name }
  else if child.kind == "named_imports" then do
    let specifiers ←
      (child.namedChildren.filter fun entry => entry.kind == "import_specifier").mapM
        source.specifierOf
    .ok { parts with specifiers := parts.specifiers ++ specifiers }
  else .ok parts

def markedImport? (source : Source) (statement : Node) : Except Failure (Option MarkedImport) :=
  if statement.kind != "import_statement" then .ok none
  else do
    if ← source.isMarked statement then
      match statement.child? "source", statement.firstOfKind? "import_attribute" with
      | some sourceNode, some attributeNode =>
        let clause := statement.firstOfKind? "import_clause"
        let bare : ImportParts := ⟨"", none, none, [], statement.hasToken "type", clause.isSome⟩
        let bound ← ((clause.map Node.namedChildren).getD []).foldlM source.addBinding bare
        let sourceText ← source.text sourceNode
        .ok (some ⟨statement, sourceNode, attributeNode, { bound with source := sourceText }⟩)
      | _, _ => .ok none
    else .ok none

/-- The marked imports in document order. -/
def markedImports (source : Source) : Except Failure (List MarkedImport) :=
  gather source.markedImport? source.root.walk

end Source

end ImportBoundary
