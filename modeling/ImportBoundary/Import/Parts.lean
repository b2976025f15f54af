/-!
Contract: the parts of an import statement, and the two statements written from them.

Owns `ImportParts.normalized`, the statement without its attribute clause, blanks and comments, so
that two spellings of one import agree, and `ImportParts.exportStatement`, the statement that hands
the imported names on. An empty name counts as no name.
-/

namespace ImportBoundary

/-- One entry of a braced import list. -/
structure Specifier where
  name : String
  renamed : Option String
  typeOnly : Bool
deriving DecidableEq, Repr, Inhabited

def nonEmpty (name : Option String) : Option String :=
  name.filter (· ≠ "")

namespace Specifier

/-- The name that the entry binds. -/
def localName (specifier : Specifier) : String :=
  (nonEmpty specifier.renamed).getD specifier.name

/-- The entry as it is written. -/
def render (specifier : Specifier) : String :=
  let kind := if specifier.typeOnly then "type " else ""
  match nonEmpty specifier.renamed with
  | some renamed => kind ++ specifier.name ++ " as " ++ renamed
  | none => kind ++ specifier.name

end Specifier

/-- What an import statement says: where from, with its quotes, and what it binds. -/
structure ImportParts where
  source : String
  defaultName : Option String
  namespaceName : Option String
  specifiers : List Specifier
  typeOnly : Bool
  hasClause : Bool
deriving DecidableEq, Repr, Inhabited

def braced (entries : List String) : String :=
  let joined := String.intercalate ", " entries
  if joined = "" then "\x7b\x7d" else "\x7b " ++ joined ++ " \x7d"

namespace ImportParts

/-- The names that the statement binds, but for a namespace. -/
def localNames (parts : ImportParts) : List String :=
  parts.specifiers.map Specifier.localName ++ (nonEmpty parts.defaultName).toList

/-- The word that marks a statement which imports types only. -/
def kind (parts : ImportParts) : String :=
  if parts.typeOnly then "type " else ""

/-- The bindings of the statement, one text for each of its groups. A namespace leaves no room for
a braced list, and without any binding the list is empty. -/
def bindingTexts (parts : ImportParts) : List String :=
  let first := (nonEmpty parts.defaultName).toList
  match nonEmpty parts.namespaceName with
  | some name => first ++ ["* as " ++ name]
  | none =>
    if parts.specifiers.isEmpty && !first.isEmpty then first
    else first ++ [braced (parts.specifiers.map Specifier.render)]

/-- The statement written from its parts. -/
def normalized (parts : ImportParts) : String :=
  if parts.hasClause then
    "import " ++ parts.kind ++ String.intercalate ", " parts.bindingTexts ++ " from " ++
      parts.source ++ ";"
  else "import " ++ parts.source ++ ";"

/-- The entries of the statement that hands the imported names on, with the given members of the
namespace. -/
def exportEntries (parts : ImportParts) (members : List String) : List String :=
  ((nonEmpty parts.defaultName).map fun _ => "default").toList ++
    match nonEmpty parts.namespaceName with
    | some _ => members
    | none => parts.specifiers.map Specifier.render

/-- The statement that hands the imported names on. -/
def exportStatement (parts : ImportParts) (members : List String) : String :=
  "export " ++ parts.kind ++ braced (parts.exportEntries members) ++ " from " ++ parts.source ++ ";"

end ImportParts

end ImportBoundary
