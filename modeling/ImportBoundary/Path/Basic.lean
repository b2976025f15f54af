import ImportBoundary.Text.Pieces

/-!
Contract: slash-separated file paths as values.

Owns the type, reading and writing of path texts, and the lexical operations: joining, the
enclosing directory, the last name and its suffix, and the order of paths.

Does not own: what exists (`ImportBoundary.Files`), or the resolution of `..`
(`ImportBoundary.Path.Relative`).
-/

namespace ImportBoundary

/-- Where a path begins: nowhere in particular, at the root, or at the root written with two
slashes, which stays distinct. -/
inductive Anchor where
  | none
  | root
  | doubleRoot
deriving DecidableEq, Repr, Inhabited

/-- The slashes that write an anchor. -/
def Anchor.text : Anchor → String
  | .none => ""
  | .root => "/"
  | .doubleRoot => "//"

/-- A path: its anchor and its names, in which `..` may stand. -/
structure FilePath where
  anchor : Anchor
  names : List String
deriving DecidableEq, Repr, Inhabited

namespace FilePath

/-- The names in a path text: empty pieces and `.` name nothing. -/
def namesOf (text : List Char) : List String :=
  ((Text.cutAt '/' text).all.map String.ofList).filter fun piece => piece ≠ "" ∧ piece ≠ "."

/-- The anchor of a path text: three or more leading slashes count as one. -/
def anchorOf : List Char → Anchor
  | '/' :: '/' :: '/' :: _ => .root
  | '/' :: '/' :: _ => .doubleRoot
  | '/' :: _ => .root
  | _ => .none

def ofText (text : String) : FilePath :=
  ⟨anchorOf text.toList, namesOf text.toList⟩

/-- Names with one slash between them. -/
def joinNames : List String → String
  | [] => ""
  | [name] => name
  | name :: rest => name ++ "/" ++ joinNames rest

/-- The text of a path; the path without anchor and names is a single dot. -/
def text (path : FilePath) : String :=
  match path.anchor, path.names with
  | .none, [] => "."
  | anchor, names => anchor.text ++ joinNames names

/-- Whether the path stands on its own, whatever the working directory. -/
def isAbsolute (path : FilePath) : Bool :=
  path.anchor ≠ .none

/-- The second path seen from the first: an absolute second path replaces it. -/
def join (base path : FilePath) : FilePath :=
  if path.isAbsolute then path else ⟨base.anchor, base.names ++ path.names⟩

/-- A path text seen from a directory. -/
def joinText (base : FilePath) (text : String) : FilePath :=
  base.join (ofText text)

/-- One more name below a path. -/
def child (path : FilePath) (name : String) : FilePath :=
  ⟨path.anchor, path.names ++ [name]⟩

/-- The path seen from the working directory. -/
def absolute (path workingDirectory : FilePath) : FilePath :=
  if path.isAbsolute then path else workingDirectory.join path

/-- The path without its last name; a path without names is its own parent. -/
def parent (path : FilePath) : FilePath :=
  ⟨path.anchor, path.names.dropLast⟩

/-- The path and the paths above it, nearest first. -/
def withAncestors (path : FilePath) : List FilePath :=
  (List.range (path.names.length + 1)).map fun above =>
    ⟨path.anchor, path.names.take (path.names.length - above)⟩

/-- The last name, or nothing. -/
def name (path : FilePath) : String :=
  path.names.getLast?.getD ""

/-- The end of a name from its last dot on, unless that dot is its first or last character. -/
def suffixOfName (name : String) : String :=
  let afterDot := name.toList.reverse.takeWhile (· ≠ '.')
  let count := afterDot.length
  if 0 < count ∧ count + 1 < name.length then String.ofList ('.' :: afterDot.reverse) else ""

/-- The suffix of the last name. -/
def suffix (path : FilePath) : String :=
  suffixOfName path.name

/-- The components that order paths: the anchor of an absolute path, then the names. -/
def components (path : FilePath) : List String :=
  if path.isAbsolute then path.anchor.text :: path.names else path.names

/-- Paths are ordered by their components, from the left, by code point. -/
def atMost (left right : FilePath) : Bool :=
  (List.decidableLE left.components right.components).decide

/-- The names of `path` below `base`, if it lies lexically at or below it. -/
def namesBelow? (base path : FilePath) : Option (List String) :=
  if base.anchor = path.anchor ∧ base.names.isPrefixOf path.names then
    some (path.names.drop base.names.length)
  else none

end FilePath

end ImportBoundary
