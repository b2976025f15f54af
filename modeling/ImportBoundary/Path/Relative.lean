import ImportBoundary.Path.Basic

/-!
Contract: how one absolute path is reached from another.

Owns `normalNames`, which lets `..` cancel the name before it, `steps`, the shortest walk from one
directory to a path, and `specifier`, that walk as the text of an import.

Main definitions to reason with: `commonLength` is the length of the longest common beginning, and
`steps` is as many `..` as the start has names beyond it, then the names of the target beyond it.
-/

namespace ImportBoundary.FilePath

/-- One more name on a stack of names, newest first: `..` takes the newest away, and takes nothing
from an empty stack. -/
def pushName (stack : List String) (name : String) : List String :=
  if name = ".." then stack.drop 1 else name :: stack

/-- The names of an absolute path once every `..` is resolved lexically. -/
def normalNames (path : FilePath) : List String :=
  (path.names.foldl pushName []).reverse

/-- The length of the longest common beginning. -/
def commonLength : List String → List String → Nat
  | left :: leftRest, right :: rightRest =>
    if left = right then commonLength leftRest rightRest + 1 else 0
  | _, _ => 0

/-- The walk from the names of a directory to those of a target: up to the last common directory,
then down. -/
def stepsBetween (start target : List String) : List String :=
  let common := commonLength start target
  List.replicate (start.length - common) ".." ++ target.drop common

/-- The walk from one absolute directory to an absolute path. -/
def steps (start target : FilePath) : List String :=
  stepsBetween start.normalNames target.normalNames

/-- The target as seen from the start, as a path. -/
def relativeTo (start target : FilePath) : FilePath :=
  ⟨.none, steps start target⟩

/-- Whether a text is explicitly relative. -/
def isExplicit (text : String) : Bool :=
  "./".toList.isPrefixOf text.toList || "../".toList.isPrefixOf text.toList

/-- The text by which the file at `importer` imports the file at `target`: always explicitly
relative. -/
def specifier (importer target : FilePath) : String :=
  let relative := (relativeTo importer.parent target).text
  if isExplicit relative then relative else "./" ++ relative

end ImportBoundary.FilePath
