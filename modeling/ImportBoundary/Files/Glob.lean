import ImportBoundary.Files.Tree
import ImportBoundary.Pattern.Wildcard

/-!
Contract: path patterns over a tree of files.

Owns the parts of a pattern, their reading from text, and `Glob.select`, the paths below a directory
that a pattern matches. A plain name must exist, a wildcard is matched against the names of a
directory, and `**` stands for a directory and all those below it. Whatever is not last in a pattern
must be a directory.
-/

namespace ImportBoundary.Glob

/-- One part of a path pattern. -/
inductive Part where
  /-- This name. -/
  | name (text : String)
  /-- Any name that a wildcard fits. -/
  | wildcard (pattern : String)
  /-- The directory itself and the directories below it. -/
  | anyDepth
  /-- The directory itself: the end of a pattern that ends in a slash. -/
  | here
deriving DecidableEq, Repr

/-- Whether `**` occurs in a text. -/
def holdsDoubleStar : List Char → Bool
  | '*' :: '*' :: _ => true
  | _ :: rest => holdsDoubleStar rest
  | [] => false

/-- The part that a name of a pattern writes. -/
def Part.ofName (name : String) : Except Failure Part :=
  if name = "**" then .ok .anyDepth
  else if holdsDoubleStar name.toList then .error .partialDoubleStar
  else if Wildcard.isPattern name then .ok (.wildcard name)
  else .ok (.name name)

/-- The parts of a pattern, which must not begin at the root. -/
def parts (pattern : String) : Except Failure (List Part) :=
  let path := FilePath.ofText pattern
  if path.isAbsolute then .error .absolutePattern
  else do
    let named ← path.names.mapM Part.ofName
    .ok (if pattern.toList.getLast? = some '/' then named ++ [.here] else named)

/-- Whether a name stands for something: anything at the end of a pattern, and a directory before
it. -/
def nameLeadsOn (disk : Disk) (isLast : Bool) (path : FilePath) : Except Failure Bool :=
  if isLast then disk.exists? path else disk.isDirectory path

/-- The paths at and below a directory that the parts match. -/
def selectParts (disk : Disk) : List Part → FilePath → Except Failure (List FilePath)
  | [], directory => .ok [directory]
  | .here :: _, directory => .ok [directory]
  | .name text :: rest, directory => do
    let path := directory.child text
    if ← nameLeadsOn disk rest.isEmpty path then selectParts disk rest path else .ok []
  | .wildcard pattern :: rest, directory => do
    let matching := (disk.children directory).filter fun (name, entry) =>
      Wildcard.fits pattern name && (rest.isEmpty || entry.isDirectory)
    let found ← matching.mapM fun (name, _) => selectParts disk rest (directory.child name)
    .ok found.flatten
  | .anyDepth :: rest, directory => do
    let found ← (disk.directoriesFrom directory).mapM (selectParts disk rest)
    .ok found.flatten

/-- The paths below a directory that a pattern matches. -/
def select (disk : Disk) (directory : FilePath) (pattern : String) :
    Except Failure (List FilePath) := do
  let sought ← parts pattern
  if ← disk.isDirectory directory then selectParts disk sought directory else .ok []

end ImportBoundary.Glob
