import ImportBoundary.Files.Tree

/-!
Contract: where a project begins.

Owns `findRoot`, the nearest directory at or above a start that holds a package manifest, and
`findSettings`, the nearest settings file. "Above" is lexical: a `..` in the start is a name like
any other.
-/

namespace ImportBoundary.Project

/-- The file that marks the root of a project. -/
def manifestName : String := "package.json"

/-- The file that holds the settings of a project. -/
def settingsName : String := "tsconfig.json"

/-- The start as an absolute path: the given one, or else the working directory. -/
def startOf (disk : Disk) (start : Option FilePath) : FilePath :=
  (start.getD disk.here).absolute disk.here

/-- The nearest directory at or above an absolute path that holds a file of this name. -/
def nearestHolding (disk : Disk) (name : String) (start : FilePath) :
    Except Failure (Option FilePath) :=
  start.withAncestors.findM? fun directory => disk.isFile (directory.joinText name)

/-- The root of the project that a start lies in, or the working directory if it lies in none. -/
def findRoot (disk : Disk) (start : Option FilePath) : Except Failure FilePath := do
  let found ← nearestHolding disk manifestName (startOf disk start)
  .ok (found.getD disk.here)

def findSettings (disk : Disk) (start : Option FilePath) (name : String) :
    Except Failure FilePath := do
  match ← nearestHolding disk name (startOf disk start) with
  | some directory => .ok (directory.joinText name)
  | none => .error (.settingsNotFound (startOf disk start) name)

end ImportBoundary.Project
