import ImportBoundary.Project.Settings
import ImportBoundary.Files.Glob
import ImportBoundary.Path.Relative
import ImportBoundary.Syntax.Language
import ImportBoundary.Boundary.Module

/-!
Contract: the source files of a project.

Owns `isExcluded`, what the exclude entries of the settings leave out, and `sourceFiles`, the sources
that the settings name, in the order of their paths and each once.
-/

namespace ImportBoundary.Project

/-- What is included when the settings name neither files nor patterns. -/
def defaultIncludes : List String := ["**/*"]

/-- What is excluded when the settings exclude nothing. -/
def defaultExcludes : List String := [FilePath.dependencyDirectory, boundaryDirectory.text]

def withoutFinalSlashes (text : String) : String :=
  String.ofList (text.toList.reverse.dropWhile (· = '/')).reverse

/-- Whether an exclude entry leaves out a path: it matches the path, or names a directory above
it. -/
def excludes (entry path : String) : Bool :=
  let pattern := withoutFinalSlashes entry
  Wildcard.fits pattern path || (pattern ++ "/").toList.isPrefixOf path.toList

/-- Whether one of the exclude entries leaves out a path seen from the root of the project. -/
def isExcluded (path : String) (entries : List String) : Bool :=
  entries.any fun entry => excludes entry path

/-- The paths that an include entry names: the files below a directory, or the matches of a
pattern. -/
def includedBy (disk : Disk) (root : FilePath) (entry : String) :
    Except Failure (List FilePath) := do
  let target := root.joinText entry
  if ← disk.isDirectory target then .ok (disk.filesBelow target) else Glob.select disk root entry

def Settings.includesInForce (settings : Settings) : List String :=
  if !settings.includes.isEmpty then settings.includes
  else if !settings.files.isEmpty then []
  else defaultIncludes

def Settings.excludesInForce (settings : Settings) : List String :=
  if settings.excludes.isEmpty then defaultExcludes else settings.excludes

/-- A path as seen from the root of the project. -/
def Settings.relative (settings : Settings) (disk : Disk) (path : FilePath) : String :=
  (FilePath.relativeTo (settings.root.absolute disk.here) (path.absolute disk.here)).text

/-- Whether a path that the settings name is a source of the project. -/
def Settings.selects (settings : Settings) (disk : Disk) (path : FilePath) :
    Except Failure Bool := do
  let isFile ← disk.isFile path
  .ok (isFile && path.isProjectSource &&
    !isExcluded (settings.relative disk path) settings.excludesInForce)

def sourceFiles (disk : Disk) (settings : Settings) : Except Failure (List FilePath) := do
  let included ← settings.includesInForce.mapM (includedBy disk settings.root)
  let candidates := settings.files.map settings.root.joinText ++ included.flatten
  let selected ← candidates.filterM (settings.selects disk)
  .ok (selected.mergeSort FilePath.atMost).eraseDups

end ImportBoundary.Project
