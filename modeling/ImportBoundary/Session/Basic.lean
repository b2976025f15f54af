import ImportBoundary.Session.Cache
import ImportBoundary.Project.Discovery
import ImportBoundary.Boundary.Transform

/-!
Contract: a build session over the files of a project.

Owns the session, which keeps what it has written and what it has read between files, and what it
does with a file: transform it, check it, or both with a report.

Main definition to reason with: `process` turns the failures that one file can cause into the error
of its report, so that the next file is still looked at.
-/

namespace ImportBoundary

variable [StrayOctets]

/-- Where a session keeps the modules it generates. -/
inductive Keeping where
  | onDisk
  | inMemory
deriving DecidableEq, Repr, Inhabited

/-- Everything that generated modules may go to. -/
structure Shelves where
  disk : Disk
  shelf : Shelf
deriving Repr

namespace Shelves

def writeToDisk (path : FilePath) (content : String) : Action Shelves Unit := fun shelves =>
  match Disk.writeModule path content shelves.disk with
  | .ok _ disk => .ok () { shelves with disk := disk }
  | .error failure disk => .error failure { shelves with disk := disk }

/-- The store that a session keeps its modules in. -/
def store : Keeping → Store Shelves
  | .onDisk => ⟨writeToDisk⟩
  | .inMemory => ⟨fun path content => modify fun shelves =>
      { shelves with shelf := shelves.shelf.put path content }⟩

end Shelves

/-- A build session: the root of its project, where it keeps modules, what it has written, and the
program it checks. -/
structure Session where
  root : FilePath
  keeping : Keeping
  build : Build Shelves
  program : Program
deriving Repr

namespace Session

/-- A session on the project with this root that has done nothing yet. -/
def start (disk : Disk) (root : FilePath) (keeping : Keeping) (files : List FilePath) :
    Session where
  root := root.absolute disk.here
  keeping := keeping
  build := ⟨Registry.empty, disk, Shelf.empty⟩
  program := Program.ofFiles disk files

/-- A session on the project that the working directory lies in. -/
def startHere (disk : Disk) (keeping : Keeping) (files : List FilePath) : Except Failure Session := do
  .ok (start disk (← Project.findRoot disk none) keeping files)

def disk (session : Session) : Disk :=
  session.build.store.disk

def withDisk (session : Session) (disk : Disk) : Session :=
  { session with build := ⟨session.build.registry, ⟨disk, session.build.store.shelf⟩⟩ }

def generated (session : Session) : List FilePath :=
  session.build.registry.paths

def transforms (path : FilePath) : Bool :=
  path.isProjectSource

def onProgram {α : Type} (action : Disk → Action Program α) : Action Session α := fun session =>
  match action session.disk session.program with
  | .ok answer program => .ok answer { session with program := program }
  | .error failure program => .error failure { session with program := program }

def transformText (parser : Parser) (path : FilePath) (text : String) :
    Action Session String := fun session =>
  match transform parser (Shelves.store session.keeping) session.disk.here session.root path text
    none session.build with
  | .ok answer build => .ok answer { session with build := build }
  | .error failure build => .error failure { session with build := build }

/-- The text of a file, with every line end a line feed. -/
def readText (path : FilePath) : Action Session String := fun session =>
  match session.disk.readText path with
  | .ok text => .ok text session
  | .error failure => .error failure session

def transformFile (parser : Parser) (path : FilePath) : Action Session String := do
  transformText parser path (← readText path)

/-- The findings about the props of a file. -/
def check (parser : Parser) (path : FilePath) : Action Session (List Diagnostic) :=
  onProgram fun disk => Program.propDiagnostics parser Source.typeAt disk path.text

end Session

/-- What became of a file: whether its text changed, what was found, or what went wrong. -/
structure FileReport where
  path : FilePath
  changed : Bool
  diagnostics : List Diagnostic
  error : Option Failure
deriving DecidableEq, Repr

namespace Session

/-- Transform a file: whether its text changes, or the failure that concerns the file. Any other
failure ends the action. -/
def attempt (parser : Parser) (path : FilePath) : Action Session (Except Failure Bool) :=
  fun session =>
    let comparison : Action Session Bool := do
      let text ← readText path
      let transformed ← transformText parser path text
      pure (transformed != text)
    match comparison session with
    | .ok changed after => .ok (.ok changed) after
    | .error failure after =>
      if failure.concernsFile then .ok (.error failure) after else .error failure after

/-- Transform a file and check it. A file that is no source of the project is left alone, and one
that cannot be transformed is not checked. -/
def process (parser : Parser) (path : FilePath) : Action Session FileReport := do
  if !transforms path then pure ⟨path, false, [], none⟩
  else
    match ← attempt parser path with
    | .error failure => pure ⟨path, false, [], some failure⟩
    | .ok changed => do
      let found ← check parser path
      pure ⟨path, changed, found, none⟩

def processEach (parser : Parser) : List FilePath → Action Session (List FileReport)
  | [] => pure []
  | path :: rest => do
    let report ← process parser path
    let others ← processEach parser rest
    pure (report :: others)

def processAll (parser : Parser) (paths : List FilePath) : Action Session (List FileReport) :=
  processEach parser (paths.eraseDups.mergeSort FilePath.atMost)

end Session

end ImportBoundary
