import ImportBoundary.Files.Tree
import ImportBoundary.Props.Analysis

/-!
Contract: the parsed sources of a program, read again when their files change.

Owns the cache and `Program.load`, which answers a source from the cache as long as the time of
writing of its file is the one it was read at. A file that is missing is dropped from the cache.

Main definition to reason with: `Program.load` is a function of the program and the disk; the disk is
only read.
-/

namespace ImportBoundary

/-- A parsed source with the time of writing of its file, and the number of its reading. -/
structure LoadedSource where
  written : Nat
  serial : Nat
  source : Source
deriving Repr

/-- The files that a program begins with, the sources read so far by their absolute paths, and how
many readings there were. -/
structure Program where
  rootFiles : List FilePath
  loaded : List (FilePath × LoadedSource)
  readings : Nat
deriving Repr, Inhabited

namespace Program

/-- A program of some files, seen from the working directory. -/
def ofFiles (disk : Disk) (files : List FilePath) : Program :=
  ⟨files.map fun file => file.absolute disk.here, [], 0⟩

/-- The program without what it has read of a file. -/
def forget (program : Program) (path : FilePath) : Program :=
  { program with loaded := program.loaded.filter fun entry => entry.1 ≠ path }

/-- The program with what it has read of a file, and this reading counted. -/
def remember (program : Program) (path : FilePath) (written : Nat) (source : Source) :
    LoadedSource × Program :=
  let reading : LoadedSource := ⟨written, program.readings, source⟩
  (reading, { program.forget path with
    loaded := (path, reading) :: (program.forget path).loaded
    readings := program.readings + 1 })

/-- Read and parse a file, whatever the cache holds. -/
def reload (parser : Parser) (disk : Disk) (path : FilePath) (written : Nat) :
    Action Program LoadedSource := fun program =>
  match disk.readOctets path >>= fun octets => Source.parse parser octets path none with
  | .error failure => .error failure program
  | .ok source =>
    let (reading, remembered) := program.remember path written source
    .ok reading remembered

/-- The parsed source of a file, if it is a source of a project and exists. -/
def load (parser : Parser) (disk : Disk) (file : String) :
    Action Program (Option LoadedSource) := fun program =>
  let path := (FilePath.ofText file).absolute disk.here
  if !path.isProjectSource then .ok none program
  else
    match disk.entryAt path with
    | .error (.refused ⟨.missing, _⟩) => .ok none (program.forget path)
    | .error failure => .error failure program
    | .ok (_, entry) =>
      match (program.loaded.lookup path).filter fun known => known.written = entry.written with
      | some known => .ok (some known) program
      | none =>
        match reload parser disk path entry.written program with
        | .ok reading remembered => .ok (some reading) remembered
        | .error failure unchanged => .error failure unchanged

/-- The parsed sources of some files, without those that are none. -/
def loadAll (parser : Parser) (disk : Disk) : List FilePath → Action Program (List Source)
  | [] => pure []
  | file :: rest => do
    let reading ← load parser disk file.text
    let others ← loadAll parser disk rest
    pure ((reading.map LoadedSource.source).toList ++ others)

/-- The findings about the syntax of a file. -/
def syntaxDiagnostics (parser : Parser) (disk : Disk) (file : String) :
    Action Program (List Diagnostic) := do
  match ← load parser disk file with
  | some reading => pure reading.source.syntaxDiagnostics
  | none => pure []

/-- The findings about the props of a file. -/
def propDiagnostics (parser : Parser) (lookup : TypeLookup) (disk : Disk) (file : String) :
    Action Program (List Diagnostic) := do
  let reading ← load parser disk file
  pure (withPropDiagnostics [] (reading.map LoadedSource.source) (some lookup))

end Program

end ImportBoundary
