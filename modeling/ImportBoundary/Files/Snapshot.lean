import ImportBoundary.Files.Tree
import ImportBoundary.Syntax.Source

/-!
Contract: a project written as one JSON document: its files, a working directory, and the syntax
trees of its sources.

Owns `Snapshot.ofText?`. The members of the document are `directory`, a path; `files`, an object of
texts by their paths; and `trees`, a list of objects with the `language` and the `source` of a tree
and its `rows`. A row is the depth, the kind, the start and the stop of a node, one for a named node
and two for a missing one added up, and its field if it has one.
-/

namespace ImportBoundary

/-- A project to work on: its disk, and the trees of its sources. -/
structure Snapshot where
  disk : Disk
  trees : List (Language × List UInt8 × Node)
deriving Repr

namespace Snapshot

def textOf? : Json.Value → Option String
  | .text characters => some characters
  | _ => none

def numberOf? : Json.Value → Option Nat
  | .number literal => literal.toNat?
  | _ => none

def elementsOf? : Json.Value → Option (List Json.Value)
  | .list elements => some elements
  | _ => none

def rowOf? (value : Json.Value) : Option Row := do
  match ← elementsOf? value with
  | depth :: kind :: start :: stop :: flags :: field =>
    let bits ← numberOf? flags
    some {
      depth := ← numberOf? depth
      kind := ← textOf? kind
      start := ← numberOf? start
      stop := ← numberOf? stop
      named := bits % 2 == 1
      missing := bits / 2 % 2 == 1
      field := field.head?.bind textOf? }
  | _ => none

def treeOf? (value : Json.Value) : Option (Language × List UInt8 × Node) := do
  let name ← (value.member? "language").bind textOf?
  let language ← (Language.ofName name).toOption
  let source ← (value.member? "source").bind textOf?
  let rows ← ((value.member? "rows").bind elementsOf?).bind fun rows => rows.mapM rowOf?
  some (language, Utf8.encode source, ← Node.ofRows? rows)

def plantAll : List (String × String) → Action Disk Unit
  | [] => pure ()
  | (path, content) :: rest => do
    Disk.plant (FilePath.ofText path) (Utf8.encode content)
    plantAll rest

/-- The texts of an object by their names. -/
def textsOf? : Json.Value → Option (List (String × String))
  | .object members => members.mapM fun member =>
      (textOf? member.2).map fun content => (member.1, content)
  | _ => none

/-- The snapshot that a document writes. -/
def ofValue? (value : Json.Value) : Option Snapshot := do
  let directory := FilePath.ofText (← (value.member? "directory").bind textOf?)
  let files ← (value.member? "files").bind textsOf?
  let trees ← ((value.member? "trees").bind elementsOf?).bind fun trees => trees.mapM treeOf?
  let build : Action Disk Unit := do
    Disk.ensureDirectories directory.names.length directory
    plantAll files
  match build ⟨⟨[], 0⟩, directory.names⟩ with
  | .ok _ disk => some ⟨disk, trees⟩
  | .error _ _ => none

def ofText? (text : String) : Option Snapshot :=
  (Json.read text).toOption.bind ofValue?

/-- The parser that knows the trees of a snapshot. Any other source has an empty tree. -/
def parser (snapshot : Snapshot) : Parser := fun language octets =>
  match snapshot.trees.find? fun tree => tree.1 == language && tree.2.1 == octets with
  | some tree => tree.2.2
  | none => ⟨"program", 0, octets.length, true, false, none, []⟩

/-- The files of a disk that another one lacks or holds with other octets, as paths. -/
def newFiles (before after : Disk) : List (FilePath × List UInt8) :=
  after.tree.entries.filterMap fun (names, entry) =>
    match entry, before.tree.at? names with
    | .file octets written, some (.file _ earlier) =>
      if written = earlier then none else some (⟨.root, names⟩, octets)
    | .file octets _, _ => some (⟨.root, names⟩, octets)
    | .directory _, _ => none

end Snapshot

end ImportBoundary
