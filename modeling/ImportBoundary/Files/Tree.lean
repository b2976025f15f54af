import ImportBoundary.Failure
import ImportBoundary.Boundary.Registry

/-!
Contract: a tree of files and directories, seen from a working directory.

Owns the tree as a list of entries by their names from the root, the resolution of paths, and the
operations on it: reading, listing, making directories and writing. Every entry carries the time of
its last writing, from a clock that no two writings share.

Main definition to reason with: `FileTree.resolve` walks a path name by name; each name but the last
must be a directory, and `..` leads to the directory that holds it. A name or a path that is too long
is refused, rather than missing.
-/

namespace ImportBoundary

/-- What stands at a path, and when it was last written. -/
inductive Entry where
  | file (octets : List UInt8) (written : Nat)
  | directory (written : Nat)
deriving DecidableEq, Repr

def Entry.isFile : Entry → Bool
  | .file _ _ => true
  | .directory _ => false

def Entry.isDirectory : Entry → Bool
  | .file _ _ => false
  | .directory _ => true

/-- When an entry was last written. -/
def Entry.written : Entry → Nat
  | .file _ time => time
  | .directory time => time

/-- Files and directories by their names from the root, and the time of the next writing. -/
structure FileTree where
  entries : List (List String × Entry)
  clock : Nat
deriving DecidableEq, Repr, Inhabited

namespace FileTree

/-- What stands at names from the root, none of which is `..`. The root is a directory. -/
def at? (tree : FileTree) (names : List String) : Option Entry :=
  if names.isEmpty then some (.directory 0) else tree.entries.lookup names

/-- The most octets that a name can have. -/
def nameLimit : Nat := 255

/-- The octets that the text of a path must stay below. -/
def pathLimit : Nat := 4096

/-- Where a path leads from a place in the tree. A name is looked up only in a directory, so one that
is too long is refused only there. -/
def resolveFrom (tree : FileTree) (here : List String) :
    List String → Except Refusal (List String × Entry)
  | [] =>
    match tree.at? here with
    | none => .error .missing
    | some entry => .ok (here, entry)
  | name :: rest =>
    match tree.at? here with
    | none => .error .missing
    | some (.file _ _) => .error .notDirectory
    | some (.directory _) =>
      if nameLimit < name.utf8ByteSize then .error .nameTooLong
      else resolveFrom tree (if name = ".." then here.dropLast else here ++ [name]) rest

/-- Where names lead from the root. -/
def resolve (tree : FileTree) (names : List String) : Except Refusal (List String × Entry) :=
  tree.resolveFrom [] names

/-- The tree with an entry set, written at the next time of the clock. -/
def put (tree : FileTree) (names : List String) (make : Nat → Entry) : FileTree :=
  ⟨Table.set names (make tree.clock) tree.entries, tree.clock + 1⟩

/-- What is put stands at its names. -/
theorem at?_put_self (tree : FileTree) {names : List String} (nonempty : names ≠ [])
    (make : Nat → Entry) : (tree.put names make).at? names = some (make tree.clock) := by
  simp [at?, put, nonempty]

/-- Nothing else changes. -/
theorem at?_put_of_ne (tree : FileTree) {names other : List String} (different : other ≠ names)
    (make : Nat → Entry) : (tree.put names make).at? other = tree.at? other := by
  simp [at?, put, Table.lookup_set_of_ne different]

/-- The tree without the entry of these names. -/
def remove (tree : FileTree) (names : List String) : FileTree :=
  ⟨tree.entries.filter fun entry => entry.1 ≠ names, tree.clock⟩

/-- The entries below a directory, each with its names from there. -/
def below (tree : FileTree) (directory : List String) : List (List String × Entry) :=
  tree.entries.filterMap fun (names, entry) =>
    if directory.isPrefixOf names && names.length > directory.length then
      some (names.drop directory.length, entry)
    else none

end FileTree

/-- A tree of files with a working directory, given by its names from the root. -/
structure Disk where
  tree : FileTree
  workingDirectory : List String
deriving DecidableEq, Repr, Inhabited

namespace Disk

/-- The working directory as a path. -/
def here (disk : Disk) : FilePath :=
  ⟨.root, disk.workingDirectory⟩

/-- What a path leads to, and its names from the root. -/
def locate (disk : Disk) (path : FilePath) : Except Refusal (List String × Entry) :=
  if FileTree.pathLimit ≤ path.text.utf8ByteSize then .error .nameTooLong
  else disk.tree.resolve (path.absolute disk.here).names

/-- Whether a path holds the null character, so that the file system cannot be asked about it. -/
def holdsNull (path : FilePath) : Bool :=
  path.names.any fun name => name.toList.contains (Char.ofNat 0)

/-- What a path leads to, or the refusal with the path as it is written. -/
def entryAt (disk : Disk) (path : FilePath) : Except Failure (List String × Entry) :=
  if holdsNull path then .error .nullInPath
  else (disk.locate path).mapError fun refusal => .refused ⟨refusal, path.text⟩

/-- Whether a path leads to an entry of some kind. That nothing can be there is an answer; that a name
is too long to look for is a failure. -/
def leadsTo (disk : Disk) (path : FilePath) (kind : Entry → Bool) : Except Failure Bool :=
  match disk.entryAt path with
  | .ok (_, entry) => .ok (kind entry)
  | .error (.refused ⟨.nameTooLong, text⟩) => .error (.refused ⟨.nameTooLong, text⟩)
  | .error _ => .ok false

def isFile (disk : Disk) (path : FilePath) : Except Failure Bool :=
  disk.leadsTo path Entry.isFile

def isDirectory (disk : Disk) (path : FilePath) : Except Failure Bool :=
  disk.leadsTo path Entry.isDirectory

/-- Whether a path leads anywhere. -/
def exists? (disk : Disk) (path : FilePath) : Except Failure Bool :=
  disk.leadsTo path fun _ => true

/-- The disk seen from another working directory. -/
def enter (disk : Disk) (path : FilePath) : Except Failure Disk := do
  match ← disk.entryAt path with
  | (names, .directory _) => .ok { disk with workingDirectory := names }
  | (_, .file _ _) => .error (.refused ⟨.notDirectory, path.text⟩)

/-- The disk without the file at a path. -/
def delete (disk : Disk) (path : FilePath) : Except Failure Disk := do
  match ← disk.entryAt path with
  | (names, .file _ _) => .ok { disk with tree := disk.tree.remove names }
  | (_, .directory _) => .error (.refused ⟨.isDirectory, path.text⟩)

def readOctets (disk : Disk) (path : FilePath) : Except Failure (List UInt8) := do
  match ← disk.entryAt path with
  | (_, .file octets _) => .ok octets
  | (_, .directory _) => .error (.refused ⟨.isDirectory, path.text⟩)

/-- The text of the file at a path, with every line end a line feed. -/
def readText (disk : Disk) (path : FilePath) : Except Failure String := do
  let octets ← disk.readOctets path
  let text ← (Utf8.decode octets).mapError .undecodable
  .ok (String.ofList (Text.joinLineEnds text.toList))

def below (disk : Disk) (directory : FilePath) : List (FilePath × Entry) :=
  match disk.locate directory with
  | .ok (names, .directory _) =>
    (disk.tree.below names).map fun (names, entry) =>
      (⟨directory.anchor, directory.names ++ names⟩, entry)
  | _ => []

def filesBelow (disk : Disk) (directory : FilePath) : List FilePath :=
  (disk.below directory).filterMap fun (path, entry) =>
    match entry with
    | .file _ _ => some path
    | .directory _ => none

def directoriesFrom (disk : Disk) (directory : FilePath) : List FilePath :=
  directory :: (disk.below directory).filterMap fun (path, entry) =>
    match entry with
    | .file _ _ => none
    | .directory _ => some path

/-- The names of the entries of a directory, each with what stands there. -/
def children (disk : Disk) (directory : FilePath) : List (String × Entry) :=
  match disk.locate directory with
  | .ok (names, .directory _) =>
    (disk.tree.below names).filterMap fun (names, entry) =>
      match names with
      | [name] => some (name, entry)
      | _ => none
  | _ => []

/-- The disk with one more entry in an existing directory. -/
def putChild (disk : Disk) (path : FilePath) (make : Nat → Entry) : Except Refusal Disk := do
  match ← disk.locate path.parent with
  | (names, .directory _) =>
    .ok { disk with tree := disk.tree.put (names ++ [path.name]) make }
  | (_, .file _ _) => .error .notDirectory

/-- The disk with a new directory, which must not exist and whose parent must. -/
def makeDirectory (disk : Disk) (path : FilePath) : Except Refusal Disk :=
  match disk.locate path with
  | .ok _ => .error .exists
  | .error .missing => disk.putChild path .directory
  | .error refusal => .error refusal

/-- Make a directory unless it is there. -/
def ensureDirectory (path : FilePath) : Action Disk Unit := do
  let disk ← get
  if holdsNull path then throw .nullInPath
  else
    match disk.makeDirectory path, disk.locate path with
    | .ok changed, _ => set changed
    | .error .exists, .ok (_, .directory _) => pure ()
    | .error refusal, _ => throw (.refused ⟨refusal, path.text⟩)

/-- Make a directory and up to so many of those above it, unless they are there. None is made for a
path that holds the null character. -/
def ensureDirectories : Nat → FilePath → Action Disk Unit
  | 0, path => ensureDirectory path
  | levels + 1, path => do
    match holdsNull path, (← get).makeDirectory path with
    | false, .error .missing =>
      ensureDirectories levels path.parent
      ensureDirectory path
    | _, _ => ensureDirectory path

/-- Write a file into an existing directory. -/
def writeOctets (path : FilePath) (octets : List UInt8) : Action Disk Unit := do
  let disk ← get
  if holdsNull path then throw .nullInPath
  else
    match disk.locate path with
    | .ok (_, .directory _) => throw (.refused ⟨.isDirectory, path.text⟩)
    | .ok (names, .file _ _) => set { disk with tree := disk.tree.put names (.file octets) }
    | .error .missing =>
      match disk.putChild path (.file octets) with
      | .ok changed => set changed
      | .error refusal => throw (.refused ⟨refusal, path.text⟩)
    | .error refusal => throw (.refused ⟨refusal, path.text⟩)

/-- Write a file, with the directories above it. -/
def plant (path : FilePath) (octets : List UInt8) : Action Disk Unit := do
  ensureDirectories path.names.length path.parent
  writeOctets path octets

def writeModule (path : FilePath) (content : String) : Action Disk Unit :=
  plant path (Utf8.encode content)

/-- The store that keeps modules as files. -/
def store : Store Disk where
  write := writeModule

end Disk

end ImportBoundary
