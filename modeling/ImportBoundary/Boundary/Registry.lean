import ImportBoundary.Boundary.Module
import ImportBoundary.Table

/-!
Contract: the modules written so far, and writing a module only when its text has changed.

Owns the registry, the stores that modules go to, and `writeIfChanged`. An action on a state may
fail; the state it leaves behind then still counts.

Main definition to reason with: `writeIfChanged` asks the store to write exactly when the registry
does not hold the text already, and enters the text into the registry exactly when the store has
written it.
-/

namespace ImportBoundary

/-- An action on a state that may fail. A failure keeps the changes made before it. -/
abbrev Action (σ α : Type) : Type := EStateM Failure σ α

/-- An answer that depends on no state, as an action. -/
def Action.ofExcept {σ α : Type} (answer : Except Failure α) : Action σ α :=
  match answer with
  | .ok value => pure value
  | .error failure => throw failure

/-- The text last written to each path, in the order of the first writing. -/
structure Registry where
  entries : List (FilePath × String)
deriving DecidableEq, Repr, Inhabited

namespace Registry

/-- Nothing is written yet. -/
def empty : Registry := ⟨[]⟩

/-- The text last written to a path. -/
def get? (registry : Registry) (path : FilePath) : Option String :=
  registry.entries.lookup path

/-- The registry with the text of one path set. -/
def put (registry : Registry) (path : FilePath) (content : String) : Registry :=
  ⟨Table.set path content registry.entries⟩

/-- A path holds the text put for it. -/
@[simp] theorem get?_put_self (registry : Registry) (path : FilePath) (content : String) :
    (registry.put path content).get? path = some content :=
  Table.lookup_set_self path content registry.entries

/-- Every other path holds what it held. -/
theorem get?_put_of_ne (registry : Registry) {path other : FilePath} (different : other ≠ path)
    (content : String) : (registry.put path content).get? other = registry.get? other :=
  Table.lookup_set_of_ne different content registry.entries

/-- How many paths are written. -/
def size (registry : Registry) : Nat :=
  registry.entries.length

/-- The written paths in order. -/
def paths (registry : Registry) : List FilePath :=
  (registry.entries.map Prod.fst).mergeSort FilePath.atMost

end Registry

/-- A place that modules are written to, as an action on its own state. -/
structure Store (σ : Type) where
  write : FilePath → String → Action σ Unit

/-- Modules kept in memory, with every write in order. -/
structure Shelf where
  modules : Registry
  writes : List FilePath
deriving DecidableEq, Repr, Inhabited

namespace Shelf

/-- No module is kept yet. -/
def empty : Shelf := ⟨Registry.empty, []⟩

/-- The text kept for a path. -/
def get? (shelf : Shelf) (path : FilePath) : Option String :=
  shelf.modules.get? path

/-- The shelf after one more write. -/
def put (shelf : Shelf) (path : FilePath) (content : String) : Shelf :=
  ⟨shelf.modules.put path content, shelf.writes ++ [path]⟩

/-- The store that keeps modules in memory. It never fails. -/
def store : Store Shelf where
  write path content := modify fun shelf => shelf.put path content

end Shelf

/-- The state of a build: what it has written, and the state of the store it writes to. -/
structure Build (σ : Type) where
  registry : Registry
  store : σ
deriving Repr

namespace Build

variable {σ : Type}

/-- Write a module unless the registry already holds that text; whether it was written. -/
def writeIfChanged (store : Store σ) (path : FilePath) (content : String) :
    Action (Build σ) Bool := fun build =>
  if build.registry.get? path = some content then .ok false build
  else
    match store.write path content build.store with
    | .ok _ written => .ok true ⟨build.registry.put path content, written⟩
    | .error failure written => .error failure ⟨build.registry, written⟩

/-- Write a boundary module to its file. -/
def emit (store : Store σ) (boundary : BoundaryModule) : Action (Build σ) Bool :=
  writeIfChanged store boundary.path boundary.content

end Build

end ImportBoundary
