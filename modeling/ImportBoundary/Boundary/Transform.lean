import ImportBoundary.Boundary.Registry
import ImportBoundary.Import.Splice
import ImportBoundary.Path.Relative

/-!
Contract: sources changed so that every marked import goes through a boundary module.

Owns `transform`. A source without marked imports comes back as it is, faults and all; one with
marked imports must parse cleanly before anything is written. Its modules are written before their
specifiers are: a specifier that cannot be written fails the transform with its modules in the store.
-/

namespace ImportBoundary

variable {σ : Type}

/-- Write the module of each import, and pair the import with the specifier of its module. -/
def emitAll (store : Store σ) (root : FilePath) (source : Source) :
    List MarkedImport → Action (Build σ) (List (MarkedImport × String))
  | [] => pure []
  | marked :: rest => do
    let boundary ← Action.ofExcept (source.boundaryOf root marked.parts)
    let _ ← Build.emit store boundary
    let replacements ← emitAll store root source rest
    pure ((marked, FilePath.specifier source.path boundary.path) :: replacements)

/-- The text of the file at `path` with its marked imports redirected to boundary modules below
`root`. Both paths are seen from the working directory. -/
def transform [StrayOctets] (parser : Parser) (store : Store σ) (workingDirectory root path : FilePath)
    (text : String) (language : Option String) : Action (Build σ) String := do
  let file := path.absolute workingDirectory
  let source ← Action.ofExcept (Source.parse parser (Utf8.encode text) file language)
  let marked ← Action.ofExcept source.markedImports
  if marked.isEmpty then pure text
  else
    Action.ofExcept source.ensureClean
    let replacements ← emitAll store (root.absolute workingDirectory) source marked
    Action.ofExcept (source.redirect replacements)

end ImportBoundary
