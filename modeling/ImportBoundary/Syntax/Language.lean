import ImportBoundary.Text.Blank
import ImportBoundary.Text.LetterCase
import ImportBoundary.Failure

/-!
Contract: the languages of source files, and which files are sources of a project.

Owns the language names and their aliases, the languages of file suffixes, and
`isProjectSource`, which leaves out type declaration files and everything below an installed
dependency.
-/

namespace ImportBoundary

/-- A language in which sources are written. -/
inductive Language where
  | javascript
  | tsx
  | typescript
deriving DecidableEq, Repr, Inhabited

namespace Language

def name : Language → String
  | .javascript => "javascript"
  | .tsx => "tsx"
  | .typescript => "typescript"

/-- The languages by every name they go by, in small letters. -/
def aliases : List (String × Language) := [
  ("javascript", .javascript), ("js", .javascript), ("jsx", .tsx), ("ts", .typescript),
  ("tsx", .tsx), ("typescript", .typescript)]

/-- The languages by file suffix, in small letters. Files that may hold elements are read as
`tsx`, with types or without. -/
def suffixes : List (String × Language) := [
  (".cjs", .javascript), (".cts", .typescript), (".js", .tsx), (".jsx", .tsx),
  (".mjs", .javascript), (".mts", .typescript), (".ts", .typescript), (".tsx", .tsx)]

/-- The language of a name, in any letter case and between any blanks. -/
def ofName (name : String) : Except Failure Language :=
  match aliases.lookup (Text.lower (Text.trim name)) with
  | some language => .ok language
  | none => .error (.unknownLanguage name)

/-- The language of a file suffix in any letter case, if it has one. -/
def ofSuffix? (suffix : String) : Option Language :=
  suffixes.lookup (Text.lower suffix)

/-- The language of a file by its suffix. -/
def ofPath (path : FilePath) : Except Failure Language :=
  match ofSuffix? path.suffix with
  | some language => .ok language
  | none => .error (.unknownSuffix (Text.lower path.suffix))

/-- The language of a file: the given one, or else the one of its suffix. An empty language name is
none. -/
def resolve (name : Option String) (path : Option FilePath) : Except Failure Language :=
  match name.filter (· ≠ ""), path with
  | some given, _ => ofName given
  | none, some file => ofPath file
  | none, none => .error .undeterminedLanguage

end Language

namespace FilePath

/-- The ends of the names of type declaration files. -/
def declarationEnds : List String := [".d.ts", ".d.mts", ".d.cts"]

def isDeclaration (path : FilePath) : Bool :=
  declarationEnds.any fun ending => ending.toList.isSuffixOf path.name.toList

/-- The directory of installed dependencies. -/
def dependencyDirectory : String := "node_modules"

/-- Whether the file is a source of a project: a source suffix, not a declaration file, and no
name on its path is that of the dependency directory. -/
def isProjectSource (path : FilePath) : Bool :=
  (Language.ofSuffix? path.suffix).isSome && !path.isDeclaration &&
    !path.names.contains dependencyDirectory

end FilePath

end ImportBoundary
