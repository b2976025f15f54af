import ImportBoundary.Files.Tree
import ImportBoundary.Json.Comments

/-!
Contract: the settings of a project.

Owns the settings that name its files, and their reading from a JSON file that may hold comments and
trailing commas. Each field is a list of texts; one that is absent is empty. What is said about fields
that hold something else is left to the library that validates them: its wording is a parameter.
-/

namespace ImportBoundary.Project

/-- What a settings file says about the files of a project. -/
structure Settings where
  path : FilePath
  root : FilePath
  files : List String
  includes : List String
  excludes : List String
deriving DecidableEq, Repr

/-- What the validation of fields says about a document with wrong ones. -/
abbrev FieldWording := Json.Value → String

def readElement (field : String) (position : Nat) (element : Json.Value) :
    List FieldFault × List String :=
  match element with
  | .text characters => ([], [characters])
  | _ => ([⟨field, some position⟩], [])

def readElements (field : String) (position : Nat) :
    List Json.Value → List FieldFault × List String
  | [] => ([], [])
  | element :: rest =>
    let first := readElement field position element
    let others := readElements field (position + 1) rest
    (first.1 ++ others.1, first.2 ++ others.2)

/-- The texts of a field, and what is wrong with it. -/
def readField (document : Json.Value) (field : String) : List FieldFault × List String :=
  match document.member? field with
  | none => ([], [])
  | some (.list elements) => readElements field 0 elements
  | some _ => ([⟨field, none⟩], [])

def readDocument (disk : Disk) (path : FilePath) : Except Failure Json.Value := do
  let text ← match disk.readText path with
    | .error (.refused fault) => .error (.settingsUnusable path (.unreadable fault))
    | answer => answer
  match Json.read (Json.plain text) with
  | .ok document => .ok document
  | .error (.integerTooLong digits) => .error (.numberTooLong digits)
  | .error (.nestedTooDeeply container) => .error (.nestedTooDeeply container)
  | .error fault => .error (.settingsUnusable path (.malformed fault))

def settingsOf (wording : FieldWording) (path : FilePath) (document : Json.Value) :
    Except Failure Settings :=
  match document with
  | .object _ =>
    let files := readField document "files"
    let includes := readField document "include"
    let excludes := readField document "exclude"
    match files.1 ++ includes.1 ++ excludes.1 with
    | [] => .ok ⟨path, path.parent, files.2, includes.2, excludes.2⟩
    | faults => .error (.settingsUnusable path (.wrongFields faults (wording document)))
  | _ => .error (.settingsUnusable path .notObject)

def loadSettings (wording : FieldWording) (disk : Disk) (path : FilePath) :
    Except Failure Settings := do
  settingsOf wording path (← readDocument disk path)

end ImportBoundary.Project
