import ImportBoundary.Text.Stray
import ImportBoundary.Text.Lines
import ImportBoundary.Text.Quoted
import ImportBoundary.Path.Basic
import ImportBoundary.Json.Reader
import ImportBoundary.Markup.Tags

/-!
Contract: every way in which an operation of this library can fail, as a cause.

Owns the causes and their wording. Which operation fails with which cause stands with the
operation.
-/

namespace ImportBoundary

/-- Why the file system refuses an operation on a path. -/
inductive Refusal where
  | missing
  | notDirectory
  | isDirectory
  | exists
  | nameTooLong
deriving DecidableEq, Repr

/-- The number and the wording of a refusal. -/
def Refusal.text : Refusal → String
  | .missing => "[Errno 2] No such file or directory"
  | .notDirectory => "[Errno 20] Not a directory"
  | .isDirectory => "[Errno 21] Is a directory"
  | .exists => "[Errno 17] File exists"
  | .nameTooLong => "[Errno 36] File name too long"

/-- A refusal with the path it was given, as that path was written. -/
structure FileFault where
  refusal : Refusal
  path : String
deriving DecidableEq, Repr

/-- A refusal names the path as a literal. -/
def FileFault.message (fault : FileFault) : String :=
  fault.refusal.text ++ ": " ++ Text.literal fault.path

/-- A field of the project settings that does not hold a list of texts: the field, and the position
of the offending element unless the field itself is no list. -/
structure FieldFault where
  field : String
  element : Option Nat
deriving DecidableEq, Repr

/-- Why a settings file cannot be used. What is said about wrong fields is the wording of the library
that validates them. -/
inductive SettingsFault where
  | unreadable (fault : FileFault)
  | malformed (fault : Json.Fault)
  | notObject
  | wrongFields (faults : List FieldFault) (wording : String)
deriving DecidableEq, Repr

def SettingsFault.message : SettingsFault → String
  | .unreadable fault => fault.message
  | .malformed fault => fault.message
  | .notObject => "expected a JSON object"
  | .wrongFields _ wording => wording

/-- A cause of failure. -/
inductive Failure where
  /-- A language name that is none of the known ones. -/
  | unknownLanguage (name : String)
  /-- A file suffix that belongs to no known language. -/
  | unknownSuffix (suffix : String)
  /-- Neither a language nor a path is given. -/
  | undeterminedLanguage
  /-- Octets that are not UTF-8. -/
  | undecodable (fault : Utf8.Fault)
  /-- A text with stray octets of a path. -/
  | unwritable (fault : Utf8.Unwritable)
  /-- A source that does not parse cleanly, and where. -/
  | brokenSource (path : FilePath) (place : Text.Point)
  /-- No settings file at or above a directory. -/
  | settingsNotFound (start : FilePath) (name : String)
  /-- A settings file that cannot be used. -/
  | settingsUnusable (path : FilePath) (fault : SettingsFault)
  /-- A refusal of the file system. -/
  | refused (fault : FileFault)
  /-- A number too long to be read. -/
  | numberTooLong (digits : Nat)
  /-- A document with too many values within one another. -/
  | nestedTooDeeply (container : Json.Container)
  /-- `**` as a part of a larger pattern component. -/
  | partialDoubleStar
  /-- A pattern that begins at the root. -/
  | absolutePattern
  /-- A path that holds the null character. -/
  | nullInPath
  /-- A line to show whose tags do not match. -/
  | badMarkup (fault : Markup.Fault)
  /-- A type lookup that gives up. -/
  | lookupFailed
deriving DecidableEq, Repr

/-- Whether a failure is about the sources and settings of a project, rather than about the values
and files it was found in. -/
def Failure.isOwn : Failure → Bool
  | .unknownLanguage _ | .unknownSuffix _ | .undeterminedLanguage | .brokenSource _ _
  | .settingsNotFound _ _ | .settingsUnusable _ _ => true
  | _ => false

/-- Whether a failure is about one file only: its text, its syntax, or its place on the disk. -/
def Failure.concernsFile : Failure → Bool
  | .brokenSource _ _ | .refused _ | .undecodable _ => true
  | _ => false

/-- The wording of a failure. Lines and columns are counted from one. -/
def Failure.message : Failure → String
  | .unknownLanguage name =>
    "Unsupported language '" ++ name ++ "'. Supported: ['javascript', 'tsx', 'typescript']"
  | .unknownSuffix suffix => "Unsupported file extension: " ++ suffix
  | .undeterminedLanguage => "Language must be provided when no file path is available."
  | .undecodable fault => fault.message
  | .unwritable fault => fault.message
  | .brokenSource path place =>
    "Syntax error in " ++ path.text ++ " at " ++ toString (place.row + 1) ++ ":" ++
      toString (place.column + 1)
  | .settingsNotFound start name =>
    "Could not find a valid " ++ name ++ " in " ++ start.text ++ " or any parent directory."
  | .settingsUnusable path fault => "Error reading " ++ path.text ++ ": " ++ fault.message
  | .refused fault => fault.message
  | .numberTooLong digits => (Json.Fault.integerTooLong digits).message
  | .nestedTooDeeply container => (Json.Fault.nestedTooDeeply container).message
  | .partialDoubleStar => "Invalid pattern: '**' can only be an entire path component"
  | .absolutePattern => "Non-relative patterns are unsupported"
  | .nullInPath => "embedded null byte"
  | .badMarkup fault => fault.message
  | .lookupFailed => "lookup failed"

end ImportBoundary
