import ImportBoundary.Console.Report
import ImportBoundary.Project.Sources

/-!
Contract: the commands `check` and `transform`.

Owns the reading of arguments and the two commands as functions of a disk. `check` lists the props
of a project that may not cross to the client; `transform` puts one file, transformed, on the standard
output, and writes its boundary modules. The standard output is a file or a pipe, as it is where a
transformed text is of use: on its way there the sequences that control a terminal are taken out, which
a terminal would be given.
-/

namespace ImportBoundary.Console

variable [StrayOctets]

/-- A command with its arguments. -/
inductive Command where
  | check
  | transform (path : String)
deriving DecidableEq, Repr

/-- How a command ended. A failure that the command does not answer ends it as it stands. -/
structure Outcome where
  exitCode : Nat
  output : String
  errors : String
  escaped : Option Failure
deriving DecidableEq, Repr

namespace Outcome

/-- A command that did what it was asked to. -/
def done (output errors : String) : Outcome :=
  ⟨0, output, errors, none⟩

/-- A command that found something wrong, and said so. -/
def failed (errors : String) : Outcome :=
  ⟨1, "", errors, none⟩

def ended (errors : String) (failure : Failure) : Outcome :=
  ⟨1, "", errors, some failure⟩

/-- A command that was not understood. -/
def misused : Outcome :=
  ⟨2, "", "", none⟩

end Outcome

/-- The lines that marked-up texts show, or those up to the first that cannot be shown, and why. -/
def shownLines : List String → String × Option Failure
  | [] => ("", none)
  | text :: rest =>
    match shownMarkup text with
    | .error failure => ("", some failure)
    | .ok line =>
      let (lines, failure) := shownLines rest
      (line ++ lines, failure)

/-- Answer a failure with a line about it. -/
def answer (failure : Failure) : Outcome :=
  match shownMarkup ("[red]" ++ failure.message ++ "[/red]") with
  | .ok line => .failed line
  | .error fault => .ended "" fault

def answerOwn (failure : Failure) : Outcome :=
  if failure.isOwn then answer failure else .ended "" failure

/-- The level of the messages that are logged: the one asked for, in capital letters. -/
def logLevel (asked : Option String) : String :=
  Text.upper (asked.getD "WARNING")

/-- The argument after which no argument is an option. -/
def endOfOptions : String := "--"

/-- Whether an argument is an option: a hyphen, and something after it. -/
def isOption (argument : String) : Bool :=
  match argument.toList with
  | '-' :: _ :: _ => true
  | _ => false

/-- The arguments of a command that are no options, if it is given none: there are none that it
knows. -/
def operands? : List String → Option (List String)
  | [] => some []
  | argument :: rest =>
    if argument = endOfOptions then some rest
    else if isOption argument then none
    else (operands? rest).map (argument :: ·)

def Command.ofOperands? : String → List String → Option Command
  | "check", [] => some .check
  | "transform", [path] => some (.transform path)
  | _, _ => none

def Command.ofArguments? (arguments : List String) : Option Command := do
  let named := if arguments.head? = some endOfOptions then arguments.drop 1 else arguments
  match named with
  | [] => none
  | name :: rest => Command.ofOperands? name (← operands? rest)

/-- The lines about the files of a program and the number of findings, or the lines so far and the
failure that ended the search. -/
def checkFiles (parser : Parser) (disk : Disk) (lines : String) (count : Nat) (program : Program) :
    List FilePath → Outcome
  | [] =>
    if count = 0 then .done "" lines
    else
      match shownLines ["[red]Found " ++ toString count ++ " error(s).[/red]"] with
      | (last, none) => .failed (lines ++ last)
      | (_, some failure) => .ended lines failure
  | file :: rest =>
    match Program.propDiagnostics parser Source.typeAt disk file.text program with
    | .error failure _ => .ended lines failure
    | .ok found after =>
      let shownFindings := found.map fun diagnostic => shown (diagnostic.format (some disk.here))
      checkFiles parser disk (lines ++ String.join shownFindings) (count + found.length) after rest

/-- Check every source of the project that the working directory lies in. -/
def check (parser : Parser) (wording : Project.FieldWording) (disk : Disk) : Outcome :=
  let settings := Project.findSettings disk none Project.settingsName >>=
    Project.loadSettings wording disk
  match settings with
  | .error failure => answerOwn failure
  | .ok known =>
    match Project.sourceFiles disk known with
    | .error failure => .ended "" failure
    | .ok files =>
      let program := Program.ofFiles disk files
      checkFiles parser disk "" 0 program program.rootFiles

/-- Whether a failure to transform a file is answered with a line about it: a refusal of the file
system is not. -/
def isTransformFailure : Failure → Bool
  | .undecodable _ => true
  | failure => failure.isOwn

/-- Transform one file in the project that it lies in. The standard output is no terminal. -/
def transformExisting (parser : Parser) (disk : Disk) (path : FilePath) : Outcome × Disk :=
  match Project.findRoot disk (some path.parent) with
  | .error failure => (.ended "" failure, disk)
  | .ok root =>
    match Session.transformFile parser path (Session.start disk root .onDisk []) with
    | .error failure after =>
      (if isTransformFailure failure then answer failure else .ended "" failure, after.disk)
    | .ok text after =>
      match shownLines (after.generated.map fun file => "[green]Generated[/green] " ++ file.text) with
      | (lines, none) => (.done (withoutSequences text) lines, after.disk)
      | (lines, some failure) => (.ended lines failure, after.disk)

def transformAt (parser : Parser) (disk : Disk) (path : FilePath) : Outcome × Disk :=
  match disk.entryAt path with
  | .ok (_, .file _ _) => transformExisting parser disk path
  | _ => (.misused, disk)

def run (parser : Parser) (wording : Project.FieldWording) (arguments : List String) (disk : Disk) :
    Outcome × Disk :=
  match Command.ofArguments? arguments with
  | none => (.misused, disk)
  | some .check => (check parser wording disk, disk)
  | some (.transform path) => transformAt parser disk (FilePath.ofText path)

end ImportBoundary.Console
