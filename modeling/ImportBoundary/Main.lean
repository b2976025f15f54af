import ImportBoundary.Console.Command
import ImportBoundary.Files.Snapshot

/-!
Contract: the program. It reads a project snapshot, one line of JSON, from the standard input, runs
the command that its arguments write, and writes the generated files to the disk. Every path of a
snapshot is a text of characters, so that none holds stray octets.
-/

section Program

open ImportBoundary

attribute [local instance] StrayOctets.absent

/-- What this program says about a settings file with wrong fields. -/
def ImportBoundary.fieldWording : Project.FieldWording :=
  fun _ => "files, include and exclude should be lists of texts"

/-- Write the files that a command has generated. -/
def ImportBoundary.writeFiles (files : List (FilePath × List UInt8)) : IO Unit :=
  for (path, octets) in files do
    IO.FS.createDirAll path.parent.text
    IO.FS.writeBinFile path.text (ByteArray.mk octets.toArray)

/-- Run the command on the snapshot; the exit code is that of the command. -/
def main (arguments : List String) : IO UInt32 := do
  let line ← (← IO.getStdin).getLine
  match Snapshot.ofText? line with
  | none =>
    (← IO.getStderr).putStrLn "The standard input holds no project snapshot."
    return 2
  | some snapshot =>
    let (outcome, disk) := Console.run snapshot.parser fieldWording arguments snapshot.disk
    writeFiles (Snapshot.newFiles snapshot.disk disk)
    (← IO.getStdout).putStr outcome.output
    (← IO.getStderr).putStr outcome.errors
    if let some failure := outcome.escaped then (← IO.getStderr).putStrLn failure.message
    return outcome.exitCode.toUInt32

end Program
