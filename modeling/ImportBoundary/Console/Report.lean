import ImportBoundary.Console.Text
import ImportBoundary.Session.Basic

/-!
Contract: what a session tells about the files it has looked at.

Owns `changesText`, the console text about a set of changed files, and `transformAnswer`, the text
that a tool answers for a file: its transformed text, or what went wrong.
-/

namespace ImportBoundary.Console

variable [StrayOctets]

/-- The lines about one file. Findings are written as seen from the root of the project. -/
def reportText (root : FilePath) (report : FileReport) : Except Failure String :=
  match report.error with
  | some failure =>
    shownMarkup ("[yellow]Skipped[/yellow] " ++ report.path.text ++ ": " ++ failure.message)
  | none => do
    let transformed ← if report.changed then
        shownMarkup ("[green]Transformed[/green] " ++ report.path.text)
      else .ok ""
    let findings := report.diagnostics.map fun found => shown (found.format (some root))
    .ok (transformed ++ String.join findings)

/-- The lines about a set of changed files, after processing them. That a line cannot be shown does not
undo what was done. -/
def changesText (parser : Parser) (paths : List FilePath) : Action Session String := do
  let reports ← Session.processAll parser paths
  match reports.mapM (reportText (← get).root) with
  | .ok texts => pure (String.join texts)
  | .error failure => throw failure

/-- The transformed text of a file, or the text of what went wrong with it. -/
def transformAnswer (parser : Parser) (path : FilePath) : Action Session String := fun session =>
  match Session.transformFile parser path session with
  | .ok text after => .ok text after
  | .error failure after =>
    if failure.isOwn || failure.concernsFile then .ok ("Error: " ++ failure.message) after
    else .error failure after

end ImportBoundary.Console
