import ImportBoundary.Console.Command

/-!
Contract: with which code a command ends.

Owns that a failure is answered with a one, that `check` ends with zero or one however many files it
checks, and that it answers nothing but the failure if its settings cannot be loaded.
-/

namespace ImportBoundary.Console

/-! ## Failures -/

/-- A command that answers a failure has not done what it was asked to. -/
theorem exitCode_answer (failure : Failure) : (answer failure).exitCode = 1 := by
  unfold answer
  split <;> rfl

theorem exitCode_answerOwn (failure : Failure) : (answerOwn failure).exitCode = 1 := by
  unfold answerOwn
  split
  · exact exitCode_answer failure
  · rfl

/-! ## Checking -/

section CheckFiles

-- Opening the loop must not open what it does with each file.
attribute [local irreducible] Program.propDiagnostics shown

variable {parser : Parser} {disk : Disk} {lines : String} {count : Nat} {program : Program}

theorem checkFiles_nil :
    checkFiles parser disk lines count program [] =
      if count = 0 then .done "" lines
      else
        match shownLines ["[red]Found " ++ toString count ++ " error(s).[/red]"] with
        | (last, none) => .failed (lines ++ last)
        | (_, some failure) => .ended lines failure :=
  rfl

theorem checkFiles_cons (file : FilePath) (rest : List FilePath) :
    checkFiles parser disk lines count program (file :: rest) =
      match Program.propDiagnostics parser Source.typeAt disk file.text program with
      | .error failure _ => .ended lines failure
      | .ok found after =>
        let shownFindings := found.map fun diagnostic => shown (diagnostic.format (some disk.here))
        checkFiles parser disk (lines ++ String.join shownFindings) (count + found.length) after
          rest :=
  rfl

/-- However many files are checked, the command ends well or with a one. -/
theorem exitCode_checkFiles (files : List FilePath) :
    (checkFiles parser disk lines count program files).exitCode ≤ 1 := by
  induction files generalizing lines count program with
  | nil =>
      rw [checkFiles_nil]
      split
      · exact Nat.zero_le 1
      · split <;> exact Nat.le_refl 1
  | cons file rest inductionHypothesis =>
      rw [checkFiles_cons]
      cases Program.propDiagnostics parser Source.typeAt disk file.text program with
      | error failure after => exact Nat.le_refl 1
      | ok found after => exact inductionHypothesis

end CheckFiles

theorem exitCode_check (parser : Parser) (wording : Project.FieldWording) (disk : Disk) :
    (check parser wording disk).exitCode ≤ 1 := by
  unfold check
  dsimp only
  split
  · exact Nat.le_of_eq (exitCode_answerOwn _)
  · split
    · exact Nat.le_refl 1
    · exact exitCode_checkFiles _

/-- If the settings that are found cannot be loaded, nothing is checked. -/
theorem check_of_failure {parser : Parser} {wording : Project.FieldWording} {disk : Disk}
    {path : FilePath} {failure : Failure}
    (found : Project.findSettings disk none Project.settingsName = .ok path)
    (fails : Project.loadSettings wording disk path = .error failure) :
    check parser wording disk = answerOwn failure := by
  have settings : Project.findSettings disk none Project.settingsName >>=
      Project.loadSettings wording disk = .error failure := by
    rw [found]
    exact fails
  rw [check, settings]

end ImportBoundary.Console
