import ImportBoundary.Session.Basic
import ImportBoundary.Proofs.Session.Batch

/-!
Contract: what checking a file answers, whatever the program has read before.

Owns the findings that an analysis adds to those of another service, what one call of a program
answers told by what stands at the path, and what checking makes of each such answer. Neither a lookup
nor an analysis that fails ends a check. What does is the disk: it may refuse a path for another
reason than that nothing is there, and a directory may have the name of a source.

Main statement: `check_answers`.
-/

namespace ImportBoundary

/-- What the analysis of a source finds: nothing, if it fails. -/
def Source.findings (source : Source) (lookup : TypeLookup) : List Diagnostic :=
  match source.analyze lookup with
  | .ok found => found
  | .error _ => []

/-- The findings of another service come first, and stay if the analysis fails. -/
theorem withPropDiagnostics_some (prior : List Diagnostic) (source : Source) (lookup : TypeLookup) :
    withPropDiagnostics prior (some source) (some lookup) = prior ++ source.findings lookup := by
  unfold withPropDiagnostics Source.findings
  dsimp only
  cases source.analyze lookup with
  | ok found => rfl
  | error failure => exact (List.append_nil prior).symm

/-- Whether a failure says that nothing is there. -/
def Failure.isMissing : Failure → Bool
  | .refused ⟨.missing, _⟩ => true
  | _ => false

namespace Program

variable {parser : Parser} {disk : Disk} {program : Program} {path : FilePath}

/-- What a program keeps of a path, if it was read at some time of writing. -/
def kept (program : Program) (path : FilePath) (written : Nat) : Option LoadedSource :=
  (program.loaded.lookup path).filter fun known => known.written = written

/-- What a program answers about an absolute path, told without what it keeps afterwards. -/
def readingAt (parser : Parser) (disk : Disk) (program : Program) (path : FilePath) :
    Except Failure (Option LoadedSource) :=
  if path.isProjectSource then
    match disk.entryAt path with
    | .error failure => if failure.isMissing then .ok none else .error failure
    | .ok (_, entry) =>
      match program.kept path entry.written with
      | some reading => .ok (some reading)
      | none => ((reload parser disk path entry.written).answer program).map some
  else .ok none

theorem answer_load (parser : Parser) (disk : Disk) (file : String) (program : Program) :
    (load parser disk file).answer program =
      readingAt parser disk program ((FilePath.ofText file).absolute disk.here) := by
  unfold Action.answer load readingAt kept
  generalize (FilePath.ofText file).absolute disk.here = path
  dsimp only
  cases path.isProjectSource with
  | false => rfl
  | true =>
      rw [Bool.not_true, if_neg Bool.false_ne_true, if_pos rfl]
      cases disk.entryAt path with
      | error failure =>
          cases failure with
          | refused fault =>
              obtain ⟨refusal, text⟩ := fault
              cases refusal with
              | missing => rfl
              | _ => rfl
          | _ => rfl
      | ok found =>
          obtain ⟨names, entry⟩ := found
          dsimp only
          cases (program.loaded.lookup path).filter fun known => known.written = entry.written with
          | some reading => rfl
          | none =>
              dsimp only [Action.answer]
              cases reload parser disk path entry.written program with
              | ok reading remembered => rfl
              | error failure unchanged => rfl

/-! ## One check -/

/-- What checking the file at an absolute path answers, after the findings of another service. Those
alone are the answer when the path is no source of a project or leads nowhere; otherwise the findings
of an analysis follow, of the source that the program keeps for the time of what stands there, or else
of the file as it is. A check fails only when the disk refuses the path for another reason, or when a
directory stands there. -/
structure Checked (parser : Parser) (lookup : TypeLookup) (disk : Disk) (program : Program)
    (path : FilePath) (prior : List Diagnostic) (answer : Except Failure (List Diagnostic)) :
    Prop where
  unread : path.isProjectSource = false ∨
      (∃ text, disk.entryAt path = .error (.refused ⟨.missing, text⟩)) → answer = .ok prior
  known : path.isProjectSource = true → ∀ names entry reading,
      disk.entryAt path = .ok (names, entry) → program.kept path entry.written = some reading →
        answer = .ok (prior ++ reading.source.findings lookup)
  read : path.isProjectSource = true → ∀ names octets written,
      disk.entryAt path = .ok (names, .file octets written) → program.kept path written = none →
        ∃ source, IsFileOn disk parser path source ∧ answer = .ok (prior ++ source.findings lookup)
  fails_iff : ∀ failure, answer = .error failure ↔ path.isProjectSource = true ∧
      ((disk.entryAt path = .error failure ∧ failure.isMissing = false) ∨
        ∃ names written, disk.entryAt path = .ok (names, .directory written) ∧
          program.kept path written = none ∧ failure = .refused ⟨.isDirectory, path.text⟩)

/-- The readings that answer a call, by what stands at the path. -/
theorem readingAt_foreign (isForeign : path.isProjectSource = false) :
    readingAt parser disk program path = .ok none := by
  rw [readingAt, isForeign, if_neg Bool.false_ne_true]

section Source

variable (isSource : path.isProjectSource = true)
include isSource

theorem readingAt_error {failure : Failure} (refused : disk.entryAt path = .error failure) :
    readingAt parser disk program path =
      if failure.isMissing then .ok none else .error failure := by
  rw [readingAt, if_pos isSource, refused]

theorem readingAt_kept {names : List String} {entry : Entry} {reading : LoadedSource}
    (located : disk.entryAt path = .ok (names, entry))
    (isKept : program.kept path entry.written = some reading) :
    readingAt parser disk program path = .ok (some reading) := by
  rw [readingAt, if_pos isSource, located]
  dsimp only
  rw [isKept]

theorem readingAt_file {names : List String} {octets : List UInt8} {written : Nat}
    (located : disk.entryAt path = .ok (names, .file octets written))
    (unknown : program.kept path written = none) :
    ∃ reading, IsFileOn disk parser path reading.source ∧
      readingAt parser disk program path = .ok (some reading) := by
  obtain ⟨source, isParsed, reloaded⟩ : ∃ source,
      Source.parse parser octets path none = .ok source ∧
        reload parser disk path written program =
          .ok (program.remember path written source).1 (program.remember path written source).2 :=
    exists_reload isSource located
  have isSourceAt : sourceAt parser disk path = .ok (some source) := by
    rw [sourceAt, if_pos isSource, located]
    dsimp only
    rw [isParsed]
    rfl
  refine ⟨(program.remember path written source).1, (sourceAt_eq_ok_some isSourceAt).2, ?_⟩
  rw [readingAt, if_pos isSource, located]
  dsimp only [Entry.written]
  rw [unknown]
  dsimp only
  rw [Action.answer, reloaded]
  rfl

theorem readingAt_directory {names : List String} {written : Nat}
    (located : disk.entryAt path = .ok (names, .directory written))
    (unknown : program.kept path written = none) :
    readingAt parser disk program path = .error (.refused ⟨.isDirectory, path.text⟩) := by
  rw [readingAt, if_pos isSource, located]
  dsimp only [Entry.written]
  rw [unknown]
  dsimp only
  rw [Action.answer, reload_directory located]
  rfl

end Source

theorem checked_readingAt (parser : Parser) (lookup : TypeLookup) (disk : Disk) (program : Program)
    (path : FilePath) (prior : List Diagnostic) :
    Checked parser lookup disk program path prior
      ((readingAt parser disk program path).map fun reading =>
        withPropDiagnostics prior (reading.map LoadedSource.source) (some lookup)) := by
  constructor
  · rintro (isForeign | ⟨text, isMissing⟩)
    · rw [readingAt_foreign isForeign]
      rfl
    · cases isSource : path.isProjectSource with
      | false =>
          rw [readingAt_foreign isSource]
          rfl
      | true =>
          rw [readingAt_error isSource isMissing]
          rfl
  · intro isSource names entry reading located isKept
    rw [readingAt_kept isSource located isKept]
    exact congrArg Except.ok (withPropDiagnostics_some prior reading.source lookup)
  · intro isSource names octets written located unknown
    obtain ⟨reading, isFileOn, isRead⟩ := readingAt_file isSource located unknown
    rw [isRead]
    exact ⟨reading.source, isFileOn,
      congrArg Except.ok (withPropDiagnostics_some prior reading.source lookup)⟩
  · intro failure
    constructor
    · intro failed
      cases isSource : path.isProjectSource with
      | false =>
          rw [readingAt_foreign isSource] at failed
          cases failed
      | true =>
          refine ⟨rfl, ?_⟩
          cases located : disk.entryAt path with
          | error refusal =>
              rw [readingAt_error isSource located] at failed
              cases isMissing : refusal.isMissing with
              | true =>
                  rw [isMissing, if_pos rfl] at failed
                  cases failed
              | false =>
                  rw [isMissing, if_neg Bool.false_ne_true] at failed
                  cases failed
                  exact .inl ⟨rfl, isMissing⟩
          | ok found =>
              obtain ⟨names, entry⟩ := found
              cases isKept : program.kept path entry.written with
              | some reading =>
                  rw [readingAt_kept isSource located isKept] at failed
                  cases failed
              | none =>
                  cases entry with
                  | file octets written =>
                      obtain ⟨reading, _, isRead⟩ := readingAt_file isSource located isKept
                      rw [isRead] at failed
                      cases failed
                  | directory written =>
                      rw [readingAt_directory isSource located isKept] at failed
                      cases failed
                      exact .inr ⟨names, written, rfl, isKept, rfl⟩
    · rintro ⟨isSource, ⟨refused, present⟩ | ⟨names, written, located, unknown, rfl⟩⟩
      · rw [readingAt_error isSource refused, present, if_neg Bool.false_ne_true]
        rfl
      · rw [readingAt_directory isSource located unknown]
        rfl

theorem answer_propDiagnostics (parser : Parser) (lookup : TypeLookup) (disk : Disk)
    (file : String) (program : Program) :
    (propDiagnostics parser lookup disk file).answer program =
      (readingAt parser disk program ((FilePath.ofText file).absolute disk.here)).map fun reading =>
        withPropDiagnostics [] (reading.map LoadedSource.source) (some lookup) := by
  rw [propDiagnostics, Action.answer_bind, answer_load]
  cases readingAt parser disk program ((FilePath.ofText file).absolute disk.here) with
  | ok reading => rfl
  | error failure => rfl

end Program

namespace Session

/-- Checking a file, with any lookup or by a session: the service within has no findings of its own,
so that those of the analysis are all, and nothing fails but the disk. -/
theorem check_answers (parser : Parser) (file : String) :
    (∀ lookup disk program,
      Program.Checked parser lookup disk program ((FilePath.ofText file).absolute disk.here) []
        ((Program.propDiagnostics parser lookup disk file).answer program)) ∧
    ∀ session : Session,
      Program.Checked parser Source.typeAt session.disk session.program
        ((FilePath.ofText file).absolute session.disk.here) []
        ((check parser (FilePath.ofText file)).answer session) := by
  have ofProgram : ∀ lookup disk program,
      Program.Checked parser lookup disk program ((FilePath.ofText file).absolute disk.here) []
        ((Program.propDiagnostics parser lookup disk file).answer program) := by
    intro lookup disk program
    rw [Program.answer_propDiagnostics]
    exact Program.checked_readingAt parser lookup disk program _ []
  refine ⟨ofProgram, ?_⟩
  intro session
  have isWritten := FilePath.isWritten_ofText file
  have answered := ofProgram Source.typeAt session.disk session.program
  rw [check, answer_onProgram, Program.answer_propDiagnostics, FilePath.ofText_text isWritten,
    ← Program.answer_propDiagnostics]
  exact answered

/-- A directory with the name of a source, and a name below a file. -/
theorem check_fails_at_directory :
    let parser : Parser := fun _ octets => ⟨"program", 0, octets.length, true, false, none, []⟩
    let disk : Disk := ⟨⟨[(["a.tsx"], .file [] 1), (["components.tsx"], .directory 2)], 3⟩, []⟩
    let session := start disk ⟨.root, []⟩ .inMemory []
    (check parser (FilePath.ofText "components.tsx")).answer session =
        .error (.refused ⟨.isDirectory, "/components.tsx"⟩) ∧
      (check parser (FilePath.ofText "a.tsx/b.tsx")).answer session =
        .error (.refused ⟨.notDirectory, "/a.tsx/b.tsx"⟩) := by
  decide +kernel

end Session

end ImportBoundary
