import ImportBoundary.Proofs.Build.Requests
import ImportBoundary.Proofs.Import.Failures
import ImportBoundary.Proofs.Session.Run

/-!
Contract: what a session in memory reports about a set of files.

Owns the report about one file as a function of the file, the disk and the root of the project, and
that every sound session gives this report, whatever it has done before and whatever else is in the
set. Failures that concern the file end up in its report. There are two other ways to fail: that a file
is found from the working directory, but its path from the root is too long for the disk to follow, and
that the specifiers of its modules cannot be written.

Main statements: `answer_processAll`, and `reports_isolated`.
-/

namespace ImportBoundary

variable {parser : Parser} {disk : Disk} {past : List Disk} {root path : FilePath}

namespace Disk

theorem concernsFile_readText (noNull : holdsNull path = false) :
    ConcernsFile (disk.readText path) := by
  have locates : ConcernsFile (disk.entryAt path) := by
    unfold entryAt
    rw [noNull, if_neg Bool.false_ne_true]
    cases disk.locate path with
    | ok found => exact concernsFile_ok found
    | error refusal => exact concernsFile_error rfl
  have reads : ConcernsFile (disk.readOctets path) := by
    apply locates.bind
    rintro ⟨names, entry⟩
    cases entry with
    | file octets written => exact concernsFile_ok octets
    | directory written => exact concernsFile_error rfl
  apply reads.bind
  intro octets
  apply (concernsFile_decode (Utf8.decode octets)).bind
  intro text
  exact concernsFile_ok _

end Disk

theorem Shelves.store_accepts : (Shelves.store .inMemory).Accepts :=
  fun path content shelves => ⟨{ shelves with shelf := shelves.shelf.put path content }, rfl⟩

namespace Session

/-! ## One report -/

/-- Whether the transform of a file changes its text, told without a session. -/
def changesAt [StrayOctets] (parser : Parser) (disk : Disk) (root path : FilePath) :
    Except Failure Bool := do
  let text ← disk.readText path
  let answer ← transformed parser disk.here root path text none
  .ok (answer != text)

/-- The report about a file, told without a session. -/
def reportAt [StrayOctets] (parser : Parser) (disk : Disk) (root path : FilePath) :
    Except Failure FileReport :=
  if !transforms path then .ok ⟨path, false, [], none⟩
  else
    match changesAt parser disk root path with
    | .error failure =>
      if failure.concernsFile then .ok ⟨path, false, [], some failure⟩ else .error failure
    | .ok changed => do
      let source ← Program.sourceAt parser disk ((FilePath.ofText path.text).absolute disk.here)
      .ok ⟨path, changed, withPropDiagnostics [] source (some Source.typeAt), none⟩

section Report

variable {session : Session}

theorem answer_readText (path : FilePath) (session : Session) :
    (readText path).answer session = session.disk.readText path := by
  unfold Action.answer readText
  cases session.disk.readText path with
  | ok text => rfl
  | error failure => rfl

theorem answer_onProgram {α : Type} (action : Disk → Action Program α) (session : Session) :
    (onProgram action).answer session = (action session.disk).answer session.program := by
  unfold Action.answer onProgram
  cases action session.disk session.program with
  | ok answer program => rfl
  | error failure program => rfl

theorem answer_check (sound : Sound parser disk past root session)
    (told : disk.ToldByTime (disk :: past)) (path : FilePath) :
    (check parser path).answer session =
      (Program.sourceAt parser disk ((FilePath.ofText path.text).absolute disk.here)).map
        fun source => withPropDiagnostics [] source (some Source.typeAt) := by
  rw [← Program.source_of_load sound.readFrom told path.text, check, answer_onProgram,
    sound.onDisk, Program.propDiagnostics, Action.answer_bind]
  cases (Program.load parser disk path.text).answer session.program with
  | ok reading => rfl
  | error failure => rfl

variable [StrayOctets]

theorem answer_transformText (sound : Sound parser disk past root session) (path : FilePath)
    (text : String) :
    (transformText parser path text).answer session =
      transformed parser disk.here root path text none := by
  rw [← answer_transform Shelves.store_accepts parser disk.here root path text none session.build]
  unfold Action.answer transformText
  rw [sound.keeping, sound.onDisk, sound.root]
  cases transform parser (Shelves.store .inMemory) disk.here root path text none session.build with
  | ok answer build => rfl
  | error failure build => rfl

theorem answer_changes (sound : Sound parser disk past root session) (path : FilePath) :
    (changes parser path).answer session = changesAt parser disk root path := by
  unfold changes changesAt
  rw [Action.answer_bind, answer_readText, sound.onDisk, stateAfter_readText]
  cases disk.readText path with
  | error failure => rw [error_bind, error_bind]
  | ok text =>
      rw [ok_bind, ok_bind, Action.answer_bind, answer_transformText sound]
      apply bind_congr
      intro answer
      rfl

theorem answer_attempt (sound : Sound parser disk past root session) (path : FilePath) :
    (attempt parser path).answer session =
      match changesAt parser disk root path with
      | .ok changed => .ok (.ok changed)
      | .error failure =>
        if failure.concernsFile then .ok (.error failure) else .error failure := by
  rw [← answer_changes sound path]
  unfold Action.answer
  rw [attempt_eq]
  cases changes parser path session with
  | ok changed after => rfl
  | error failure after =>
      dsimp only
      cases failure.concernsFile with
      | true => rfl
      | false => rfl

/-- A sound session reports about a file what can be told without it. -/
theorem answer_process (sound : Sound parser disk past root session)
    (told : disk.ToldByTime (disk :: past)) (path : FilePath) :
    (process parser path).answer session = reportAt parser disk root path := by
  unfold process reportAt
  split
  · rfl
  · have kept := preserves_attempt preserves_transformText path session sound
    rw [Action.answer_bind, answer_attempt sound]
    cases changesAt parser disk root path with
    | error failure =>
        dsimp only
        cases failure.concernsFile with
        | true => rfl
        | false => rfl
    | ok changed =>
        rw [ok_bind, Action.answer_bind, answer_check kept told]
        cases Program.sourceAt parser disk ((FilePath.ofText path.text).absolute disk.here) with
        | error failure => rfl
        | ok source => rfl

theorem answer_processEach (sound : Sound parser disk past root session)
    (told : disk.ToldByTime (disk :: past)) (paths : List FilePath) :
    (processEach parser paths).answer session = paths.mapM (reportAt parser disk root) := by
  induction paths generalizing session with
  | nil => rfl
  | cons path rest inductionHypothesis =>
      have kept := preserves_process preserves_transformText preserves_check path session sound
      rw [processEach, Action.answer_bind, answer_process sound told, List.mapM_cons]
      apply bind_congr
      intro report
      rw [Action.answer_bind, inductionHypothesis kept]
      rfl

/-- A set of files is reported about one by one, in the order of their paths. -/
theorem answer_processAll (sound : Sound parser disk past root session)
    (told : disk.ToldByTime (disk :: past)) (paths : List FilePath) :
    (processAll parser paths).answer session =
      (paths.eraseDups.mergeSort FilePath.atMost).mapM (reportAt parser disk root) :=
  answer_processEach sound told _

/-- A report tells of no change and no findings, or of no failure. -/
theorem report_cases {report : FileReport}
    (reported : reportAt parser disk root path = .ok report) :
    (∃ failure, report = ⟨path, false, [], failure⟩) ∨
      ∃ changed found, report = ⟨path, changed, found, none⟩ := by
  unfold reportAt at reported
  split at reported
  · cases reported
    exact .inl ⟨none, rfl⟩
  · split at reported
    · rename_i failure _
      split at reported
      · cases reported
        exact .inl ⟨some failure, rfl⟩
      · cases reported
    · rename_i changed _
      obtain ⟨source, _, result⟩ := bind_eq_ok_iff.mp reported
      cases result
      exact .inr ⟨changed, _, rfl⟩

theorem path_of_reportAt {report : FileReport}
    (reported : reportAt parser disk root path = .ok report) : report.path = path := by
  rcases report_cases reported with ⟨failure, rfl⟩ | ⟨changed, found, rfl⟩
  · rfl
  · rfl

/-- What cannot be transformed has not changed and is not checked. -/
theorem unchecked_of_reportAt {report : FileReport}
    (reported : reportAt parser disk root path = .ok report) (failed : report.error ≠ none) :
    report.changed = false ∧ report.diagnostics = [] := by
  rcases report_cases reported with ⟨failure, rfl⟩ | ⟨changed, found, rfl⟩
  · exact ⟨rfl, rfl⟩
  · exact absurd rfl failed

/-- A file that can be read has no imports to redirect, or the project root can be spelled from it. -/
def Spellable (parser : Parser) (disk : Disk) (root path : FilePath) : Prop :=
  ∀ text, disk.readText path = .ok text →
    (⟨path, text, none⟩ : Request).Spellable parser disk.here root

theorem spellable_of_isSpelled
    (spelled : (path.absolute disk.here).IsSpelled (root.absolute disk.here)) :
    Spellable parser disk root path := by
  intro text _
  have isSpelled : (⟨path, text, none⟩ : Request).IsSpelled disk.here root := spelled
  exact Request.spellable_of_isSpelled isSpelled parser

theorem concernsFile_changesAt (isSource : path.isProjectSource = true)
    (noNull : Disk.holdsNull path = false) (spellable : Spellable parser disk root path) :
    ConcernsFile (changesAt parser disk root path) := by
  obtain ⟨language, isLanguage⟩ := FilePath.exists_language isSource
  have ofPath := FilePath.ofPath_absolute isLanguage disk.here
  have parses : ∀ octets, ∃ source,
      Source.parse parser octets (path.absolute disk.here) none = .ok source :=
    fun octets => ⟨_, Source.parse_eq_ok_iff.mpr ⟨language, ofPath, rfl⟩⟩
  apply (Disk.concernsFile_readText noNull).bind_of_ok
  intro text isRead
  apply (concernsFile_transformed parses (spellable text isRead)).bind
  intro answer
  exact concernsFile_ok _

/-- A file whose text can be read is checked as well, unless its path is too long from the root. -/
theorem isFile_of_changesAt {changed : Bool}
    (compared : changesAt parser disk root path = .ok changed)
    (hereNoNull : Disk.holdsNull disk.here = false)
    (short : (path.absolute disk.here).text.utf8ByteSize < FileTree.pathLimit) :
    disk.isFile (path.absolute disk.here) = .ok true := by
  obtain ⟨text, readsText, _⟩ := bind_eq_ok_iff.mp compared
  obtain ⟨octets, isRead, _⟩ := bind_eq_ok_iff.mp readsText
  obtain ⟨names, written, located⟩ := Disk.readOctets_eq_ok_iff.mp isRead
  apply Disk.isFile_eq_ok_true_iff.mpr
  refine ⟨octets, Disk.readOctets_eq_ok_iff.mpr ⟨names, written, ?_⟩⟩
  exact Disk.entryAt_absolute located hereNoNull short

/-- A path that the disk can follow from the root is reported about, whatever stands there, if what
is to be redirected there can be spelled. -/
theorem exists_reportAt (isWritten : path.IsWritten)
    (noNull : Disk.holdsNull path = false) (hereNoNull : Disk.holdsNull disk.here = false)
    (spellable : Spellable parser disk root path)
    (short : (path.absolute disk.here).text.utf8ByteSize < FileTree.pathLimit) :
    ∃ report, reportAt parser disk root path = .ok report := by
  unfold reportAt
  cases isSource : transforms path with
  | false => exact ⟨_, rfl⟩
  | true =>
      rw [Bool.not_true, if_neg Bool.false_ne_true]
      cases compared : changesAt parser disk root path with
      | error failure =>
          have concerns := concernsFile_changesAt isSource noNull spellable failure compared
          dsimp only
          rw [if_pos concerns]
          exact ⟨_, rfl⟩
      | ok changed =>
          have isFile := isFile_of_changesAt compared hereNoNull short
          obtain ⟨source, isFound⟩ := Program.exists_sourceAt (.inr (.inl isFile))
          rw [FilePath.ofText_text isWritten]
          dsimp only
          rw [isFound]
          exact ⟨_, rfl⟩

end Report

/-! ## Reports about a set of files -/

/-- The reports that a session gives about some files: one for each file, in the order of paths, and
each of them the one that a session that has done nothing yet gives about the file alone. A file that
cannot be transformed is reported as unchanged and without findings. -/
structure Isolated [StrayOctets] (parser : Parser) (session : Session) (paths : List FilePath)
    (reports : List FileReport) : Prop where
  once : (reports.map FileReport.path).Nodup
  ordered : (reports.map FileReport.path).Pairwise fun left right => left.atMost right = true
  mem_iff : ∀ path, path ∈ reports.map FileReport.path ↔ path ∈ paths
  failed : ∀ report ∈ reports, report.error ≠ none →
    report.changed = false ∧ report.diagnostics = []
  alone : ∀ report ∈ reports, (process parser report.path).answer
    (start session.disk session.root .inMemory []) = .ok report

theorem map_path_of_forall₂ [StrayOctets] {paths : List FilePath} {reports : List FileReport}
    (areReported : List.Forall₂ (fun path report => reportAt parser disk root path = .ok report)
      paths reports) : reports.map FileReport.path = paths := by
  induction areReported with
  | nil => rfl
  | cons reported _ inductionHypothesis =>
      rw [List.map_cons, inductionHypothesis, path_of_reportAt reported]

/-- However a session in memory was led to, and whatever is in a set of files that can be followed from
the root, it reports about each of them, and as a session would that has seen nothing else, if the
project root can be spelled from those with imports to redirect. -/
theorem reports_isolated [StrayOctets] {history : List Disk} {session : Session}
    (reached : Reached parser history session) {paths : List FilePath}
    (written : ∀ path ∈ paths, path.IsWritten)
    (noNull : ∀ path ∈ paths, Disk.holdsNull path = false)
    (hereNoNull : Disk.holdsNull session.disk.here = false)
    (spellable : ∀ path ∈ paths, Spellable parser session.disk session.root path)
    (short : ∀ path ∈ paths,
      (path.absolute session.disk.here).text.utf8ByteSize < FileTree.pathLimit) :
    ∃ reports, (processAll parser paths).answer session = .ok reports ∧
      Isolated parser session paths reports := by
  obtain ⟨disk, past, _, sound, told, isAbsolute⟩ := reached.sound
  have fresh : Sound parser disk [] session.root (start disk session.root .inMemory []) :=
    ⟨rfl, rfl, FilePath.absolute_of_isAbsolute isAbsolute disk.here, Program.readFrom_ofFiles []⟩
  rw [sound.onDisk] at hereNoNull spellable short
  have mem_iff : ∀ path, path ∈ paths.eraseDups.mergeSort FilePath.atMost ↔ path ∈ paths := by
    intro path
    rw [List.mem_mergeSort, List.mem_eraseDups]
  obtain ⟨reports, areReported⟩ : ∃ reports,
      (paths.eraseDups.mergeSort FilePath.atMost).mapM (reportAt parser disk session.root) =
        .ok reports := by
    apply exists_mapM
    intro path isSorted
    have isPath := (mem_iff path).mp isSorted
    exact exists_reportAt (written path isPath) (noNull path isPath) hereNoNull
      (spellable path isPath) (short path isPath)
  have oneByOne := forall₂_of_mapM areReported
  have samePaths := map_path_of_forall₂ oneByOne
  have isReportOf : ∀ report ∈ reports,
      reportAt parser disk session.root report.path = .ok report := by
    intro report isReport
    obtain ⟨path, _, reported⟩ := exists_mem_of_forall₂ oneByOne isReport
    rw [path_of_reportAt reported]
    exact reported
  -- The session and the fresh one are both sound, so both answer what `reportAt` tells.
  refine ⟨reports, by rw [answer_processAll sound told, areReported], ?_⟩
  constructor
  · rw [samePaths]
    exact (List.mergeSort_perm _ _).nodup_iff.mpr (nodup_eraseDups _)
  · rw [samePaths]
    exact List.pairwise_mergeSort FilePath.atMost_trans FilePath.atMost_total _
  · rw [samePaths]
    exact mem_iff
  · intro report isReport
    exact unchecked_of_reportAt (isReportOf report isReport)
  · intro report isReport
    rw [sound.onDisk, answer_process fresh disk.toldByTime_self]
    exact isReportOf report isReport

section Examples

attribute [local instance] StrayOctets.privateUse

/-- A file that was looked at before and has changed since, one that is no text, a directory, and a
path that leads nowhere. -/
theorem reports_isolated_after_change :
    let parser : Parser := fun _ octets => ⟨"program", 0, octets.length, true, false, none, []⟩
    let file : FilePath := ⟨.none, ["a.tsx"]⟩
    let present : Disk := ⟨⟨[(["a.tsx"], .file [65] 1), (["b.ts"], .file [255] 2),
      (["c.ts"], .directory 3)], 4⟩, []⟩
    let disk := (Disk.writeOctets file [66]).stateAfter (present.atTime 0)
    let session := ((start present ⟨.root, []⟩ .inMemory []).afterCall parser
      (.process file)).withDisk disk
    let paths : List FilePath :=
      [⟨.none, ["d.ts"]⟩, ⟨.none, ["c.ts"]⟩, ⟨.none, ["b.ts"]⟩, file, file]
    Reached parser [disk, present] session ∧
      ∃ reports, (processAll parser paths).answer session = .ok reports ∧
        Isolated parser session paths reports := by
  intro parser file present disk session paths
  have reached : Reached parser [disk, present] session := by
    refine .change (.call (.start present ⟨.root, []⟩ []) (.process file)) ?_
    exact Disk.renews_writeOctets [66] (by decide +kernel)
  have spelled : ∀ path ∈ paths, (path.absolute session.disk.here).IsSpelled
      (session.root.absolute session.disk.here) := by
    decide +kernel
  refine ⟨reached, reports_isolated reached ?_ ?_ ?_ ?_ ?_⟩
  · decide +kernel
  · decide +kernel
  · decide +kernel
  · intro path isPath
    exact spellable_of_isSpelled (spelled path isPath)
  · decide +kernel

end Examples

/-! ## What a path that is too long from the root does -/

section Long

variable [StrayOctets]

/-- A file that is transformed but cannot be followed from the root has no report: that it cannot be
checked is a failure of the session. -/
theorem reportAt_of_long {changed : Bool} (isWritten : path.IsWritten)
    (noNull : Disk.holdsNull path = false) (hereNoNull : Disk.holdsNull disk.here = false)
    (isSource : transforms path = true)
    (isChecked : (path.absolute disk.here).isProjectSource = true)
    (compared : changesAt parser disk root path = .ok changed)
    (long : FileTree.pathLimit ≤ (path.absolute disk.here).text.utf8ByteSize) :
    reportAt parser disk root path =
      .error (.refused ⟨.nameTooLong, (path.absolute disk.here).text⟩) := by
  have refused : disk.entryAt (path.absolute disk.here) =
      .error (.refused ⟨.nameTooLong, (path.absolute disk.here).text⟩) := by
    unfold Disk.entryAt Disk.locate
    rw [Disk.holdsNull_absolute noNull hereNoNull, if_neg Bool.false_ne_true, if_pos long]
    rfl
  unfold reportAt
  rw [isSource, Bool.not_true, if_neg Bool.false_ne_true, compared, FilePath.ofText_text isWritten]
  dsimp only
  unfold Program.sourceAt
  rw [if_pos isChecked, refused]
  rfl

/-- One file without a report leaves the whole set without. -/
theorem processAll_ne_ok {session : Session} (sound : Sound parser disk past root session)
    (told : disk.ToldByTime (disk :: past)) {paths : List FilePath} (isPath : path ∈ paths)
    {failure : Failure} (fails : reportAt parser disk root path = .error failure)
    (reports : List FileReport) : (processAll parser paths).answer session ≠ .ok reports := by
  rw [answer_processAll sound told]
  intro areReported
  have isSorted : path ∈ paths.eraseDups.mergeSort FilePath.atMost := by
    rw [List.mem_mergeSort, List.mem_eraseDups]
    exact isPath
  obtain ⟨report, _, reported⟩ :=
    exists_mem_of_forall₂ (List.Forall₂.flip (forall₂_of_mapM areReported)) isSorted
  have isReported : reportAt parser disk root path = .ok report := reported
  rw [fails] at isReported
  cases isReported

end Long

/-- A file of the working directory, by way of another directory again and again. -/
def detour : FilePath :=
  ⟨.none, (List.replicate 292 ["components", ".."]).flatten ++ ["a.tsx"]⟩

/-- The working directory with the file and the directory. -/
def detourDisk : Disk :=
  ⟨⟨[(["workspace"], .directory 0), (["workspace", "components"], .directory 1),
    (["workspace", "a.tsx"], .file [] 2)], 3⟩, ["workspace"]⟩

/-- The detour has fewer octets than a path may have, and more when it is seen from the root. -/
private theorem detour_octets :
    detour.text.utf8ByteSize = 4093 ∧
      (detour.absolute detourDisk.here).text.utf8ByteSize = 4104 := by
  have named : detour.names ≠ [] := by decide +kernel
  have alsoNamed : (detour.absolute detourDisk.here).names ≠ [] := by decide +kernel
  have size := FilePath.utf8ByteSize_text named
  have longer := FilePath.utf8ByteSize_text alsoNamed
  have octets : (detour.names.map String.utf8ByteSize).sum = 3509 := by decide +kernel
  have moreOctets :
      ((detour.absolute detourDisk.here).names.map String.utf8ByteSize).sum = 3518 := by
    decide +kernel
  have names : detour.names.length = 585 := by decide +kernel
  have moreNames : (detour.absolute detourDisk.here).names.length = 586 := by decide +kernel
  have noSlash : detour.anchor.text.utf8ByteSize = 0 := rfl
  have slash : (detour.absolute detourDisk.here).anchor.text.utf8ByteSize = 1 := rfl
  omega

/-- The detour leads to the file. -/
private theorem detour_readText : detourDisk.readText detour = .ok "" := by
  have noNull : Disk.holdsNull detour = false := by decide +kernel
  have short : ¬ FileTree.pathLimit ≤ detour.text.utf8ByteSize := by
    rw [detour_octets.1]
    decide
  have resolved : detourDisk.tree.resolve (detour.absolute detourDisk.here).names =
      .ok (["workspace", "a.tsx"], .file [] 2) :=
    eq_ok_of_toOption (by decide +kernel)
  have located : detourDisk.entryAt detour = .ok (["workspace", "a.tsx"], .file [] 2) := by
    unfold Disk.entryAt Disk.locate
    rw [noNull, if_neg Bool.false_ne_true, if_neg short, resolved]
    rfl
  have isRead := Disk.readOctets_eq_ok_iff.mpr ⟨_, _, located⟩
  unfold Disk.readText
  rw [isRead, ok_bind]
  exact eq_ok_of_toOption (by decide +kernel)

section Examples

attribute [local instance] StrayOctets.privateUse

theorem report_suppressed_by_long_path :
    let parser : Parser := fun _ octets => ⟨"program", 0, octets.length, true, false, none, []⟩
    let session := start detourDisk ⟨.root, ["workspace"]⟩ .inMemory []
    let short : FilePath := ⟨.none, ["a.tsx"]⟩
    Reached parser [detourDisk] session ∧
      (∀ path ∈ [short, detour], path.IsWritten ∧ Disk.holdsNull path = false) ∧
      (∃ report, (process parser short).answer session = .ok report) ∧
      ∀ reports, (processAll parser [short, detour]).answer session ≠ .ok reports := by
  intro parser session short
  have reached : Reached parser [detourDisk] session := .start detourDisk ⟨.root, ["workspace"]⟩ []
  have sound : Sound parser detourDisk [] ⟨.root, ["workspace"]⟩ session :=
    ⟨rfl, rfl, rfl, Program.readFrom_ofFiles []⟩
  have areWritten : ∀ path ∈ [short, detour], path.IsWritten ∧ Disk.holdsNull path = false := by
    decide +kernel
  obtain ⟨isWritten, noNull⟩ := areWritten detour (by simp)
  have told := detourDisk.toldByTime_self
  have noNullHere : Disk.holdsNull detourDisk.here = false := by decide +kernel
  refine ⟨reached, areWritten, ?_, ?_⟩
  · obtain ⟨shortWritten, shortNoNull⟩ := areWritten short (by simp)
    rw [answer_process sound told]
    exact exists_reportAt shortWritten shortNoNull noNullHere
      (spellable_of_isSpelled (by decide +kernel)) (by decide +kernel)
  · have compared : changesAt parser detourDisk ⟨.root, ["workspace"]⟩ detour = .ok false := by
      unfold changesAt
      rw [detour_readText, ok_bind]
      exact eq_ok_of_toOption (by decide +kernel)
    have fails := reportAt_of_long isWritten noNull noNullHere (by decide +kernel)
      (by decide +kernel) compared (by rw [detour_octets.2]; decide)
    exact processAll_ne_ok sound told (by simp) fails

end Examples

end Session

end ImportBoundary
