import ImportBoundary.Session.Cache
import ImportBoundary.Proofs.Files.History
import ImportBoundary.Proofs.Syntax.Language

/-!
Contract: what a program answers about a file, whatever it has read before.

Owns everything that one call can do, the programs that calls lead to while the disk changes between
them, and what such a program keeps: a reading is dropped only when its file is missing, but whatever
is kept was read from a file that stood at its path, at the time it is kept with. On a disk that tells
files by their times, a kept reading with the time of the file is therefore one of the file.

Main statements: `source_of_load`, by which the cache changes no answer, and `load_current`.
-/

namespace ImportBoundary

namespace Program

variable {parser : Parser} {disk present : Disk} {past history : List Disk} {program : Program}
  {path : FilePath}

/-! ## One call -/

/-- What a call about the file at an absolute path can do. -/
inductive Loads (parser : Parser) (disk : Disk) (path : FilePath) (program : Program) :
    EStateM.Result Failure Program (Option LoadedSource) → Prop
  | foreign (isForeign : path.isProjectSource = false) :
      Loads parser disk path program (.ok none program)
  | missing (isSource : path.isProjectSource = true) (text : String)
      (isMissing : disk.entryAt path = .error (.refused ⟨.missing, text⟩)) :
      Loads parser disk path program (.ok none (program.forget path))
  | refused (isSource : path.isProjectSource = true) (failure : Failure)
      (isRefused : disk.entryAt path = .error failure)
      (present : ∀ text, failure ≠ .refused ⟨.missing, text⟩) :
      Loads parser disk path program (.error failure program)
  | known (isSource : path.isProjectSource = true) (names : List String) (entry : Entry)
      (reading : LoadedSource) (located : disk.entryAt path = .ok (names, entry))
      (isKept : (path, reading) ∈ program.loaded) (sameTime : reading.written = entry.written) :
      Loads parser disk path program (.ok (some reading) program)
  | directory (isSource : path.isProjectSource = true) (names : List String) (written : Nat)
      (located : disk.entryAt path = .ok (names, .directory written)) :
      Loads parser disk path program (.error (.refused ⟨.isDirectory, path.text⟩) program)
  | read (isSource : path.isProjectSource = true) (names : List String) (octets : List UInt8)
      (written : Nat) (source : Source)
      (located : disk.entryAt path = .ok (names, .file octets written))
      (isParsed : Source.parse parser octets path none = .ok source) :
      Loads parser disk path program
        (.ok (some (program.remember path written source).1)
          (program.remember path written source).2)

theorem mem_of_lookup {reading : LoadedSource}
    (isFound : program.loaded.lookup path = some reading) : (path, reading) ∈ program.loaded := by
  obtain ⟨before, after, split, _⟩ := List.lookup_eq_some_iff.mp isFound
  rw [split]
  exact List.mem_append_right before List.mem_cons_self

theorem reload_directory {names : List String} {written time : Nat}
    (located : disk.entryAt path = .ok (names, .directory written)) :
    reload parser disk path time program =
      .error (.refused ⟨.isDirectory, path.text⟩) program := by
  have refused : disk.readOctets path = .error (.refused ⟨.isDirectory, path.text⟩) := by
    rw [Disk.readOctets, located]
    rfl
  rw [reload, refused]
  rfl

theorem exists_reload (isSource : path.isProjectSource = true) {names : List String}
    {octets : List UInt8} {written time : Nat}
    (located : disk.entryAt path = .ok (names, .file octets written)) :
    ∃ source, Source.parse parser octets path none = .ok source ∧
      reload parser disk path time program =
        .ok (program.remember path time source).1 (program.remember path time source).2 := by
  obtain ⟨language, ofPath⟩ := FilePath.exists_language isSource
  have isParsed : Source.parse parser octets path none = .ok _ :=
    Source.parse_eq_ok_iff.mpr ⟨language, ofPath, rfl⟩
  have isRead := Disk.readOctets_eq_ok_iff.mpr ⟨names, written, located⟩
  refine ⟨_, isParsed, ?_⟩
  rw [reload, isRead, ok_bind, isParsed]

theorem loads_load (parser : Parser) (disk : Disk) (file : String) (program : Program) :
    Loads parser disk ((FilePath.ofText file).absolute disk.here) program
      (load parser disk file program) := by
  unfold load
  generalize (FilePath.ofText file).absolute disk.here = path
  dsimp only
  cases isSource : path.isProjectSource with
  | false =>
      rw [Bool.not_false, if_pos rfl]
      exact .foreign isSource
  | true =>
      rw [Bool.not_true, if_neg Bool.false_ne_true]
      cases located : disk.entryAt path with
      | error failure =>
          split
          · rename_i text same
            obtain rfl := Except.error.inj same
            exact .missing isSource text located
          · rename_i other present same
            obtain rfl := Except.error.inj same
            exact .refused isSource _ located fun text isMissing => present text (isMissing ▸ rfl)
          · rename_i differs
            cases differs
      | ok found =>
          obtain ⟨names, entry⟩ := found
          dsimp only
          split
          · rename_i reading isKept
            obtain ⟨isFound, sameTime⟩ := Option.filter_eq_some_iff.mp isKept
            exact .known isSource names entry reading located (mem_of_lookup isFound)
              (of_decide_eq_true sameTime)
          · cases entry with
            | directory written =>
                rw [reload_directory located]
                exact .directory isSource names written located
            | file octets written =>
                obtain ⟨source, isParsed, reloaded⟩ := exists_reload isSource located
                rw [reloaded]
                exact .read isSource names octets written source located isParsed

/-! ## What a program keeps -/

/-- Whatever a program keeps was read from a file that one of some disks held at its path, at the
time it is kept with. -/
def ReadFrom (parser : Parser) (history : List Disk) (program : Program) : Prop :=
  ∀ path reading, (path, reading) ∈ program.loaded →
    Source.parse parser reading.source.octets path none = .ok reading.source ∧
      ∃ earlier ∈ history, earlier.tree.at? path.normalNames =
        some (.file reading.source.octets reading.written)

theorem readFrom_ofFiles (files : List FilePath) :
    ReadFrom parser history (ofFiles disk files) :=
  fun _ _ isKept => by cases isKept

theorem ReadFrom.cons (readFrom : ReadFrom parser history program) (disk : Disk) :
    ReadFrom parser (disk :: history) program := by
  intro path reading isKept
  obtain ⟨isParsed, earlier, isEarlier, stood⟩ := readFrom path reading isKept
  exact ⟨isParsed, earlier, List.mem_cons_of_mem disk isEarlier, stood⟩

theorem ReadFrom.forget (readFrom : ReadFrom parser history program) (path : FilePath) :
    ReadFrom parser history (program.forget path) :=
  fun other reading isKept => readFrom other reading (List.mem_filter.mp isKept).1

/-- A call keeps what was read from earlier disks, and adds what it reads from the disk. -/
theorem ReadFrom.load (readFrom : ReadFrom parser (disk :: past) program) (file : String) :
    ReadFrom parser (disk :: past) ((load parser disk file).stateAfter program) := by
  have isAbsolute := (FilePath.ofText file).isAbsolute_absolute disk.isAbsolute_here
  have loads := loads_load parser disk file program
  unfold Action.stateAfter
  generalize (FilePath.ofText file).absolute disk.here = path at isAbsolute loads
  generalize Program.load parser disk file program = outcome at loads
  cases loads with
  | foreign isForeign => exact readFrom
  | missing isSource text isMissing => exact readFrom.forget path
  | refused isSource failure isRefused present => exact readFrom
  | known isSource names entry reading located isKept sameTime => exact readFrom
  | directory isSource names written located => exact readFrom
  | read isSource names octets written source located isParsed =>
      intro other reading isKept
      rcases List.mem_cons.mp isKept with isNew | isOld
      · cases isNew
        have sameOctets := Source.octets_of_parse isParsed
        obtain ⟨isNames, stands⟩ := Disk.at?_of_locate (Disk.locate_of_entryAt located)
        rw [FilePath.absolute_of_isAbsolute isAbsolute] at isNames
        rw [isNames] at stands
        exact ⟨by rw [sameOctets, isParsed], disk, List.mem_cons_self, by rw [sameOctets, stands]⟩
      · exact readFrom.forget path other reading isOld

/-! ## What a program answers -/

/-- The source of the file at an absolute path as the disk has it. -/
def sourceAt (parser : Parser) (disk : Disk) (path : FilePath) : Except Failure (Option Source) :=
  if path.isProjectSource then
    match disk.entryAt path with
    | .error (.refused ⟨.missing, _⟩) => .ok none
    | .error failure => .error failure
    | .ok (_, .directory _) => .error (.refused ⟨.isDirectory, path.text⟩)
    | .ok (_, .file octets _) => (Source.parse parser octets path none).map some
  else .ok none

/-- The cache changes no answer. -/
theorem source_of_load (readFrom : ReadFrom parser (disk :: past) program)
    (told : disk.ToldByTime (disk :: past)) (file : String) :
    ((load parser disk file).answer program).map (Option.map LoadedSource.source) =
      sourceAt parser disk ((FilePath.ofText file).absolute disk.here) := by
  have isAbsolute := (FilePath.ofText file).isAbsolute_absolute disk.isAbsolute_here
  have loads := loads_load parser disk file program
  unfold Action.answer sourceAt
  generalize (FilePath.ofText file).absolute disk.here = path at isAbsolute loads
  generalize Program.load parser disk file program = outcome at loads
  cases loads with
  | foreign isForeign =>
      rw [if_neg (by rw [isForeign]; exact Bool.false_ne_true)]
      rfl
  | missing isSource text isMissing =>
      rw [if_pos isSource, isMissing]
      rfl
  | refused isSource failure isRefused present =>
      rw [if_pos isSource, isRefused]
      symm
      split
      · rename_i text same
        exact absurd (Except.error.inj same) (present text)
      · rename_i same
        rw [Except.error.inj same]
        rfl
      · rename_i differs
        cases differs
      · rename_i differs
        cases differs
  | known isSource names entry reading located isKept sameTime =>
      -- The kept reading has the time of what stands at the path, which is therefore its file.
      obtain ⟨isParsed, earlier, isEarlier, stood⟩ := readFrom path reading isKept
      obtain ⟨isNames, stands⟩ := Disk.at?_of_locate (Disk.locate_of_entryAt located)
      rw [FilePath.absolute_of_isAbsolute isAbsolute] at isNames
      rw [← isNames, sameTime] at stood
      have isFile := told names entry stands earlier isEarlier _ stood
      rw [if_pos isSource, located, isFile]
      dsimp only
      rw [isParsed]
      rfl
  | directory isSource names written located =>
      rw [if_pos isSource, located]
      rfl
  | read isSource names octets written source located isParsed =>
      rw [if_pos isSource, located]
      dsimp only
      rw [isParsed]
      rfl

/-! ## Runs of calls on a changing disk -/

/-- The programs that calls can lead to, also calls that fail, while each new disk renews the one
before. The disks come newest first. -/
inductive Reached (parser : Parser) : List Disk → Program → Prop
  | start (disk : Disk) (files : List FilePath) : Reached parser [disk] (ofFiles disk files)
  | change {disk present : Disk} {past : List Disk} {program : Program}
      (reached : Reached parser (present :: past) program) (renews : disk.Renews present past) :
      Reached parser (disk :: present :: past) program
  | load {disk : Disk} {past : List Disk} {program : Program}
      (reached : Reached parser (disk :: past) program) (file : String) :
      Reached parser (disk :: past) ((load parser disk file).stateAfter program)

theorem Reached.readFrom (reached : Reached parser history program) :
    ReadFrom parser history program := by
  induction reached with
  | start disk files => exact readFrom_ofFiles files
  | change _ _ inductionHypothesis => exact inductionHypothesis.cons _
  | load _ file inductionHypothesis => exact inductionHypothesis.load file

theorem Reached.told (reached : Reached parser history program) :
    ∀ disk past, history = disk :: past → disk.ToldByTime history := by
  induction reached with
  | start disk files =>
      rintro _ _ ⟨⟩
      exact disk.toldByTime_self
  | change _ renews inductionHypothesis =>
      rintro _ _ ⟨⟩
      exact (inductionHypothesis _ _ rfl).renewed renews
  | load _ _ inductionHypothesis => exact inductionHypothesis

/-- A source is the file at a path, as the disk has it. -/
structure IsFileOn (disk : Disk) (parser : Parser) (path : FilePath) (source : Source) : Prop where
  octets : disk.readOctets path = .ok source.octets
  path : source.path = path
  language : Language.ofPath source.path = .ok source.language
  root : source.root = parser source.language source.octets

/-- An answer about the file at an absolute path is true of the disk: there is none exactly for what
is no source of a project or no file, and otherwise it is the file. A call fails only for what stands
in the way of a file. -/
structure Current (parser : Parser) (disk : Disk) (path : FilePath)
    (answer : Except Failure (Option LoadedSource)) : Prop where
  none_iff : ∀ found, answer = .ok found →
    (found = none ↔ path.isProjectSource = false ∨ disk.isFile path = .ok false)
  file : ∀ reading, answer = .ok (some reading) → IsFileOn disk parser path reading.source
  answers : path.isProjectSource = false ∨ disk.isFile path = .ok true ∨
      disk.entryAt path = .error (.refused ⟨.missing, path.text⟩) → ∃ found, answer = .ok found

theorem sourceAt_eq_ok_none (answered : sourceAt parser disk path = .ok none) :
    path.isProjectSource = false ∨ disk.isFile path = .ok false := by
  unfold sourceAt at answered
  cases isSource : path.isProjectSource with
  | false => exact .inl rfl
  | true =>
      right
      rw [if_pos isSource] at answered
      unfold Disk.isFile Disk.leadsTo
      split at answered
      · rename_i text isMissing
        rw [isMissing]
      · cases answered
      · cases answered
      · obtain ⟨_, _, isSome⟩ := map_eq_ok_iff.mp answered
        cases isSome

theorem sourceAt_eq_ok_some {source : Source}
    (answered : sourceAt parser disk path = .ok (some source)) :
    path.isProjectSource = true ∧ IsFileOn disk parser path source := by
  unfold sourceAt at answered
  cases isSource : path.isProjectSource with
  | false =>
      rw [if_neg (by rw [isSource]; exact Bool.false_ne_true)] at answered
      cases answered
  | true =>
      rw [if_pos isSource] at answered
      refine ⟨rfl, ?_⟩
      split at answered
      · cases answered
      · cases answered
      · cases answered
      · rename_i names octets written located
        obtain ⟨parsed, isParsed, isSome⟩ := map_eq_ok_iff.mp answered
        cases isSome
        obtain ⟨language, ofPath, rfl⟩ := Source.parse_eq_ok_iff.mp isParsed
        exact ⟨Disk.readOctets_eq_ok_iff.mpr ⟨names, written, located⟩, rfl, ofPath, rfl⟩

theorem exists_sourceAt (reason : path.isProjectSource = false ∨ disk.isFile path = .ok true ∨
    disk.entryAt path = .error (.refused ⟨.missing, path.text⟩)) :
    ∃ found, sourceAt parser disk path = .ok found := by
  unfold sourceAt
  cases isSource : path.isProjectSource with
  | false => exact ⟨none, rfl⟩
  | true =>
      rw [if_pos rfl]
      rcases reason with isForeign | isFile | isMissing
      · rw [isSource] at isForeign
        cases isForeign
      · obtain ⟨octets, isRead⟩ := Disk.isFile_eq_ok_true_iff.mp isFile
        obtain ⟨names, written, located⟩ := Disk.readOctets_eq_ok_iff.mp isRead
        obtain ⟨language, ofPath⟩ := FilePath.exists_language isSource
        rw [located]
        exact ⟨_, map_eq_ok_iff.mpr ⟨_, Source.parse_eq_ok_iff.mpr ⟨language, ofPath, rfl⟩, rfl⟩⟩
      · rw [isMissing]
        exact ⟨none, rfl⟩

/-- Whatever a program has read while the disk changed, its answer is true of the disk as it is. -/
theorem load_current (reached : Reached parser (disk :: past) program) (file : String) :
    Current parser disk ((FilePath.ofText file).absolute disk.here)
      ((load parser disk file).answer program) := by
  have sources := source_of_load reached.readFrom (reached.told disk past rfl) file
  constructor
  · intro found answered
    rw [answered] at sources
    constructor
    · rintro rfl
      exact sourceAt_eq_ok_none sources.symm
    · intro isNone
      cases found with
      | none => rfl
      | some reading =>
          obtain ⟨isSource, isFileOn⟩ := sourceAt_eq_ok_some sources.symm
          have isFile := Disk.isFile_eq_ok_true_iff.mpr ⟨_, isFileOn.octets⟩
          rw [isSource, isFile] at isNone
          rcases isNone with isForeign | noFile
          · cases isForeign
          · cases noFile
  · intro reading answered
    rw [answered] at sources
    exact (sourceAt_eq_ok_some sources.symm).2
  · intro reason
    obtain ⟨found, isSource⟩ := exists_sourceAt reason
    rw [isSource] at sources
    obtain ⟨reading, answered, _⟩ := map_eq_ok_iff.mp sources
    exact ⟨reading, answered⟩

/-- A file is read, deleted, and made again at an earlier time; then it is read from a directory. -/
theorem load_current_after_return :
    let parser : Parser := fun _ octets => ⟨"program", 0, octets.length, true, false, none, []⟩
    let path : FilePath := ⟨.root, ["a.tsx"]⟩
    let first : Disk := ⟨⟨[(["app"], .directory 3), (["a.tsx"], .file [65] 1)], 4⟩, []⟩
    let second : Disk := ⟨⟨[(["app"], .directory 3)], 4⟩, []⟩
    let third := (Disk.writeOctets path [66]).stateAfter (second.atTime 0)
    let fourth : Disk := ⟨third.tree, ["app"]⟩
    let program := (load parser first "/a.tsx").stateAfter (ofFiles first [])
    Reached parser [fourth, third, second, first] program ∧
      Current parser fourth ((FilePath.ofText "../a.tsx").absolute fourth.here)
        ((load parser fourth "../a.tsx").answer program) := by
  intro parser path first second third fourth program
  have isDeleted : first.delete path = .ok second := eq_ok_of_toOption (by decide +kernel)
  have isEntered : third.enter ⟨.none, ["app"]⟩ = .ok fourth := eq_ok_of_toOption (by decide +kernel)
  have reached : Reached parser [fourth, third, second, first] program := by
    refine .change (.change (.change (.load (.start first []) "/a.tsx") ?_) ?_) ?_
    · exact Disk.renews_delete isDeleted
    · exact Disk.renews_writeOctets [66] (by decide +kernel)
    · exact Disk.renews_enter isEntered
  exact ⟨reached, load_current reached "../a.tsx"⟩

end Program

end ImportBoundary
