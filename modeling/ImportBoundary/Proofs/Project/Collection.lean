import ImportBoundary.Proofs.Files.Glob
import ImportBoundary.Proofs.Project.Exclusion

/-!
Contract: the sources of a project as a set.

Owns which paths the files and the include entries of the settings name, in terms of the tree alone, and
that the collected sources are exactly the sources among these that no entry excludes: in order, each
once, and the same for settings that differ in the order or the repetition of their entries.

An entry that names a directory is not read as a pattern. The pattern that stands for missing entries is
read like any other, so everything is included only where no directory has its name.

Main statement: `sourceFiles_collected`, from `answered_of_searchable` for one include entry.
-/

namespace ImportBoundary.Project

open FilePath (Before)

variable {disk : Disk} {settings other : Settings} {root path : FilePath} {entry : String}

/-! ## What the settings name -/

/-- An include entry stands for all that is below it where it names a directory, and else, read as a
pattern, for what it matches below the root. -/
inductive StandsFor (disk : Disk) (root : FilePath) (entry : String) : FilePath → Prop where
  | below {names : List String} (isDirectory : disk.isDirectory (root.joinText entry) = .ok true)
    (proper : ".." ∉ names) : StandsFor disk root entry ((root.joinText entry).beneath names)
  | matched {parts : List Glob.Part} {names : List String}
    (noDirectory : disk.isDirectory (root.joinText entry) ≠ .ok true)
    (reads : Glob.parts entry = .ok parts) (isMatch : Glob.Matches parts names)
    (endsInName : Glob.endsInName parts = true) (proper : ".." ∉ names) :
    StandsFor disk root entry (root.beneath names)

/-- The paths that the settings name: those of the files, those that the include entries stand for, and
all below the root where there is neither file nor include entry. -/
inductive Settings.Includes (settings : Settings) (disk : Disk) : FilePath → Prop where
  | file {entry : String} (member : entry ∈ settings.files) :
    settings.Includes disk (settings.root.joinText entry)
  | entry {entry : String} {path : FilePath} (member : entry ∈ settings.includes)
    (stands : StandsFor disk settings.root entry path) : settings.Includes disk path
  | everything {names : List String} (noFiles : settings.files = [])
    (noIncludes : settings.includes = []) (nonempty : names ≠ []) (proper : ".." ∉ names) :
    settings.Includes disk (settings.root.beneath names)

/-- What is to be collected: the files that the settings name, if they are sources and not excluded. -/
structure Settings.IsSource (settings : Settings) (disk : Disk) (path : FilePath) : Prop where
  isFile : disk.isFile path = .ok true
  isProjectSource : path.isProjectSource = true
  unexcluded : isExcluded (settings.relative disk path) settings.excludesInForce = false
  included : settings.Includes disk path

/-! ## One include entry -/

/-- An include entry names a directory or is a pattern without `..`, and one can ask about the paths that
it leads to. -/
structure Searchable (disk : Disk) (root : FilePath) (entry : String) : Prop where
  answers : disk.Answers (root.joinText entry)
  wellFormed : disk.isDirectory (root.joinText entry) = .ok true ∨
    ∃ parts, Glob.parts entry = .ok parts ∧ ".." ∉ (FilePath.ofText entry).names ∧
      Glob.Followable disk root parts

/-- The search for an include entry finds paths that can be asked about, and among the files those that
the entry stands for. -/
def Answered (disk : Disk) (root : FilePath) (entry : String) : Prop :=
  ∃ found, includedBy disk root entry = .ok found ∧
    (∀ path ∈ found, disk.locate path ≠ .error .nameTooLong ∧ path.IsWritten) ∧
    ∀ path, disk.isFile path = .ok true → (path ∈ found ↔ StandsFor disk root entry path)

theorem standsFor_iff_of_directory (isDirectory : disk.isDirectory (root.joinText entry) = .ok true) :
    StandsFor disk root entry path ↔
      ∃ names, ".." ∉ names ∧ path = (root.joinText entry).beneath names := by
  constructor
  · intro stands
    cases stands with
    | below _ proper => exact ⟨_, proper, rfl⟩
    | matched noDirectory _ _ _ _ => exact absurd isDirectory noDirectory
  · rintro ⟨names, proper, rfl⟩
    exact .below isDirectory proper

theorem standsFor_iff_of_pattern {parts : List Glob.Part}
    (noDirectory : disk.isDirectory (root.joinText entry) ≠ .ok true)
    (reads : Glob.parts entry = .ok parts) :
    StandsFor disk root entry path ↔
      ∃ names, (Glob.Matches parts names ∧ Glob.endsInName parts = true ∧ ".." ∉ names) ∧
        path = root.beneath names := by
  constructor
  · intro stands
    cases stands with
    | below isDirectory _ => exact absurd isDirectory noDirectory
    | matched _ alsoReads isMatch endsInName proper =>
        cases reads.symm.trans alsoReads
        exact ⟨_, ⟨isMatch, endsInName, proper⟩, rfl⟩
  · rintro ⟨names, ⟨isMatch, endsInName, proper⟩, rfl⟩
    exact .matched noDirectory reads isMatch endsInName proper

section Entry

variable (sound : disk.tree.Sound) (isWritten : root.IsWritten)
include sound isWritten

theorem answered_of_directory (answers : disk.Answers (root.joinText entry))
    (isDirectory : disk.isDirectory (root.joinText entry) = .ok true) : Answered disk root entry := by
  obtain ⟨here, opens⟩ := answers.exists_opens sound isDirectory
  refine ⟨disk.filesBelow (root.joinText entry), ?_, fun path member => ?_, fun path isFile => ?_⟩
  · rw [includedBy, isDirectory]
    rfl
  · obtain ⟨names, octets, written, stands, rfl⟩ := (opens.mem_filesBelow_iff sound).mp member
    exact ⟨opens.answers names _ stands,
      Disk.Opens.isWritten_beneath sound (FilePath.isWritten_joinText isWritten entry) stands⟩
  · rw [opens.mem_filesBelow_iff sound, standsFor_iff_of_directory isDirectory]
    constructor
    · rintro ⟨names, octets, written, stands, rfl⟩
      exact ⟨names, sound.proper stands, rfl⟩
    · rintro ⟨names, proper, rfl⟩
      obtain ⟨octets, written, stands⟩ := (opens.isFile_iff sound proper).mp isFile
      exact ⟨names, octets, written, stands, rfl⟩

/-- A pattern is followed from the root. Where this is no directory, there is no file below it. -/
theorem answered_of_pattern {parts : List Glob.Part} (rootAnswers : disk.Answers root)
    (noDirectory : disk.isDirectory (root.joinText entry) = .ok false)
    (reads : Glob.parts entry = .ok parts) (noneUp : ".." ∉ (FilePath.ofText entry).names)
    (followable : Glob.Followable disk root parts) : Answered disk root entry := by
  obtain ⟨isDirectory, answered⟩ := Disk.exists_leadsTo rootAnswers.1 Entry.isDirectory
  have includedBy_eq : includedBy disk root entry =
      if isDirectory then Glob.selectParts disk parts root else .ok [] := by
    rw [includedBy, noDirectory, ok_bind, if_neg Bool.false_ne_true, Glob.select, reads, ok_bind]
    exact congrArg (· >>= _) answered
  rw [Answered, includedBy_eq]
  simp only [standsFor_iff_of_pattern (by rw [noDirectory]; simp) reads]
  cases isDirectory with
  | false =>
      refine ⟨[], rfl, fun path member => absurd member List.not_mem_nil, fun path isFile => ?_⟩
      refine ⟨fun member => absurd member List.not_mem_nil, ?_⟩
      rintro ⟨names, ⟨isMatch, endsInName, _⟩, rfl⟩
      have goesOn : names ≠ [] := by
        rintro rfl
        cases endsInName.symm.trans (Glob.endsInName_of_matches_nil isMatch)
      cases answered.symm.trans (Disk.isDirectory_of_leadsTo_beneath rootAnswers.1 goesOn isFile)
  | true =>
      obtain ⟨here, opens⟩ := rootAnswers.exists_opens sound answered
      have asked := followable.namesAnswer sound opens fun text isPart =>
        ne_of_mem_of_not_mem (Glob.mem_names_of_mem_parts reads isPart) noneUp
      obtain ⟨found, selected, found_iff⟩ := Glob.exists_selectParts sound parts root here opens asked
      refine ⟨found, selected, fun path member => ?_, fun path isFile => ?_⟩
      · obtain ⟨names, ⟨entry, stands, _⟩, rfl⟩ := (found_iff path).mp member
        exact ⟨opens.answers names entry stands, Disk.Opens.isWritten_beneath sound isWritten stands⟩
      · rw [found_iff]
        refine exists_congr fun names => and_congr_left ?_
        rintro rfl
        exact Glob.selects_iff_of_isFile sound opens isFile

theorem answered_of_searchable (rootAnswers : disk.Answers root)
    (searchable : Searchable disk root entry) : Answered disk root entry := by
  obtain ⟨isDirectory, answered⟩ := Disk.exists_leadsTo searchable.answers.1 Entry.isDirectory
  cases isDirectory with
  | true => exact answered_of_directory sound isWritten searchable.answers answered
  | false =>
      obtain ⟨parts, reads, noneUp, followable⟩ := searchable.wellFormed.resolve_left fun leads => by
        cases answered.symm.trans leads
      exact answered_of_pattern sound isWritten rootAnswers answered reads noneUp followable

end Entry

/-! ## Missing entries -/

theorem matches_everything_iff {names : List String} :
    Glob.Matches [.anyDepth, .wildcard "*"] names ↔ names ≠ [] := by
  constructor
  · rintro isMatch rfl
    cases Glob.endsInName_of_matches_nil isMatch
  · intro nonempty
    rw [← List.dropLast_concat_getLast nonempty]
    exact .anyDepth _ (.one (.wildcard (Wildcard.fits_star _)) .nil)

/-- Where neither files nor include entries are given, all that is below the root is included, unless a
directory has the name of the pattern that is then read. -/
theorem standsFor_default_iff {entry : String} (isDefault : entry ∈ defaultIncludes)
    (unoccupied : disk.isDirectory (root.joinText entry) ≠ .ok true) :
    StandsFor disk root entry path ↔
      ∃ names, names ≠ [] ∧ ".." ∉ names ∧ path = root.beneath names := by
  rw [List.mem_singleton.mp isDefault] at unoccupied ⊢
  have reads : Glob.parts "**/*" = .ok [.anyDepth, .wildcard "*"] := by decide +kernel
  rw [standsFor_iff_of_pattern unoccupied reads]
  refine exists_congr fun names => ?_
  rw [matches_everything_iff, and_assoc, and_iff_right (show Glob.endsInName _ = true from rfl)]

/-! ## The candidates -/

/-- Settings with which the sources of a project can be collected: the root is a path that a text can
write, each include entry can be searched for, no path is too long to be asked about, and no directory has
the name of the pattern that is read where neither files nor include entries are given. -/
structure Collectable (disk : Disk) (settings : Settings) : Prop where
  sound : disk.tree.Sound
  isWritten : settings.root.IsWritten
  rootAnswers : disk.Answers settings.root
  filesAnswer : ∀ entry ∈ settings.files,
    disk.locate (settings.root.joinText entry) ≠ .error .nameTooLong
  searchable : ∀ entry ∈ settings.includesInForce, Searchable disk settings.root entry
  unoccupied : settings.files = [] → settings.includes = [] → ∀ entry ∈ defaultIncludes,
    disk.isDirectory (settings.root.joinText entry) ≠ .ok true

theorem includes_iff (collectable : Collectable disk settings) :
    settings.Includes disk path ↔
      path ∈ settings.files.map settings.root.joinText ∨
        ∃ entry ∈ settings.includesInForce, StandsFor disk settings.root entry path := by
  unfold Settings.includesInForce
  constructor
  · intro includes
    cases includes with
    | file member => exact .inl (List.mem_map_of_mem member)
    | entry member stands =>
        have nonempty : settings.includes ≠ [] := List.ne_nil_of_mem member
        rw [if_pos (by simpa using nonempty)]
        exact .inr ⟨_, member, stands⟩
    | everything noFiles noIncludes nonempty proper =>
        rw [noFiles, noIncludes]
        have unoccupied := collectable.unoccupied noFiles noIncludes _ List.mem_cons_self
        exact .inr ⟨_, List.mem_cons_self,
          (standsFor_default_iff List.mem_cons_self unoccupied).mpr ⟨_, nonempty, proper, rfl⟩⟩
  · rintro (isFile | ⟨entry, inForce, stands⟩)
    · obtain ⟨entry, member, rfl⟩ := List.mem_map.mp isFile
      exact .file member
    · split at inForce
      · exact .entry inForce stands
      · rename_i noIncludes
        split at inForce
        · cases inForce
        · rename_i noFiles
          have noFiles : settings.files = [] := by simpa using noFiles
          have noIncludes : settings.includes = [] := by simpa using noIncludes
          have unoccupied := collectable.unoccupied noFiles noIncludes entry inForce
          obtain ⟨names, nonempty, proper, rfl⟩ :=
            (standsFor_default_iff inForce unoccupied).mp stands
          exact .everything noFiles noIncludes nonempty proper

/-- The paths that are looked at can all be asked about, and the files among them are those that the
settings name. -/
theorem exists_candidates (collectable : Collectable disk settings) :
    ∃ included, settings.includesInForce.mapM (includedBy disk settings.root) = .ok included ∧
      (∀ path ∈ settings.files.map settings.root.joinText ++ included.flatten,
        disk.locate path ≠ .error .nameTooLong ∧ path.IsWritten) ∧
      ∀ path, disk.isFile path = .ok true →
        (path ∈ settings.files.map settings.root.joinText ++ included.flatten ↔
          settings.Includes disk path) := by
  have answered := fun entry inForce => answered_of_searchable collectable.sound collectable.isWritten
    collectable.rootAnswers (collectable.searchable entry inForce)
  obtain ⟨included, areIncluded⟩ :=
    exists_mapM fun entry inForce => (answered entry inForce).imp fun _ => And.left
  refine ⟨included, areIncluded, fun path member => ?_, fun path isFile => ?_⟩
  · rcases List.mem_append.mp member with isFile | isIncluded
    · obtain ⟨entry, isEntry, rfl⟩ := List.mem_map.mp isFile
      exact ⟨collectable.filesAnswer entry isEntry,
        FilePath.isWritten_joinText collectable.isWritten entry⟩
    · obtain ⟨entry, inForce, found, isFound, member⟩ :=
        (mem_flatten_of_mapM_iff areIncluded).mp isIncluded
      obtain ⟨same, alsoFound, askable, _⟩ := answered entry inForce
      cases isFound.symm.trans alsoFound
      exact askable path member
  · rw [List.mem_append, includes_iff collectable, mem_flatten_of_mapM_iff areIncluded]
    refine or_congr_right (exists_congr fun entry => and_congr_right fun inForce => ?_)
    obtain ⟨found, isFound, _, stands_iff⟩ := answered entry inForce
    rw [← stands_iff path isFile]
    constructor
    · rintro ⟨same, alsoFound, member⟩
      cases isFound.symm.trans alsoFound
      exact member
    · exact fun member => ⟨found, isFound, member⟩

/-! ## The collected sources -/

theorem exists_selects (answers : disk.locate path ≠ .error .nameTooLong) :
    ∃ answer, settings.selects disk path = .ok answer := by
  obtain ⟨isFile, answered⟩ := Disk.exists_leadsTo answers Entry.isFile
  exact ⟨_, bind_eq_ok_iff.mpr ⟨isFile, answered, rfl⟩⟩

/-- Sorted and without repetitions, paths that texts can write are in order. -/
theorem pairwise_before {selected : List FilePath} (areWritten : ∀ path ∈ selected, path.IsWritten) :
    (selected.mergeSort FilePath.atMost).eraseDups.Pairwise Before := by
  have ordered := (List.pairwise_mergeSort FilePath.atMost_trans FilePath.atMost_total selected).sublist
    (eraseDups_sublist _)
  refine (ordered.and (nodup_eraseDups _)).imp_of_mem fun {left right} isLeft isRight related => ?_
  rw [List.mem_eraseDups, List.mem_mergeSort] at isLeft isRight
  refine Bool.eq_false_iff.mpr fun back => related.2 ?_
  exact FilePath.eq_of_atMost (areWritten _ isLeft) (areWritten _ isRight) related.1 back

theorem exists_sourceFiles (collectable : Collectable disk settings) :
    ∃ files, sourceFiles disk settings = .ok files ∧ files.Pairwise Before ∧
      ∀ path, path ∈ files ↔ settings.IsSource disk path := by
  obtain ⟨included, areIncluded, askable, includes_iff⟩ := exists_candidates collectable
  have selects : ∀ path ∈ settings.files.map settings.root.joinText ++ included.flatten,
      ∃ answer, settings.selects disk path = .ok answer :=
    fun path member => exists_selects (askable path member).1
  have filtered := filterM_eq_ok_iff.mpr ⟨selects, rfl⟩
  refine ⟨_, bind_eq_ok_iff.mpr ⟨included, areIncluded, bind_eq_ok_iff.mpr ⟨_, filtered, rfl⟩⟩, ?_,
    fun path => ?_⟩
  · exact pairwise_before fun path member =>
      (askable path ((mem_filterM_iff filtered).mp member).1).2
  · rw [List.mem_eraseDups, List.mem_mergeSort, mem_filterM_iff filtered, selects_eq_ok_true_iff]
    constructor
    · rintro ⟨member, isFile, isSource, unexcluded⟩
      exact ⟨isFile, isSource, unexcluded, (includes_iff path isFile).mp member⟩
    · rintro ⟨isFile, isSource, unexcluded, isIncluded⟩
      exact ⟨(includes_iff path isFile).mpr isIncluded, isFile, isSource, unexcluded⟩

/-! ## Settings with the same entries -/

/-- Settings of one project that have the same entries, in any order and each any number of times. -/
structure SameEntries (settings other : Settings) : Prop where
  root : settings.root = other.root
  files : ∀ entry, entry ∈ settings.files ↔ entry ∈ other.files
  includes : ∀ entry, entry ∈ settings.includes ↔ entry ∈ other.includes
  excludes : ∀ entry, entry ∈ settings.excludes ↔ entry ∈ other.excludes

theorem isEmpty_eq_of_mem_iff {left right : List String}
    (same : ∀ entry, entry ∈ left ↔ entry ∈ right) : left.isEmpty = right.isEmpty := by
  rw [Bool.eq_iff_iff, List.isEmpty_iff, List.isEmpty_iff, List.eq_nil_iff_forall_not_mem,
    List.eq_nil_iff_forall_not_mem]
  exact forall_congr' fun entry => not_congr (same entry)

namespace SameEntries

theorem mem_includesInForce_iff (same : SameEntries settings other) :
    entry ∈ settings.includesInForce ↔ entry ∈ other.includesInForce := by
  unfold Settings.includesInForce
  rw [isEmpty_eq_of_mem_iff same.includes, isEmpty_eq_of_mem_iff same.files]
  split
  · exact same.includes entry
  · rfl

theorem mem_excludesInForce_iff (same : SameEntries settings other) :
    entry ∈ settings.excludesInForce ↔ entry ∈ other.excludesInForce := by
  unfold Settings.excludesInForce
  rw [isEmpty_eq_of_mem_iff same.excludes]
  split
  · rfl
  · exact same.excludes entry

theorem isExcluded (same : SameEntries settings other) (text : String) :
    isExcluded text settings.excludesInForce = isExcluded text other.excludesInForce := by
  unfold Project.isExcluded
  rw [Bool.eq_iff_iff, List.any_eq_true, List.any_eq_true]
  exact exists_congr fun entry => and_congr_left fun _ => same.mem_excludesInForce_iff

theorem collectable (same : SameEntries settings other) (collectable : Collectable disk settings) :
    Collectable disk other where
  sound := collectable.sound
  isWritten := same.root ▸ collectable.isWritten
  rootAnswers := same.root ▸ collectable.rootAnswers
  filesAnswer := fun entry member =>
    same.root ▸ collectable.filesAnswer entry ((same.files entry).mpr member)
  searchable := fun entry inForce =>
    same.root ▸ collectable.searchable entry (same.mem_includesInForce_iff.mpr inForce)
  unoccupied := by
    intro noFiles noIncludes
    have filesEmpty := isEmpty_eq_of_mem_iff same.files
    have includesEmpty := isEmpty_eq_of_mem_iff same.includes
    rw [noFiles, List.isEmpty_nil, List.isEmpty_iff] at filesEmpty
    rw [noIncludes, List.isEmpty_nil, List.isEmpty_iff] at includesEmpty
    exact same.root ▸ collectable.unoccupied filesEmpty includesEmpty

theorem isSource_iff (same : SameEntries settings other) (collectable : Collectable disk settings) :
    settings.IsSource disk path ↔ other.IsSource disk path := by
  have relative_eq : settings.relative disk path = other.relative disk path := by
    rw [Settings.relative, Settings.relative, same.root]
  have included_iff : settings.Includes disk path ↔ other.Includes disk path := by
    rw [includes_iff collectable, includes_iff (same.collectable collectable), List.mem_map,
      List.mem_map, same.root]
    exact or_congr (exists_congr fun entry => and_congr_left fun _ => same.files entry)
      (exists_congr fun entry => and_congr_left fun _ => same.mem_includesInForce_iff)
  constructor
  · rintro ⟨isFile, isSource, unexcluded, included⟩
    exact ⟨isFile, isSource, by rw [← relative_eq, ← same.isExcluded, unexcluded],
      included_iff.mp included⟩
  · rintro ⟨isFile, isSource, unexcluded, included⟩
    exact ⟨isFile, isSource, by rw [relative_eq, same.isExcluded, unexcluded],
      included_iff.mpr included⟩

end SameEntries

/-- **What is collected.** If the include entries are directories or patterns without `..`, and no path
that is asked about is too long, then the sources are collected in the order of their paths, each once:
exactly the files that the settings name, that are sources, and that no exclude entry leaves out. Where
neither files nor include entries are given, this needs that no directory has the name of the pattern that
is then read. Settings with the same entries lead to the same list. -/
theorem sourceFiles_collected (collectable : Collectable disk settings) :
    ∃ files, sourceFiles disk settings = .ok files ∧ files.Pairwise Before ∧
      (∀ path, path ∈ files ↔ settings.IsSource disk path) ∧
      ∀ other, SameEntries settings other → sourceFiles disk other = .ok files := by
  obtain ⟨files, collected, ordered, isSource_iff⟩ := exists_sourceFiles collectable
  refine ⟨files, collected, ordered, isSource_iff, fun other same => ?_⟩
  obtain ⟨otherFiles, otherCollected, otherOrdered, otherIsSource_iff⟩ :=
    exists_sourceFiles (same.collectable collectable)
  have isSame : otherFiles = files := by
    apply FilePath.eq_of_before otherOrdered ordered
    intro path
    rw [otherIsSource_iff, isSource_iff, same.isSource_iff collectable]
  rw [otherCollected, isSame]

/-- Sources that several entries reach, one that is excluded, and the same entries in another order. -/
theorem sourceFiles_collected_of_overlap :
    let disk : Disk := ⟨⟨[(["a.ts"], .file [] 1), (["src"], .directory 2),
      (["src", "b.ts"], .file [] 3), (["src", "old"], .directory 4),
      (["src", "old", "c.ts"], .file [] 5)], 6⟩, []⟩
    let settings : Settings := ⟨⟨.none, ["tsconfig.json"]⟩, ⟨.none, []⟩, ["a.ts"],
      ["src", "**/*.ts"], ["src/old"]⟩
    let other : Settings := ⟨⟨.none, ["tsconfig.json"]⟩, ⟨.none, []⟩, ["a.ts", "a.ts"],
      ["**/*.ts", "src"], ["src/old"]⟩
    Collectable disk settings ∧ SameEntries settings other ∧
      ∃ files, sourceFiles disk settings = .ok files ∧ files.Pairwise Before ∧
        ⟨.none, ["a.ts"]⟩ ∈ files ∧ ⟨.none, ["src", "b.ts"]⟩ ∈ files ∧
        ⟨.none, ["src", "old", "c.ts"]⟩ ∉ files ∧ sourceFiles disk other = .ok files := by
  intro disk settings other
  have searchable : ∀ entry ∈ settings.includesInForce, Searchable disk settings.root entry := by
    intro entry inForce
    have isEntry : entry = "src" ∨ entry = "**/*.ts" := by
      simpa [settings, Settings.includesInForce] using inForce
    rcases isEntry with rfl | rfl
    · exact ⟨by decide +kernel, .inl (by decide +kernel)⟩
    · exact ⟨by decide +kernel, .inr ⟨[.anyDepth, .wildcard "*.ts"], by decide +kernel,
        by decide +kernel, Glob.followable_of_no_name (by simp)⟩⟩
  have collectable : Collectable disk settings :=
    { sound := by decide +kernel
      isWritten := by decide +kernel
      rootAnswers := by decide +kernel
      filesAnswer := by decide +kernel
      searchable := searchable
      unoccupied := fun noFiles => nomatch noFiles }
  have same : SameEntries settings other :=
    ⟨rfl, by simp [settings, other], by simp [settings, other, or_comm], by simp [settings, other]⟩
  obtain ⟨files, collected, ordered, isSource_iff, stays⟩ := sourceFiles_collected collectable
  refine ⟨collectable, same, files, collected, ordered, ?_, ?_, ?_, stays other same⟩
  · have isNamed : settings.root.joinText "a.ts" = ⟨.none, ["a.ts"]⟩ := by decide +kernel
    exact (isSource_iff _).mpr ⟨by decide +kernel, by decide +kernel, by decide +kernel,
      isNamed ▸ .file List.mem_cons_self⟩
  · have isBelow : (settings.root.joinText "src").beneath ["b.ts"] = ⟨.none, ["src", "b.ts"]⟩ := by
      decide +kernel
    have stands : StandsFor disk settings.root "src" ⟨.none, ["src", "b.ts"]⟩ :=
      isBelow ▸ .below (by decide +kernel) (by decide)
    exact (isSource_iff _).mpr ⟨by decide +kernel, by decide +kernel, by decide +kernel,
      .entry List.mem_cons_self stands⟩
  · intro member
    have unexcluded := ((isSource_iff _).mp member).unexcluded
    exact absurd unexcluded (by decide +kernel)

/-- Without files and include entries, a directory that has the name of the pattern that is then read
hides the sources beside it. -/
theorem default_pattern_occupied :
    let disk : Disk := ⟨⟨[(["a.ts"], .file [] 1), (["**"], .directory 2), (["**", "*"], .directory 3),
      (["**", "*", "b.ts"], .file [] 4)], 5⟩, []⟩
    let settings : Settings := ⟨⟨.none, ["tsconfig.json"]⟩, ⟨.none, []⟩, [], [], []⟩
    sourceFiles disk settings = .ok [⟨.none, ["**", "*", "b.ts"]⟩] ∧
      settings.IsSource disk ⟨.none, ["a.ts"]⟩ := by
  intro disk settings
  refine ⟨by decide +kernel, by decide +kernel, by decide +kernel, by decide +kernel, ?_⟩
  exact .everything rfl rfl (List.cons_ne_nil "a.ts" []) (by decide)

end ImportBoundary.Project
