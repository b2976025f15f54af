import ImportBoundary.Project.Discovery
import ImportBoundary.Proofs.Files.Descent
import Mathlib.Data.List.Infix

/-!
Contract: where the search for the root of a project and for its settings ends.

Owns what it means that a directory of the tree holds a file, that it is the nearest one to do so at or
above another, and what the search answers in terms of these. The search climbs the names of a path
from the last to the first, a `..` like any other, so that it also looks into directories which the path
only passes and leaves again.

Main statement: `search_nearest`. What is found is the nearest directory that holds the file, or one
that the path leaves again by a `..`; a path without `..` leaves none.
-/

namespace ImportBoundary

namespace Disk

variable {disk : Disk} {path : FilePath} {name : String} {upper : List String}

/-- A directory of the tree, told by its names from the root, holds a regular file by this name. -/
def Holds (disk : Disk) (directory : List String) (name : String) : Prop :=
  disk.isFile ((⟨.root, directory⟩ : FilePath).joinText name) = .ok true

instance (disk : Disk) (directory : List String) (name : String) :
    Decidable (disk.Holds directory name) :=
  inferInstanceAs (Decidable (_ = _))

theorem joinText_of_isAbsolute (base : FilePath) (isAbsolute : (FilePath.ofText name).isAbsolute = true) :
    base.joinText name = FilePath.ofText name :=
  if_pos isAbsolute

theorem joinText_of_relative (base : FilePath)
    (isRelative : ¬ (FilePath.ofText name).isAbsolute = true) :
    base.joinText name = ⟨base.anchor, base.names ++ (FilePath.ofText name).names⟩ :=
  if_neg isRelative

/-- A path from the root leads to a file exactly if its names do, its text is not too long, and it can
be asked about. -/
theorem isFile_of_isAbsolute (isAbsolute : path.isAbsolute = true) :
    disk.isFile path = .ok true ↔
      holdsNull path = false ∧ path.text.utf8ByteSize < FileTree.pathLimit ∧
        ∃ names octets written, disk.tree.resolve path.names = .ok (names, .file octets written) := by
  unfold isFile
  rw [leadsTo_eq_ok_true_iff]
  constructor
  · rintro ⟨names, entry, located, isKind⟩
    have found := locate_of_entryAt located
    unfold locate at found
    rw [FilePath.absolute_of_isAbsolute isAbsolute] at found
    split at found
    · cases found
    · rename_i short
      cases entry with
      | directory written => cases isKind
      | file octets written =>
          exact ⟨holdsNull_of_entryAt located, Nat.lt_of_not_le short, names, octets, written, found⟩
  · rintro ⟨noNull, short, names, octets, written, found⟩
    refine ⟨names, .file octets written, ?_, rfl⟩
    unfold entryAt locate
    rw [if_neg (Bool.eq_false_iff.mp noNull), if_neg (Nat.not_le.mpr short),
      FilePath.absolute_of_isAbsolute isAbsolute, found]
    rfl

/-- A path that an answer is given about is not too long. -/
theorem text_lt_of_isFile {answer : Bool} (answered : disk.isFile path = .ok answer)
    (noNull : holdsNull path = false) : path.text.utf8ByteSize < FileTree.pathLimit := by
  by_contra long
  unfold isFile leadsTo entryAt locate at answered
  rw [if_neg (Bool.eq_false_iff.mp noNull), if_pos (Nat.le_of_not_lt long)] at answered
  cases answered

/-- A file that is found beside a path is one that the directory holds to which the path leads. -/
theorem holds_of_isFile (isAbsolute : path.isAbsolute = true)
    (found : disk.isFile (path.joinText name) = .ok true) : disk.Holds path.normalNames name := by
  unfold Holds
  by_cases nameAbsolute : (FilePath.ofText name).isAbsolute = true
  · rwa [joinText_of_isAbsolute _ nameAbsolute] at found ⊢
  · rw [joinText_of_relative _ nameAbsolute] at found ⊢
    have joinedAbsolute : FilePath.isAbsolute ⟨path.anchor, path.names ++ (FilePath.ofText name).names⟩ =
        true := isAbsolute
    obtain ⟨noNull, short, names, octets, written, resolved⟩ :=
      (isFile_of_isAbsolute joinedAbsolute).mp found
    refine (isFile_of_isAbsolute rfl).mpr ⟨?_, ?_, names, octets, written, ?_⟩
    · rw [holdsNull_append, Bool.or_eq_false_iff] at noNull ⊢
      refine ⟨?_, noNull.2⟩
      have ofPath := noNull.1
      rw [holdsNull, List.any_eq_false] at ofPath ⊢
      exact fun other member => ofPath other (path.normalNames_sublist.subset member)
    · refine Nat.lt_of_le_of_lt ?_ short
      exact FilePath.utf8ByteSize_text_le (path.normalNames_sublist.append_right _) rfl isAbsolute
    · exact FileTree.resolve_append_eq_ok path.anchor resolved

/-- A path can be asked about if the names that it leads to can, and every `..` in it leaves a
directory. -/
theorem Passable.holdsNull_eq_false (passable : disk.Passable path)
    (noNull : holdsNull ⟨path.anchor, path.normalNames⟩ = false) : holdsNull path = false := by
  obtain ⟨anchor, names⟩ := path
  induction names using List.reverseRecOn with
  | nil => rfl
  | append_singleton names last inductionHypothesis =>
      have beginning : FilePath.upTo ⟨anchor, names ++ [last]⟩ names.length = ⟨anchor, names⟩ := by
        simp [FilePath.upTo]
      dsimp only at noNull
      rw [FilePath.normalNames_concat] at noNull
      rw [holdsNull_append, Bool.or_eq_false_iff]
      by_cases leadsUp : last = ".."
      · have isDirectory := passable names.length (by simp [leadsUp])
        rw [beginning] at isDirectory
        obtain ⟨_, _, located, _⟩ := leadsTo_eq_ok_true_iff.mp isDirectory
        refine ⟨holdsNull_of_entryAt located, ?_⟩
        rw [leadsUp]
        decide
      · rw [if_neg leadsUp, holdsNull_append, Bool.or_eq_false_iff] at noNull
        have ofBeginning := passable.upTo names.length
        rw [beginning] at ofBeginning
        exact ⟨inductionHypothesis ofBeginning noNull.1, noNull.2⟩

/-- A file that a directory holds is found beside every path that leads there, unless the path is too
long to be asked about. -/
theorem Passable.isFile_of_holds (passable : disk.Passable path) (isAbsolute : path.isAbsolute = true)
    (holds : disk.Holds path.normalNames name) {answer : Bool}
    (answered : disk.isFile (path.joinText name) = .ok answer) : answer = true := by
  unfold Holds at holds
  by_cases nameAbsolute : (FilePath.ofText name).isAbsolute = true
  · rw [joinText_of_isAbsolute _ nameAbsolute] at answered holds
    exact Except.ok.inj (answered.symm.trans holds)
  · rw [joinText_of_relative _ nameAbsolute] at answered holds
    have joinedAbsolute : FilePath.isAbsolute ⟨path.anchor, path.names ++ (FilePath.ofText name).names⟩ =
        true := isAbsolute
    obtain ⟨noNull, _, names, octets, written, resolved⟩ := (isFile_of_isAbsolute rfl).mp holds
    dsimp only at resolved
    -- The directory is found by its own names, so it is found by the path as well.
    obtain ⟨middle, entry, leads⟩ := FileTree.exists_resolveFrom_of_append resolved
    have descends := FileTree.descends_of_resolveFrom (FileTree.descends_nil _) leads
    obtain ⟨isMiddle, stands⟩ := FileTree.resolveFrom_eq_ok leads
    rw [List.reverse_nil, FilePath.foldl_pushName_of_notMem path.up_notMem_normalNames,
      List.append_nil, List.reverse_reverse] at isMiddle
    rw [isMiddle] at leads descends stands
    have ofPath := passable.resolve isAbsolute descends stands
    have resolvedHere : disk.tree.resolve (path.names ++ (FilePath.ofText name).names) =
        .ok (names, .file octets written) := by
      rw [FileTree.resolve, FileTree.resolveFrom_append ofPath, ← FileTree.resolveFrom_append leads]
      exact resolved
    have noNullHere : holdsNull ⟨path.anchor, path.names ++ (FilePath.ofText name).names⟩ = false := by
      rw [holdsNull_append, Bool.or_eq_false_iff] at noNull ⊢
      exact ⟨passable.holdsNull_eq_false noNull.1, noNull.2⟩
    have short := text_lt_of_isFile answered noNullHere
    rw [(isFile_of_isAbsolute joinedAbsolute).mpr
      ⟨noNullHere, short, names, octets, written, resolvedHere⟩] at answered
    exact (Except.ok.inj answered).symm

end Disk

namespace Project

variable {disk : Disk} {name : String} {start directory : FilePath}

/-! ## The search -/

/-- A directory, told by its names from the root, is the nearest at or above another one that holds a
file by this name. -/
structure IsNearest (disk : Disk) (name : String) (start directory : List String) : Prop where
  above : directory <+: start
  holds : disk.Holds directory name
  nearest : ∀ upper, upper <+: start → disk.Holds upper name → upper <+: directory

/-- A directory holds a file by this name, and a path passes it on its way: the path leaves it again by
a `..`, and the directory does not stand above where the path leads. -/
structure IsDetour (disk : Disk) (name : String) (start directory : FilePath) : Prop where
  passed : ∃ rest, start = ⟨directory.anchor, directory.names ++ rest⟩ ∧ ".." ∈ rest
  holds : disk.Holds directory.normalNames name
  aside : ¬ directory.normalNames <+: start.normalNames

theorem withAncestors_getElem? {index : Nat}
    (found : start.withAncestors[index]? = some directory) :
    index ≤ start.names.length ∧ directory = start.upTo (start.names.length - index) := by
  unfold FilePath.withAncestors at found
  rw [List.getElem?_map, Option.map_eq_some_iff] at found
  obtain ⟨above, isIndex, rfl⟩ := found
  obtain ⟨within, rfl⟩ := List.getElem?_eq_some_iff.mp isIndex
  rw [List.length_range] at within
  rw [List.getElem_range]
  exact ⟨by omega, rfl⟩

theorem upTo_getElem? {count : Nat} (within : count ≤ start.names.length) :
    start.withAncestors[start.names.length - count]? = some (start.upTo count) := by
  unfold FilePath.withAncestors
  rw [List.getElem?_map, List.getElem?_range (by omega), Option.map_some]
  simp only [FilePath.upTo]
  rw [show start.names.length - (start.names.length - count) = count by omega]

theorem upTo_mem_withAncestors {count : Nat} (within : count ≤ start.names.length) :
    start.upTo count ∈ start.withAncestors :=
  List.mem_of_getElem? (upTo_getElem? within)

/-- A path without `..` in what it has more than its beginning leads below that beginning. -/
theorem isPrefix_normalNames_upTo {count : Nat} (proper : ".." ∉ start.names.drop count) :
    (start.upTo count).normalNames <+: start.normalNames := by
  have leads : start.normalNames = (start.upTo count).normalNames ++ start.names.drop count := by
    calc start.normalNames
        = FilePath.normalNames ⟨start.anchor, start.names.take count ++ start.names.drop count⟩ := by
          rw [List.take_append_drop]
      _ = (start.upTo count).normalNames ++ start.names.drop count := by
          rw [FilePath.normalNames_append, FilePath.foldl_pushName_of_notMem proper,
            List.reverse_append, List.reverse_reverse, List.reverse_reverse]
          rfl
  rw [leads]
  exact List.prefix_append _ _

/-- What the search comes to, from an absolute path of which every `..` leaves a directory: it fails
with the refusal of a path that is too long, finds the nearest directory or one that the path leaves
again, or finds none because no directory at or above where the path leads holds the file. -/
theorem nearestHolding_cases (disk : Disk) (name : String) {start : FilePath}
    (isAbsolute : start.isAbsolute = true) (passable : disk.Passable start) :
    (∃ upper ∈ start.withAncestors, ∃ failure,
        disk.isFile (upper.joinText name) = .error failure ∧
          nearestHolding disk name start = .error failure) ∨
      (∃ directory, nearestHolding disk name start = .ok (some directory) ∧
        (IsNearest disk name start.normalNames directory.normalNames ∨
          IsDetour disk name start directory)) ∨
      (nearestHolding disk name start = .ok none ∧
        ∀ upper, upper <+: start.normalNames → ¬ disk.Holds upper name) := by
  -- A directory that holds the file is asked where the path passes it for the last time.
  have answerAt : ∀ upper, upper <+: start.normalNames → disk.Holds upper name →
      ∃ count ≤ start.names.length,
        disk.isFile ((start.upTo count).joinText name) ≠ .ok false ∧
          ∀ later, count ≤ later → later ≤ start.names.length →
            upper <+: (start.upTo later).normalNames := by
    intro upper above holds
    obtain ⟨count, within, visits, stays⟩ := FilePath.exists_last_visit above
    refine ⟨count, within, ?_, stays⟩
    intro refused
    have accepted := (passable.upTo count).isFile_of_holds isAbsolute (visits.symm ▸ holds) refused
    cases accepted
  rcases findM?_cases (fun directory => disk.isFile (directory.joinText name)) start.withAncestors with
    ⟨upper, member, failure, fails, found⟩ | ⟨index, directory, isDirectory, found, accepted, refused⟩ |
      ⟨found, refused⟩
  · exact .inl ⟨upper, member, failure, fails, found⟩
  · refine .inr (.inl ⟨directory, found, ?_⟩)
    obtain ⟨within, rfl⟩ := withAncestors_getElem? isDirectory
    have holds := @Disk.holds_of_isFile _ (start.upTo _) _ isAbsolute accepted
    have nearest : ∀ upper, upper <+: start.normalNames → disk.Holds upper name →
        upper <+: (start.upTo (start.names.length - index)).normalNames := by
      intro upper above upperHolds
      obtain ⟨count, countWithin, notRefused, stays⟩ := answerAt upper above upperHolds
      apply stays _ _ (Nat.sub_le _ _)
      by_contra later
      exact notRefused (refused (start.names.length - count) (by omega) _ (upTo_getElem? countWithin))
    by_cases above : (start.upTo (start.names.length - index)).normalNames <+: start.normalNames
    · exact .inl ⟨above, holds, nearest⟩
    · refine .inr ⟨⟨start.names.drop (start.names.length - index), ?_, ?_⟩, holds, above⟩
      · show start = ⟨start.anchor, start.names.take _ ++ start.names.drop _⟩
        rw [List.take_append_drop]
      · by_contra proper
        exact above (isPrefix_normalNames_upTo proper)
  · refine .inr (.inr ⟨found, ?_⟩)
    intro upper above holds
    obtain ⟨count, within, notRefused, _⟩ := answerAt upper above holds
    exact notRefused (refused _ (upTo_mem_withAncestors within))

/-! ## Root and settings -/

theorem isAbsolute_startOf (disk : Disk) (start : Option FilePath) :
    (startOf disk start).isAbsolute = true :=
  FilePath.isAbsolute_absolute _ disk.isAbsolute_here

/-- **What is found is the nearest, unless the path has passed it on a detour.** From a start of which
every `..` leaves a directory, the search for the root ends in one of these ways: the path of a manifest
beside the start or a beginning of it is too long to be looked up, and the search fails with that; it
answers the nearest directory with a manifest at or above where the start leads, or one that the start
passes and leaves again; or it answers the working directory, because no directory at or above where
the start leads has a manifest. The search for settings ends alike, with the file in place of its
directory, and with an objection if there is none. A start without `..` leaves no directory again. -/
theorem search_nearest {disk : Disk} {start : Option FilePath}
    (passable : disk.Passable (startOf disk start)) :
    let origin := startOf disk start
    let TooLong (name : String) (failure : Failure) : Prop :=
      ∃ upper ∈ origin.withAncestors, disk.locate (upper.joinText name) = .error .nameTooLong ∧
        failure = .refused ⟨.nameTooLong, (upper.joinText name).text⟩
    let Found (name : String) (directory : FilePath) : Prop :=
      IsNearest disk name origin.normalNames directory.normalNames ∨
        IsDetour disk name origin directory
    let Nowhere (name : String) : Prop :=
      ∀ upper, upper <+: origin.normalNames → ¬ disk.Holds upper name
    ((∃ failure, findRoot disk start = .error failure ∧ TooLong manifestName failure) ∨
        (∃ root, findRoot disk start = .ok root ∧ Found manifestName root) ∨
          (findRoot disk start = .ok disk.here ∧ Nowhere manifestName)) ∧
      (∀ name, (∃ failure, findSettings disk start name = .error failure ∧ TooLong name failure) ∨
        (∃ directory, findSettings disk start name = .ok (directory.joinText name) ∧
          Found name directory) ∨
          (findSettings disk start name = .error (.settingsNotFound origin name) ∧ Nowhere name)) ∧
      (".." ∉ origin.names → ∀ name directory, ¬ IsDetour disk name origin directory) := by
  intro origin TooLong Found Nowhere
  have cases := fun name => nearestHolding_cases disk name (isAbsolute_startOf disk start) passable
  have refused : ∀ name upper failure, upper ∈ origin.withAncestors →
      disk.isFile (upper.joinText name) = .error failure → TooLong name failure := by
    intro name upper failure member fails
    obtain ⟨_, tooLong, isRefusal⟩ := Disk.leadsTo_eq_error_iff.mp fails
    exact ⟨upper, member, tooLong, isRefusal⟩
  refine ⟨?_, fun name => ?_, ?_⟩
  · unfold findRoot
    rcases cases manifestName with ⟨upper, member, failure, fails, searched⟩ |
      ⟨root, searched, found⟩ | ⟨searched, nowhere⟩
    · rw [searched]
      exact .inl ⟨failure, rfl, refused _ upper failure member fails⟩
    · rw [searched]
      exact .inr (.inl ⟨root, rfl, found⟩)
    · rw [searched]
      exact .inr (.inr ⟨rfl, nowhere⟩)
  · unfold findSettings
    rcases cases name with ⟨upper, member, failure, fails, searched⟩ |
      ⟨directory, searched, found⟩ | ⟨searched, nowhere⟩
    · rw [searched]
      exact .inl ⟨failure, rfl, refused _ upper failure member fails⟩
    · rw [searched]
      exact .inr (.inl ⟨directory, rfl, found⟩)
    · rw [searched]
      exact .inr (.inr ⟨rfl, nowhere⟩)
  · intro proper name directory isDetour
    obtain ⟨rest, isStart, leadsUp⟩ := isDetour.passed
    exact proper (isStart ▸ List.mem_append_right _ leadsUp)

/-- A start that goes out of one directory and into another one, which lies below a manifest. -/
theorem search_nearest_from_sibling :
    let disk : Disk := ⟨⟨[(["a"], .directory 1), (["b"], .directory 2), (["b", "c"], .directory 3),
      (["b", manifestName], .file [] 4)], 5⟩, []⟩
    let start := some (FilePath.ofText "a/../b/c")
    disk.Passable (startOf disk start) ∧ findRoot disk start = .ok ⟨.root, ["a", "..", "b"]⟩ ∧
      IsNearest disk manifestName ["b", "c"] ["b"] := by
  intro disk start
  have passable : disk.Passable (startOf disk start) := by decide +kernel
  have found : findRoot disk start = .ok ⟨.root, ["a", "..", "b"]⟩ := by decide +kernel
  refine ⟨passable, found, ?_⟩
  rcases (search_nearest passable).1 with ⟨failure, fails, _⟩ | ⟨root, isRoot, met⟩ | ⟨isHere, _⟩
  · cases found.symm.trans fails
  · cases found.symm.trans isRoot
    rcases met with isNearest | isDetour
    · exact isNearest
    · exact absurd (by decide) isDetour.aside
  · cases found.symm.trans isHere

/-- A manifest and settings in a directory that the start passes on its way to another one, which lies
below neither: both are found, where the working directory should be answered and an objection raised. -/
theorem detour_found :
    let disk : Disk := ⟨⟨[(["a"], .directory 1), (["a", manifestName], .file [] 2),
      (["a", settingsName], .file [] 3), (["b"], .directory 4)], 5⟩, []⟩
    let start := some (FilePath.ofText "a/../b")
    (startOf disk start).normalNames = ["b"] ∧
      (∀ upper, upper <+: ["b"] →
        ¬ disk.Holds upper manifestName ∧ ¬ disk.Holds upper settingsName) ∧
      findRoot disk start = .ok ⟨.root, ["a"]⟩ ∧ disk.here ≠ ⟨.root, ["a"]⟩ ∧
      findSettings disk start settingsName = .ok ⟨.root, ["a", settingsName]⟩ := by
  intro disk start
  have nowhere : ∀ upper ∈ ["b"].inits,
      ¬ disk.Holds upper manifestName ∧ ¬ disk.Holds upper settingsName := by
    decide +kernel
  refine ⟨by decide, fun upper above => nowhere upper (List.mem_inits upper ["b"] |>.mpr above), ?_⟩
  decide +kernel

end Project

end ImportBoundary
