import ImportBoundary.Proofs.Files.Descent

/-!
Contract: trees such as a file system keeps.

Owns `FileTree.Sound`, by which every entry has names of its own and stands in a directory, and the
paths that lead on from a directory of such a tree: what they lead to, and what is listed there.

Main statements: `Opens.leadsTo_iff`, and `Opens.mem_filesBelow_iff`, `Opens.mem_directoriesFrom_iff` and
`Opens.mem_children_iff` for the listings.
-/

namespace ImportBoundary

namespace FileTree

/-- The names that a file system keeps. -/
structure IsStored (name : String) : Prop where
  isName : FilePath.IsName name
  proper : name ≠ ".."
  noNull : Char.ofNat 0 ∉ name.toList
  short : name.utf8ByteSize ≤ nameLimit

instance (name : String) : Decidable (IsStored name) :=
  decidable_of_iff (FilePath.IsName name ∧ name ≠ ".." ∧ Char.ofNat 0 ∉ name.toList ∧
      name.utf8ByteSize ≤ nameLimit)
    ⟨fun ⟨isName, proper, noNull, short⟩ => ⟨isName, proper, noNull, short⟩,
      fun stored => ⟨stored.isName, stored.proper, stored.noNull, stored.short⟩⟩

/-- Every entry has names that a file system keeps, no two have the same ones, and each stands in a
directory. -/
structure Sound (tree : FileTree) : Prop where
  named : ∀ entry ∈ tree.entries, entry.1 ≠ [] ∧ ∀ name ∈ entry.1, IsStored name
  once : (tree.entries.map Prod.fst).Nodup
  grounded : ∀ entry ∈ tree.entries, (tree.at? entry.1.dropLast).any Entry.isDirectory = true

instance (tree : FileTree) : Decidable tree.Sound :=
  decidable_of_iff ((∀ entry ∈ tree.entries, entry.1 ≠ [] ∧ ∀ name ∈ entry.1, IsStored name) ∧
      (tree.entries.map Prod.fst).Nodup ∧
      ∀ entry ∈ tree.entries, (tree.at? entry.1.dropLast).any Entry.isDirectory = true)
    ⟨fun ⟨named, once, grounded⟩ => ⟨named, once, grounded⟩,
      fun sound => ⟨sound.named, sound.once, sound.grounded⟩⟩

namespace Sound

variable {tree : FileTree} {names here more : List String} {entry : Entry}

/-- The entries are what stands at names other than those of the root. -/
theorem mem_entries_iff (sound : tree.Sound) :
    (names, entry) ∈ tree.entries ↔ names ≠ [] ∧ tree.at? names = some entry := by
  have isLookup : names ≠ [] → tree.at? names = tree.entries.lookup names := fun nonempty =>
    if_neg (by simpa using nonempty)
  constructor
  · intro member
    have nonempty := (sound.named _ member).1
    refine ⟨nonempty, ?_⟩
    obtain ⟨before, after, isEntries⟩ := List.append_of_mem member
    rw [isLookup nonempty, List.lookup_eq_some_iff]
    refine ⟨before, after, isEntries, fun earlier isBefore => ?_⟩
    have once := sound.once
    rw [isEntries, List.map_append, List.map_cons, List.nodup_append] at once
    have differs := once.2.2 earlier.1 (List.mem_map_of_mem isBefore) names List.mem_cons_self
    simpa using differs.symm
  · rintro ⟨nonempty, stands⟩
    rw [isLookup nonempty] at stands
    obtain ⟨before, after, isEntries, _⟩ := List.lookup_eq_some_iff.mp stands
    rw [isEntries]
    exact List.mem_append_right before List.mem_cons_self

theorem isStored (sound : tree.Sound) (stands : tree.at? names = some entry) :
    ∀ name ∈ names, IsStored name := by
  intro name member
  have nonempty : names ≠ [] := List.ne_nil_of_mem member
  exact (sound.named _ (sound.mem_entries_iff.mpr ⟨nonempty, stands⟩)).2 name member

/-- No name of an entry leads up. -/
theorem proper (sound : tree.Sound) (stands : tree.at? (here ++ more) = some entry) : ".." ∉ more :=
  fun leadsUp => (sound.isStored stands ".." (List.mem_append_right here leadsUp)).proper rfl

/-- Whatever stands in a sound tree stands below directories. -/
theorem descends (sound : tree.Sound) (stands : tree.at? names = some entry) : tree.Descends names := by
  induction names using List.reverseRecOn generalizing entry with
  | nil => exact descends_nil tree
  | append_singleton names name inductionHypothesis =>
      have stored := sound.isStored stands name (by simp)
      have grounded := sound.grounded _ (sound.mem_entries_iff.mpr ⟨by simp, stands⟩)
      dsimp only at grounded
      rw [List.dropLast_concat, Option.any_eq_true] at grounded
      obtain ⟨upper, standsAbove, isDirectory⟩ := grounded
      cases upper with
      | file octets written => cases isDirectory
      | directory written =>
          exact (inductionHypothesis standsAbove).child standsAbove stored.proper stored.short

theorem mem_below_iff (sound : tree.Sound) :
    (more, entry) ∈ tree.below here ↔ more ≠ [] ∧ tree.at? (here ++ more) = some entry := by
  unfold below
  rw [List.mem_filterMap]
  constructor
  · rintro ⟨⟨names, found⟩, member, kept⟩
    dsimp only at kept
    split at kept
    · rename_i isBelow
      rw [Bool.and_eq_true, List.isPrefixOf_iff_prefix, decide_eq_true_iff] at isBelow
      obtain ⟨⟨rest, rfl⟩, longer⟩ := isBelow
      cases kept
      rw [List.drop_left]
      refine ⟨?_, (sound.mem_entries_iff.mp member).2⟩
      rintro rfl
      simp at longer
    · cases kept
  · rintro ⟨nonempty, stands⟩
    refine ⟨(here ++ more, entry), sound.mem_entries_iff.mpr ⟨by simp [nonempty], stands⟩, ?_⟩
    have longer : 0 < more.length := List.length_pos_of_ne_nil nonempty
    simp [longer]

end Sound

end FileTree

namespace Disk

variable {disk : Disk} {path directory : FilePath} {here names : List String} {entry : Entry}
  {kind : Entry → Bool}

/-- A directory, with the names that it stands at, from which one can ask about whatever stands below:
the paths there are not too long. -/
structure Opens (disk : Disk) (directory : FilePath) (here : List String) : Prop where
  noNull : holdsNull directory = false
  located : ∃ written, disk.locate directory = .ok (here, .directory written)
  answers : ∀ names entry, disk.tree.at? (here ++ names) = some entry →
    disk.locate (directory.beneath names) ≠ .error .nameTooLong

theorem text_lt_of_answers (answers : disk.locate path ≠ .error .nameTooLong) :
    path.text.utf8ByteSize < FileTree.pathLimit := by
  by_contra long
  exact answers (if_pos (Nat.le_of_not_lt long))

theorem resolve_of_locate {found : List String × Entry} (located : disk.locate path = .ok found) :
    disk.tree.resolve (path.absolute disk.here).names = .ok found := by
  unfold locate at located
  split at located
  · cases located
  · exact located

theorem entryAt_of_locate {found : List String × Entry} (noNull : holdsNull path = false)
    (located : disk.locate path = .ok found) : disk.entryAt path = .ok found := by
  unfold entryAt
  rw [noNull, located, if_neg Bool.false_ne_true]
  rfl

/-- A path that can be asked about gets an answer. -/
theorem exists_leadsTo (answers : disk.locate path ≠ .error .nameTooLong) (kind : Entry → Bool) :
    ∃ answer, disk.leadsTo path kind = .ok answer := by
  cases answered : disk.leadsTo path kind with
  | ok answer => exact ⟨answer, rfl⟩
  | error failure => exact absurd (leadsTo_eq_error_iff.mp answered).2.1 answers

/-- What is listed below a directory stands below it in the tree. -/
theorem mem_below_iff_of_locate (sound : disk.tree.Sound) {written : Nat}
    (located : disk.locate directory = .ok (here, .directory written)) :
    (path, entry) ∈ disk.below directory ↔
      ∃ names, names ≠ [] ∧ disk.tree.at? (here ++ names) = some entry ∧
        path = directory.beneath names := by
  unfold below
  rw [located]
  simp only [List.mem_map]
  constructor
  · rintro ⟨⟨names, found⟩, member, same⟩
    cases same
    obtain ⟨nonempty, stands⟩ := sound.mem_below_iff.mp member
    exact ⟨names, nonempty, stands, rfl⟩
  · rintro ⟨names, nonempty, stands, rfl⟩
    exact ⟨(names, entry), sound.mem_below_iff.mpr ⟨nonempty, stands⟩, rfl⟩

/-- One can ask about a path and about all that is listed below it: none of these paths is too long. -/
def Answers (disk : Disk) (path : FilePath) : Prop :=
  disk.locate path ≠ .error .nameTooLong ∧
    ∀ found ∈ disk.below path, disk.locate found.1 ≠ .error .nameTooLong

instance (disk : Disk) (path : FilePath) : Decidable (disk.Answers path) :=
  inferInstanceAs (Decidable (_ ∧ _))

theorem Answers.exists_opens (answers : disk.Answers directory) (sound : disk.tree.Sound)
    (isDirectory : disk.isDirectory directory = .ok true) : ∃ here, disk.Opens directory here := by
  obtain ⟨here, found, reached, isKind⟩ := leadsTo_eq_ok_true_iff.mp isDirectory
  cases found with
  | file octets written => cases isKind
  | directory written =>
      have located := locate_of_entryAt reached
      refine ⟨here, holdsNull_of_entryAt reached, ⟨written, located⟩, fun names entry stands => ?_⟩
      by_cases goesOn : names = []
      · rw [goesOn, FilePath.beneath_nil]
        exact answers.1
      · exact answers.2 (_, entry)
          ((mem_below_iff_of_locate sound located).mpr ⟨names, goesOn, stands, rfl⟩)

/-- A path that leads on to something leads to a directory, if one can ask about it. -/
theorem isDirectory_of_leadsTo_beneath (answers : disk.locate directory ≠ .error .nameTooLong)
    (goesOn : names ≠ []) (leads : disk.leadsTo (directory.beneath names) kind = .ok true) :
    disk.isDirectory directory = .ok true := by
  obtain ⟨reached, entry, found, _⟩ := leadsTo_eq_ok_true_iff.mp leads
  have noNull : holdsNull directory = false := by
    have wholeNoNull := holdsNull_of_entryAt found
    rw [FilePath.beneath, holdsNull_append, Bool.or_eq_false_iff] at wholeNoNull
    exact wholeNoNull.1
  have resolved := resolve_of_locate (locate_of_entryAt found)
  rw [FilePath.absolute_beneath] at resolved
  obtain ⟨middle, upper, leadsThere⟩ := FileTree.exists_resolveFrom_of_append resolved
  have located : disk.locate directory = .ok (middle, upper) :=
    (if_neg (Nat.not_le.mpr (text_lt_of_answers answers))).trans leadsThere
  refine leadsTo_eq_ok_true_iff.mpr ⟨middle, upper, entryAt_of_locate noNull located, ?_⟩
  obtain ⟨first, rest, rfl⟩ := List.exists_cons_of_ne_nil goesOn
  have onwards := (FileTree.resolveFrom_append leadsThere (first :: rest)).symm.trans resolved
  rw [FileTree.resolveFrom, (FileTree.resolveFrom_eq_ok leadsThere).2] at onwards
  cases upper with
  | file octets written => cases onwards
  | directory written => rfl

namespace Opens

/-- What lies on the way from a directory is where the names from there lead. -/
theorem resolve_beneath (opens : disk.Opens directory here) (names : List String) :
    disk.tree.resolve ((directory.beneath names).absolute disk.here).names =
      disk.tree.resolveFrom here names := by
  obtain ⟨written, located⟩ := opens.located
  rw [FilePath.absolute_beneath]
  exact FileTree.resolveFrom_append (resolve_of_locate located) names

variable (sound : disk.tree.Sound)
include sound

theorem locate (opens : disk.Opens directory here)
    (stands : disk.tree.at? (here ++ names) = some entry) :
    disk.locate (directory.beneath names) = .ok (here ++ names, entry) := by
  obtain ⟨written, located⟩ := opens.located
  have short := text_lt_of_answers (opens.answers names entry stands)
  have ofWhole := (sound.descends stands).resolve stands
  have ofHere := (sound.descends (at?_of_locate located).2).resolve (at?_of_locate located).2
  rw [FileTree.resolve, FileTree.resolveFrom_append ofHere] at ofWhole
  rw [Disk.locate, if_neg (Nat.not_le.mpr short), opens.resolve_beneath, ofWhole]

theorem holdsNull_beneath (opens : disk.Opens directory here)
    (stands : disk.tree.at? (here ++ names) = some entry) :
    holdsNull (directory.beneath names) = false := by
  have noNull : holdsNull ⟨directory.anchor, directory.names⟩ = false := opens.noNull
  rw [FilePath.beneath, holdsNull_append, noNull, Bool.false_or, List.any_eq_false]
  intro name member
  simpa using (sound.isStored stands name (List.mem_append_right here member)).noNull

theorem isWritten_beneath (isWritten : directory.IsWritten)
    (stands : disk.tree.at? (here ++ names) = some entry) : (directory.beneath names).IsWritten :=
  FilePath.isWritten_beneath isWritten fun name member =>
    (sound.isStored stands name (List.mem_append_right here member)).isName

/-- Names without `..` lead from a directory to what stands at them below it. -/
theorem leadsTo_iff (opens : disk.Opens directory here) (proper : ".." ∉ names) :
    disk.leadsTo (directory.beneath names) kind = .ok true ↔
      ∃ entry, disk.tree.at? (here ++ names) = some entry ∧ kind entry = true := by
  rw [leadsTo_eq_ok_true_iff]
  constructor
  · rintro ⟨reached, entry, found, isKind⟩
    have located := resolve_of_locate (locate_of_entryAt found)
    rw [opens.resolve_beneath] at located
    obtain ⟨isReached, stands⟩ := FileTree.resolveFrom_eq_ok located
    rw [FilePath.foldl_pushName_of_notMem proper, List.reverse_append, List.reverse_reverse,
      List.reverse_reverse] at isReached
    exact ⟨entry, isReached ▸ stands, isKind⟩
  · rintro ⟨entry, stands, isKind⟩
    exact ⟨here ++ names, entry,
      entryAt_of_locate (opens.holdsNull_beneath sound stands) (opens.locate sound stands), isKind⟩

theorem isFile_iff (opens : disk.Opens directory here) (proper : ".." ∉ names) :
    disk.isFile (directory.beneath names) = .ok true ↔
      ∃ octets written, disk.tree.at? (here ++ names) = some (.file octets written) := by
  rw [Disk.isFile, opens.leadsTo_iff sound proper]
  constructor
  · rintro ⟨entry, stands, isKind⟩
    cases entry with
    | file octets written => exact ⟨octets, written, stands⟩
    | directory written => cases isKind
  · rintro ⟨octets, written, stands⟩
    exact ⟨.file octets written, stands, rfl⟩

/-- A directory below opens as well. -/
theorem beneath (opens : disk.Opens directory here) {written : Nat}
    (stands : disk.tree.at? (here ++ names) = some (.directory written)) :
    disk.Opens (directory.beneath names) (here ++ names) where
  noNull := opens.holdsNull_beneath sound stands
  located := ⟨written, opens.locate sound stands⟩
  answers := by
    intro more entry standsBelow
    rw [FilePath.beneath_beneath]
    rw [List.append_assoc] at standsBelow
    exact opens.answers (names ++ more) entry standsBelow

/-! ## Listings -/

theorem mem_below_iff (opens : disk.Opens directory here) :
    (path, entry) ∈ disk.below directory ↔
      ∃ names, names ≠ [] ∧ disk.tree.at? (here ++ names) = some entry ∧
        path = directory.beneath names := by
  obtain ⟨written, located⟩ := opens.located
  exact mem_below_iff_of_locate sound located

theorem mem_filesBelow_iff (opens : disk.Opens directory here) :
    path ∈ disk.filesBelow directory ↔
      ∃ names octets written, disk.tree.at? (here ++ names) = some (.file octets written) ∧
        path = directory.beneath names := by
  unfold filesBelow
  rw [List.mem_filterMap]
  constructor
  · rintro ⟨⟨found, entry⟩, member, isFile⟩
    obtain ⟨names, _, stands, rfl⟩ := (opens.mem_below_iff sound).mp member
    cases entry with
    | file octets written =>
        cases isFile
        exact ⟨names, octets, written, stands, rfl⟩
    | directory written => cases isFile
  · rintro ⟨names, octets, written, stands, rfl⟩
    have nonempty : names ≠ [] := by
      rintro rfl
      obtain ⟨_, located⟩ := opens.located
      rw [List.append_nil, (at?_of_locate located).2] at stands
      cases stands
    exact ⟨_, (opens.mem_below_iff sound).mpr ⟨names, nonempty, stands, rfl⟩, rfl⟩

theorem mem_directoriesFrom_iff (opens : disk.Opens directory here) :
    path ∈ disk.directoriesFrom directory ↔
      ∃ names written, disk.tree.at? (here ++ names) = some (.directory written) ∧
        path = directory.beneath names := by
  unfold directoriesFrom
  rw [List.mem_cons, List.mem_filterMap]
  constructor
  · rintro (rfl | ⟨⟨found, entry⟩, member, isDirectory⟩)
    · obtain ⟨written, located⟩ := opens.located
      exact ⟨[], written, by rw [List.append_nil, (at?_of_locate located).2], by simp⟩
    · obtain ⟨names, _, stands, rfl⟩ := (opens.mem_below_iff sound).mp member
      cases entry with
      | file octets written => cases isDirectory
      | directory written =>
          cases isDirectory
          exact ⟨names, written, stands, rfl⟩
  · rintro ⟨names, written, stands, rfl⟩
    by_cases nonempty : names = []
    · left
      rw [nonempty, FilePath.beneath_nil]
    · exact .inr ⟨_, (opens.mem_below_iff sound).mpr ⟨names, nonempty, stands, rfl⟩, rfl⟩

theorem mem_children_iff (opens : disk.Opens directory here) {name : String} :
    (name, entry) ∈ disk.children directory ↔ disk.tree.at? (here ++ [name]) = some entry := by
  obtain ⟨written, located⟩ := opens.located
  unfold children
  rw [located]
  simp only [List.mem_filterMap]
  constructor
  · rintro ⟨⟨names, found⟩, member, isChild⟩
    obtain ⟨_, stands⟩ := sound.mem_below_iff.mp member
    cases names with
    | nil => cases isChild
    | cons first rest =>
        cases rest with
        | nil =>
            cases isChild
            exact stands
        | cons _ _ => cases isChild
  · intro stands
    exact ⟨([name], entry), sound.mem_below_iff.mpr ⟨List.cons_ne_nil _ _, stands⟩, rfl⟩

end Opens

end Disk

end ImportBoundary
