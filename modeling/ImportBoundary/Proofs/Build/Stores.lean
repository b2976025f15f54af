import ImportBoundary.Proofs.Build.Run
import ImportBoundary.Proofs.Files.Sound
import ImportBoundary.Proofs.Text.Utf8

/-!
Contract: what a module store holds.

Owns the contract of a store, seen through the texts that it holds for the paths which it keeps apart. A
write that is taken sets the text of its path and of no other. One that is refused may leave anything
at its own path, as a file that is cut short, but changes no other.

Also owns that modules in memory and modules on the disk keep the contract. Two paths may lead to one
file of a disk, so the disk keeps it over the paths from the root without `..`.
-/

namespace ImportBoundary

variable {σ : Type}

/-- The contract of a module store over the paths that it keeps apart. -/
structure Store.Faithful (store : Store σ) (held : σ → FilePath → Option String)
    (among : FilePath → Prop) : Prop where
  held_of_taken : ∀ {path content state after}, among path →
    store.write path content state = .ok () after → ∀ other, among other →
      held after other = if other = path then some content else held state other
  held_of_refused : ∀ {path content state failure after}, among path →
    store.write path content state = .error failure after → ∀ other, among other →
      other ≠ path → held after other = held state other

/-- A refused write leaves its own path alone as well. -/
def Store.Spares (store : Store σ) (held : σ → FilePath → Option String)
    (among : FilePath → Prop) : Prop :=
  ∀ {path content state failure after}, among path →
    store.write path content state = .error failure after → held after path = held state path

/-! ## Modules in memory -/

namespace Shelf

theorem store_faithful : store.Faithful Shelf.get? fun _ => True where
  held_of_taken {path content shelf after} _ taken other _ := by
    cases taken
    exact Registry.get?_put shelf.modules path other content
  held_of_refused _ refused := by cases refused

theorem store_spares : store.Spares Shelf.get? fun _ => True :=
  fun _ refused => by cases refused

/-- A shelf that refuses some writes once it has emptied their place. -/
def tearing (refusal : FilePath → String → Option Failure) : Store Shelf where
  write path content := fun shelf =>
    match refusal path content with
    | none => .ok () (shelf.put path content)
    | some failure => .error failure ⟨shelf.modules.put path "", shelf.writes⟩

/-- A shelf keeps the contract, whatever it refuses. -/
theorem tearing_faithful (refusal : FilePath → String → Option Failure) :
    (tearing refusal).Faithful Shelf.get? fun _ => True where
  held_of_taken {path content shelf after} _ taken other _ := by
    unfold tearing at taken
    dsimp only at taken
    split at taken
    · cases taken
      exact Registry.get?_put shelf.modules path other content
    · cases taken
  held_of_refused {path content shelf failure after} _ refused other _ different := by
    unfold tearing at refused
    dsimp only at refused
    split at refused
    · cases refused
    · cases refused
      exact Registry.get?_put_of_ne shelf.modules different ""

end Shelf

/-! ## Modules on the disk -/

namespace FileTree

/-- The octets of the file at some names. -/
def octetsAt? (tree : FileTree) (names : List String) : Option (List UInt8) :=
  match tree.at? names with
  | some (.file octets _) => some octets
  | _ => none

variable {tree : FileTree} {names : List String}

theorem octetsAt?_put_self (nonempty : names ≠ []) (octets : List UInt8) :
    (tree.put names (.file octets)).octetsAt? names = some octets := by
  rw [octetsAt?, at?_put_self tree nonempty]

theorem octetsAt?_put_of_ne {other : List String} (different : other ≠ names)
    (make : Nat → Entry) : (tree.put names make).octetsAt? other = tree.octetsAt? other := by
  rw [octetsAt?, octetsAt?, at?_put_of_ne tree different]

/-- A directory where nothing stood changes no file. -/
theorem octetsAt?_put_directory (absent : tree.at? names = none) (other : List String) :
    (tree.put names .directory).octetsAt? other = tree.octetsAt? other := by
  by_cases same : other = names
  · have nonempty : names ≠ [] := by
      rintro rfl
      cases absent
    rw [same, octetsAt?, octetsAt?, at?_put_self tree nonempty, absent]
  · exact octetsAt?_put_of_ne same .directory

/-- What is put at other names is on no way down to some names. -/
theorem Descends.put_self (descends : tree.Descends names) (make : Nat → Entry) :
    (tree.put names make).Descends names where
  proper := descends.proper
  through := by
    intro upper above different
    obtain ⟨written, isDirectory⟩ := descends.through upper above different
    exact ⟨written, by rw [at?_put_of_ne tree different, isDirectory]⟩

end FileTree

namespace FilePath

/-- A path from the root without `..`, whose names are those of what it leads to. -/
def IsDirect (path : FilePath) : Prop :=
  path.anchor = .root ∧ ".." ∉ path.names

instance (path : FilePath) : Decidable path.IsDirect :=
  inferInstanceAs (Decidable (_ ∧ _))

namespace IsDirect

variable {path other : FilePath}

theorem eq_of_names_eq (direct : path.IsDirect) (otherDirect : other.IsDirect)
    (same : path.names = other.names) : path = other := by
  obtain ⟨anchor, names⟩ := path
  obtain ⟨otherAnchor, otherNames⟩ := other
  obtain ⟨rfl, _⟩ := direct
  obtain ⟨rfl, _⟩ := otherDirect
  obtain rfl := same
  rfl

theorem parent (direct : path.IsDirect) : path.parent.IsDirect :=
  ⟨direct.1, fun leadsUp => direct.2 ((List.dropLast_prefix path.names).subset leadsUp)⟩

theorem normalNames (direct : path.IsDirect) : path.normalNames = path.names := by
  rw [FilePath.normalNames, foldl_pushName_of_notMem direct.2, List.append_nil, List.reverse_reverse]

theorem absolute (direct : path.IsDirect) (base : FilePath) : path.absolute base = path := by
  apply absolute_of_isAbsolute
  rw [isAbsolute, direct.1]
  rfl

end IsDirect

end FilePath

namespace Disk

variable {disk : Disk} {path : FilePath}

/-- The text of the file at the names of a path. -/
def textAt? (disk : Disk) (path : FilePath) : Option String :=
  (disk.tree.octetsAt? path.names).bind fun octets => (Utf8.decode octets).toOption

/-- A direct path leads, if anywhere, down to what stands at its names. -/
theorem of_locate_direct (direct : path.IsDirect) {names : List String} {entry : Entry}
    (located : disk.locate path = .ok (names, entry)) :
    names = path.names ∧ disk.tree.at? path.names = some entry ∧ disk.tree.Descends path.names := by
  obtain ⟨isPlace, stands⟩ := at?_of_locate located
  rw [direct.absolute, direct.normalNames] at isPlace
  subst isPlace
  refine ⟨rfl, stands, ?_⟩
  unfold locate at located
  split at located
  · cases located
  · exact FileTree.descends_of_resolveFrom (FileTree.descends_nil _) located

/-- Below a directory that a direct path leads to, only what is not there is missing. -/
theorem of_missing_direct (direct : path.IsDirect) (missing : disk.locate path = .error .missing)
    {names : List String} {written : Nat}
    (above : disk.locate path.parent = .ok (names, .directory written)) :
    names ++ [path.name] = path.names ∧ disk.tree.at? path.names = none ∧
      disk.tree.Descends path.names := by
  obtain ⟨rfl, isDirectory, descends⟩ := of_locate_direct direct.parent above
  have nonempty : path.names ≠ [] := by
    intro noNames
    have isRoot : path.parent = path := by
      obtain ⟨anchor, names⟩ := path
      obtain rfl := noNames
      rfl
    rw [isRoot, missing] at above
    cases above
  have split : path.parent.names ++ [path.name] = path.names := by
    rw [FilePath.parent, FilePath.name, List.getLast?_eq_some_getLast nonempty, Option.getD_some,
      List.dropLast_append_getLast]
  have resolved : disk.tree.resolve path.names = .error .missing := by
    unfold locate at missing
    split at missing
    · cases missing
    · rwa [direct.absolute] at missing
  have proper : path.name ≠ ".." := by
    rintro isUp
    apply direct.2
    rw [← split, isUp]
    simp
  -- The last name is looked up in the directory: it is short enough, and nothing has it.
  rw [← split, FileTree.resolve, FileTree.resolveFrom_append (descends.resolve isDirectory),
    FileTree.resolveFrom, isDirectory] at resolved
  dsimp only at resolved
  rw [if_neg proper] at resolved
  rw [← split]
  split at resolved
  · cases resolved
  · rename_i short
    refine ⟨rfl, ?_, descends.child isDirectory proper (Nat.le_of_not_lt short)⟩
    unfold FileTree.resolveFrom at resolved
    split at resolved
    · assumption
    · cases resolved

/-- What is put into a directory at a direct path is put at the names of the path. -/
theorem of_putChild_direct (direct : path.IsDirect) (missing : disk.locate path = .error .missing)
    {make : Nat → Entry} {changed : Disk} (put : disk.putChild path make = .ok changed) :
    changed = { disk with tree := disk.tree.put path.names make } ∧
      disk.tree.at? path.names = none ∧ disk.tree.Descends path.names := by
  unfold putChild at put
  obtain ⟨⟨names, entry⟩, above, answered⟩ := bind_eq_ok_iff.mp put
  cases entry with
  | file octets written => cases answered
  | directory written =>
      obtain ⟨isPath, absent, descends⟩ := of_missing_direct direct missing above
      dsimp only at answered
      rw [isPath] at answered
      cases answered
      exact ⟨rfl, absent, descends⟩

/-! ### Directories -/

section Directories

variable (octetsOf : List String → Option (List UInt8))

/-- The files of a disk, by their names. -/
def HoldsFiles (disk : Disk) : Prop :=
  ∀ names, disk.tree.octetsAt? names = octetsOf names

theorem preserves_ensureDirectory (direct : path.IsDirect) :
    (ensureDirectory path).Preserves (HoldsFiles octetsOf) := by
  intro disk holds
  unfold Action.stateAfter ensureDirectory
  rw [Action.bind_apply]
  have isHere : (get : Action Disk Disk) disk = .ok disk disk := rfl
  simp only [isHere]
  by_cases isNull : holdsNull path = true
  · rw [if_pos isNull]
    exact holds
  · rw [if_neg isNull]
    unfold makeDirectory
    cases located : disk.locate path with
    | ok found =>
        obtain ⟨names, entry⟩ := found
        cases entry with
        | file octets written => exact holds
        | directory written => exact holds
    | error refusal =>
        cases refusal with
        | missing =>
            dsimp only
            cases put : disk.putChild path .directory with
            | error refusal => cases refusal <;> exact holds
            | ok changed =>
                obtain ⟨rfl, absent, _⟩ := of_putChild_direct direct located put
                intro names
                rw [← holds names]
                exact FileTree.octetsAt?_put_directory absent names
        | _ => exact holds

theorem preserves_ensureDirectories (levels : Nat) (direct : path.IsDirect) :
    (ensureDirectories levels path).Preserves (HoldsFiles octetsOf) := by
  induction levels generalizing path with
  | zero => exact preserves_ensureDirectory octetsOf direct
  | succ levels inductionHypothesis =>
      have looks : Action.Preserves (HoldsFiles octetsOf) (get : Action Disk Disk) :=
        fun _ holds => holds
      unfold ensureDirectories
      apply Action.preserves_bind looks
      intro disk
      split
      · apply Action.preserves_bind (inductionHypothesis direct.parent)
        intro _
        exact preserves_ensureDirectory octetsOf direct
      · exact preserves_ensureDirectory octetsOf direct

end Directories

/-! ### Files -/

/-- What stands at a direct path below directories is read there. -/
theorem readOctets_direct (direct : path.IsDirect) (noNull : holdsNull path = false)
    (answers : disk.locate path ≠ .error .nameTooLong) {tree : FileTree}
    (descends : tree.Descends path.names) {octets : List UInt8} {written : Nat}
    (stands : tree.at? path.names = some (.file octets written)) :
    ({ disk with tree := tree } : Disk).readOctets path = .ok octets := by
  have located : ({ disk with tree := tree } : Disk).locate path =
      .ok (path.names, .file octets written) := by
    rw [locate, if_neg (Nat.not_le.mpr (text_lt_of_answers answers)), direct.absolute]
    exact descends.resolve stands
  exact readOctets_eq_ok_iff.mpr ⟨_, _, entryAt_of_locate noNull located⟩

/-- A file at a direct path is put at the names of the path, where it is read, or is not put. -/
theorem writeOctets_direct (direct : path.IsDirect) (octets : List UInt8) (disk : Disk) :
    (path.names ≠ [] ∧ ∃ after, writeOctets path octets disk = .ok () after ∧
      after.tree = disk.tree.put path.names (.file octets) ∧
      after.readOctets path = .ok octets) ∨
    ∃ failure, writeOctets path octets disk = .error failure disk := by
  unfold writeOctets
  rw [Action.bind_apply]
  have isHere : (get : Action Disk Disk) disk = .ok disk disk := rfl
  simp only [isHere]
  by_cases isNull : holdsNull path = true
  · rw [if_pos isNull]
    exact .inr ⟨_, rfl⟩
  · rw [if_neg isNull]
    have noNull : holdsNull path = false := Bool.eq_false_iff.mpr isNull
    have isRead : path.names ≠ [] → disk.locate path ≠ .error .nameTooLong →
        disk.tree.Descends path.names →
          ({ disk with tree := disk.tree.put path.names (.file octets) } : Disk).readOctets path =
            .ok octets := fun nonempty answers descends =>
      readOctets_direct direct noNull answers (descends.put_self _)
        (FileTree.at?_put_self disk.tree nonempty _)
    cases located : disk.locate path with
    | ok found =>
        obtain ⟨names, entry⟩ := found
        cases entry with
        | directory written => exact .inr ⟨_, rfl⟩
        | file held written =>
            obtain ⟨rfl, stands, descends⟩ := of_locate_direct direct located
            have nonempty := FileTree.ne_nil_of_at?_file stands
            exact .inl ⟨nonempty, _, rfl, rfl, isRead nonempty (by simp [located]) descends⟩
    | error refusal =>
        cases refusal with
        | missing =>
            dsimp only
            cases put : disk.putChild path (.file octets) with
            | error refusal => exact .inr ⟨_, rfl⟩
            | ok changed =>
                obtain ⟨rfl, absent, descends⟩ := of_putChild_direct direct located put
                have nonempty : path.names ≠ [] := by
                  intro noNames
                  rw [noNames] at absent
                  cases absent
                exact .inl ⟨nonempty, _, rfl, rfl, isRead nonempty (by simp [located]) descends⟩
        | _ => exact .inr ⟨_, rfl⟩

/-- A module at a direct path is written, read back, and changes no other file, or no file changes. -/
theorem writeModule_direct (direct : path.IsDirect) (content : String) (disk : Disk) :
    (∃ after, writeModule path content disk = .ok () after ∧
      after.readOctets path = .ok (Utf8.encode content) ∧
      ∀ names, after.tree.octetsAt? names =
        if names = path.names then some (Utf8.encode content) else disk.tree.octetsAt? names) ∨
    ∃ failure after, writeModule path content disk = .error failure after ∧
      ∀ names, after.tree.octetsAt? names = disk.tree.octetsAt? names := by
  have kept := preserves_ensureDirectories disk.tree.octetsAt? path.names.length direct.parent disk
    fun _ => rfl
  unfold writeModule plant
  rw [Action.bind_apply]
  unfold Action.stateAfter at kept
  cases prepared : ensureDirectories path.names.length path.parent disk with
  | error failure after =>
      rw [prepared] at kept
      exact .inr ⟨failure, after, rfl, kept⟩
  | ok _ ready =>
      rw [prepared] at kept
      dsimp only at kept ⊢
      rcases writeOctets_direct direct (Utf8.encode content) ready with
        ⟨nonempty, after, written, changed, isRead⟩ | ⟨failure, refused⟩
      · refine .inl ⟨after, written, isRead, fun names => ?_⟩
        rw [changed]
        split
        · rename_i same
          rw [same]
          exact FileTree.octetsAt?_put_self nonempty _
        · rename_i different
          rw [← kept names]
          exact FileTree.octetsAt?_put_of_ne different _
      · exact .inr ⟨failure, ready, refused, kept⟩

/-- The disk keeps direct paths apart. -/
theorem store_faithful : store.Faithful textAt? FilePath.IsDirect where
  held_of_taken {path content disk after} direct taken other otherDirect := by
    rcases writeModule_direct direct content disk with
      ⟨_, written, _, octets⟩ | ⟨_, _, refused, _⟩
    · cases written.symm.trans taken
      unfold textAt?
      rw [octets]
      by_cases same : other = path
      · rw [if_pos same, if_pos (congrArg FilePath.names same), Option.bind_some,
          Utf8.decode_encode]
        rfl
      · rw [if_neg same, if_neg fun sameNames =>
          same (otherDirect.eq_of_names_eq direct sameNames)]
    · cases refused.symm.trans taken
  held_of_refused {path content disk failure after} direct refused other _ _ := by
    rcases writeModule_direct direct content disk with
      ⟨_, written, _, _⟩ | ⟨_, _, failed, octets⟩
    · cases written.symm.trans refused
    · cases failed.symm.trans refused
      rw [textAt?, textAt?, octets]

theorem store_spares : store.Spares textAt? FilePath.IsDirect := by
  intro path content disk failure after direct refused
  rcases writeModule_direct direct content disk with
    ⟨_, written, _, _⟩ | ⟨_, _, failed, octets⟩
  · cases written.symm.trans refused
  · cases failed.symm.trans refused
    rw [textAt?, textAt?, octets]

end Disk

end ImportBoundary
