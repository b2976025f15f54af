import ImportBoundary.Proofs.Files.Resolution
import ImportBoundary.Proofs.Path.Relative
import Mathlib.Data.List.Induction

/-!
Contract: the way that a path takes through the tree.

Owns the names that lead down from the root through directories, and how the names of a path are
followed in pieces. A `..` in a path is a step of the way: what stands before it is looked up, even if
the path leads elsewhere in the end.

Main statements: `resolve_append_eq_ok`, by which a path can be followed from where it leads, with no
`..` in it, and `Disk.Passable.resolve`, by which a path leads to its resolved names once every `..` in
it leaves a directory.
-/

namespace ImportBoundary

namespace FileTree

variable {tree : FileTree} {here reached names more : List String} {entry : Entry}

/-! ## Names that lead down from the root -/

/-- All that stands above these names are directories, and none of the names leads up or is too long to
be looked up. -/
structure Descends (tree : FileTree) (names : List String) : Prop where
  proper : ∀ name ∈ names, name ≠ ".." ∧ name.utf8ByteSize ≤ nameLimit
  through : ∀ upper, upper <+: names → upper ≠ names →
    ∃ written, tree.at? upper = some (.directory written)

theorem descends_nil (tree : FileTree) : tree.Descends [] where
  proper := fun _ member => absurd member List.not_mem_nil
  through := fun _ above different => absurd (List.prefix_nil.mp above) different

theorem Descends.of_prefix (descends : tree.Descends names) (above : here <+: names) :
    tree.Descends here where
  proper := fun name member => descends.proper name (above.subset member)
  through := by
    intro upper higher different
    apply descends.through upper (higher.trans above)
    rintro rfl
    exact different (higher.eq_of_length (Nat.le_antisymm higher.length_le above.length_le))

/-- One more name below a directory. -/
theorem Descends.child (descends : tree.Descends here) {written : Nat}
    (isDirectory : tree.at? here = some (.directory written)) {name : String}
    (proper : name ≠ "..") (short : name.utf8ByteSize ≤ nameLimit) :
    tree.Descends (here ++ [name]) where
  proper := by
    intro other member
    rcases List.mem_append.mp member with above | last
    · exact descends.proper other above
    · rw [List.mem_singleton.mp last]
      exact ⟨proper, short⟩
  through := by
    intro upper above different
    have within : upper <+: here := (List.prefix_concat_iff.mp above).resolve_left different
    by_cases same : upper = here
    · exact ⟨written, same ▸ isDirectory⟩
    · exact descends.through upper within same

/-- Above names that lead down stands a directory. -/
theorem Descends.parent {name : String} (descends : tree.Descends (here ++ [name])) :
    ∃ written, tree.at? here = some (.directory written) :=
  descends.through here (List.prefix_append here [name]) (by simp)

/-- Whatever the way, it ends at names that lead down. -/
theorem descends_of_resolveFrom (descends : tree.Descends here)
    (resolved : tree.resolveFrom here names = .ok (reached, entry)) : tree.Descends reached := by
  induction names generalizing here with
  | nil =>
      unfold resolveFrom at resolved
      split at resolved
      · cases resolved
      · cases resolved
        exact descends
  | cons name rest inductionHypothesis =>
      unfold resolveFrom at resolved
      split at resolved
      · cases resolved
      · cases resolved
      · rename_i written isDirectory
        split at resolved
        · cases resolved
        · rename_i short
          refine inductionHypothesis ?_ resolved
          split
          · exact descends.of_prefix (List.dropLast_prefix here)
          · rename_i proper
            exact descends.child isDirectory proper (Nat.le_of_not_lt short)

/-! ## Ways in pieces -/

/-- The rest of a way is taken from where its beginning leads. -/
theorem resolveFrom_append (resolved : tree.resolveFrom here names = .ok (reached, entry))
    (more : List String) :
    tree.resolveFrom here (names ++ more) = tree.resolveFrom reached more := by
  induction names generalizing here with
  | nil =>
      unfold resolveFrom at resolved
      split at resolved
      · cases resolved
      · cases resolved
        rfl
  | cons name rest inductionHypothesis =>
      unfold resolveFrom at resolved
      rw [List.cons_append]
      split at resolved
      · cases resolved
      · cases resolved
      · rename_i written isDirectory
        split at resolved
        · cases resolved
        · rename_i short
          rw [resolveFrom, isDirectory]
          dsimp only
          rw [if_neg short, inductionHypothesis resolved]

/-- The beginning of a way leads somewhere, and to a directory unless it is the whole way. -/
theorem exists_resolveFrom_of_append
    (resolved : tree.resolveFrom here (names ++ more) = .ok (reached, entry)) :
    ∃ middle upper, tree.resolveFrom here names = .ok (middle, upper) := by
  induction names generalizing here with
  | nil =>
      cases stands : tree.at? here with
      | none =>
          rw [List.nil_append] at resolved
          cases more <;> simp [resolveFrom, stands] at resolved
      | some upper => exact ⟨here, upper, by simp [resolveFrom, stands]⟩
  | cons name rest inductionHypothesis =>
      rw [List.cons_append, resolveFrom] at resolved
      rw [resolveFrom]
      split at resolved
      · cases resolved
      · cases resolved
      · split at resolved
        · cases resolved
        · rename_i short
          rw [if_neg short]
          exact inductionHypothesis resolved

/-- One more name from where a way leads. -/
theorem resolve_concat {name : String} {written : Nat}
    (resolved : tree.resolve names = .ok (here, .directory written))
    (short : name.utf8ByteSize ≤ nameLimit)
    (stands : tree.at? (if name = ".." then here.dropLast else here ++ [name]) = some entry) :
    tree.resolve (names ++ [name]) =
      .ok (if name = ".." then here.dropLast else here ++ [name], entry) := by
  have isDirectory := (resolveFrom_eq_ok resolved).2
  rw [resolve, resolveFrom_append resolved, resolveFrom, isDirectory]
  dsimp only
  rw [if_neg (Nat.not_lt.mpr short), resolveFrom, stands]

/-- Names that lead down lead to what stands at them. -/
theorem Descends.resolve (descends : tree.Descends names) (stands : tree.at? names = some entry) :
    tree.resolve names = .ok (names, entry) := by
  induction names using List.reverseRecOn generalizing entry with
  | nil =>
      cases stands
      rfl
  | append_singleton names name inductionHypothesis =>
      obtain ⟨proper, short⟩ := descends.proper name (by simp)
      obtain ⟨written, isDirectory⟩ := descends.parent
      have above := inductionHypothesis (descends.of_prefix (List.prefix_append _ _)) isDirectory
      have found := resolve_concat above short (by rwa [if_neg proper])
      rwa [if_neg proper] at found

/-- A way can be taken from where its beginning leads: the names without `..` lead on to the same
entry. -/
theorem resolve_append_eq_ok (anchor : Anchor)
    (resolved : tree.resolve (names ++ more) = .ok (reached, entry)) :
    tree.resolve ((⟨anchor, names⟩ : FilePath).normalNames ++ more) = .ok (reached, entry) := by
  obtain ⟨middle, upper, leads⟩ := exists_resolveFrom_of_append resolved
  obtain ⟨isMiddle, stands⟩ := resolveFrom_eq_ok leads
  have descends := descends_of_resolveFrom (descends_nil tree) leads
  have same : (⟨anchor, names⟩ : FilePath).normalNames = middle := isMiddle.symm
  rw [same, resolve, resolveFrom_append (descends.resolve stands), ← resolveFrom_append leads]
  exact resolved

end FileTree

/-! ## The places that a path passes -/

namespace FilePath

variable {anchor : Anchor} {names upper : List String}

theorem normalNames_concat (anchor : Anchor) (names : List String) (name : String) :
    normalNames ⟨anchor, names ++ [name]⟩ =
      if name = ".." then (normalNames ⟨anchor, names⟩).dropLast
      else normalNames ⟨anchor, names⟩ ++ [name] := by
  rw [normalNames_append, List.foldl_cons, List.foldl_nil, FileTree.reverse_pushName]

/-- Resolving `..` only leaves names out. -/
theorem normalNames_sublist (path : FilePath) : path.normalNames.Sublist path.names := by
  obtain ⟨anchor, names⟩ := path
  induction names using List.reverseRecOn with
  | nil => exact List.Sublist.refl _
  | append_singleton names name inductionHypothesis =>
      rw [normalNames_concat]
      split
      · exact ((List.dropLast_sublist _).trans inductionHypothesis).trans
          (List.sublist_append_left names [name])
      · exact inductionHypothesis.append_right [name]

/-- The beginning of a path that has so many names. -/
def upTo (path : FilePath) (count : Nat) : FilePath :=
  ⟨path.anchor, path.names.take count⟩

/-- A path passes every directory above where it leads, and passes it for a last time: from then on it
stays below. -/
theorem exists_last_visit {path : FilePath} (above : upper <+: path.normalNames) :
    ∃ count ≤ path.names.length, (path.upTo count).normalNames = upper ∧
      ∀ later, count ≤ later → later ≤ path.names.length →
        upper <+: (path.upTo later).normalNames := by
  obtain ⟨anchor, names⟩ := path
  dsimp only [upTo]
  induction names using List.reverseRecOn with
  | nil =>
      rw [List.prefix_nil.mp above]
      exact ⟨0, Nat.le_refl _, rfl, fun _ _ _ => List.nil_prefix⟩
  | append_singleton names name inductionHypothesis =>
      have isWhole : (names ++ [name]).take (names.length + 1) = names ++ [name] :=
        List.take_of_length_le (by simp)
      have isBeginning : ∀ count ≤ names.length, (names ++ [name]).take count = names.take count :=
        fun count within => List.take_append_of_le_length within
      rw [List.length_append, List.length_singleton]
      by_cases atEnd : upper = normalNames ⟨anchor, names ++ [name]⟩
      · refine ⟨names.length + 1, Nat.le_refl _, by rw [isWhole, atEnd], ?_⟩
        intro later passed within
        rw [Nat.le_antisymm within passed, isWhole]
        exact above
      · -- The last name either leads up, or leads below a place that the path has passed.
        have earlier : upper <+: normalNames ⟨anchor, names⟩ := by
          have wayBelow := above
          rw [normalNames_concat] at wayBelow atEnd
          split at wayBelow
          · exact wayBelow.trans (List.dropLast_prefix _)
          · rename_i proper
            rw [if_neg proper] at atEnd
            exact (List.prefix_concat_iff.mp wayBelow).resolve_left atEnd
        obtain ⟨count, within, visits, stays⟩ := inductionHypothesis earlier
        refine ⟨count, Nat.le_succ_of_le within, by rw [isBeginning count within, visits], ?_⟩
        intro later passed notBeyond
        by_cases last : later = names.length + 1
        · rw [last, isWhole]
          exact above
        · have before : later ≤ names.length := by omega
          rw [isBeginning later before]
          exact stays later passed before

end FilePath

namespace Disk

variable {disk : Disk} {path : FilePath} {kind : Entry → Bool}

theorem leadsTo_eq_ok_true_iff :
    disk.leadsTo path kind = .ok true ↔
      ∃ names entry, disk.entryAt path = .ok (names, entry) ∧ kind entry = true := by
  unfold leadsTo
  constructor
  · intro leads
    split at leads
    · rename_i names entry located
      exact ⟨names, entry, located, Except.ok.inj leads⟩
    · cases leads
    · cases leads
  · rintro ⟨names, entry, located, isKind⟩
    rw [located]
    exact congrArg Except.ok isKind

/-- No answer is given about a path exactly if it is too long to be looked up. -/
theorem leadsTo_eq_error_iff {failure : Failure} :
    disk.leadsTo path kind = .error failure ↔
      holdsNull path = false ∧ disk.locate path = .error .nameTooLong ∧
        failure = .refused ⟨.nameTooLong, path.text⟩ := by
  unfold leadsTo entryAt
  cases holdsNull path with
  | true => simp
  | false =>
      cases located : disk.locate path with
      | ok found => simp [Except.mapError]
      | error refusal => cases refusal <;> simp [Except.mapError, eq_comm]

theorem holdsNull_append (anchor : Anchor) (names more : List String) :
    holdsNull ⟨anchor, names ++ more⟩ =
      (holdsNull ⟨anchor, names⟩ || more.any fun name => name.toList.contains (Char.ofNat 0)) :=
  List.any_append

theorem holdsNull_of_entryAt {found : List String × Entry} (located : disk.entryAt path = .ok found) :
    holdsNull path = false := by
  unfold entryAt at located
  split at located
  · cases located
  · rename_i noNull
    exact Bool.eq_false_iff.mpr noNull

/-- A path from the root that leads to a directory leads to its resolved names. -/
theorem resolve_of_isDirectory (isDirectory : disk.isDirectory path = .ok true)
    (isAbsolute : path.isAbsolute = true) :
    ∃ written, disk.tree.resolve path.names = .ok (path.normalNames, .directory written) := by
  obtain ⟨names, entry, located, isKind⟩ := leadsTo_eq_ok_true_iff.mp isDirectory
  cases entry with
  | file octets written => cases isKind
  | directory written =>
      have found := locate_of_entryAt located
      have isReached := (at?_of_locate found).1
      unfold locate at found
      rw [FilePath.absolute_of_isAbsolute isAbsolute] at found isReached
      split at found
      · cases found
      · exact ⟨written, isReached ▸ found⟩

/-- What stands before a `..` leads to a directory, wherever one stands in a path. -/
def Passable (disk : Disk) (path : FilePath) : Prop :=
  ∀ index, path.names[index]? = some ".." → disk.isDirectory (path.upTo index) = .ok true

instance (disk : Disk) (path : FilePath) : Decidable (disk.Passable path) :=
  decidable_of_iff (∀ index < path.names.length, path.names[index]? = some ".." →
      disk.isDirectory (path.upTo index) = .ok true)
    ⟨fun bounded index leadsUp => bounded index (List.getElem?_eq_some_iff.mp leadsUp).1 leadsUp,
      fun passable index _ => passable index⟩

namespace Passable

theorem upTo (passable : disk.Passable path) (count : Nat) : disk.Passable (path.upTo count) := by
  intro index leadsUp
  have isBeginning : (path.upTo count).names = path.names.take count := rfl
  rw [isBeginning, List.getElem?_take] at leadsUp
  split at leadsUp
  · rename_i within
    have same : (path.upTo count).upTo index = path.upTo index := by
      rw [FilePath.upTo, isBeginning, List.take_take, Nat.min_eq_left (Nat.le_of_lt within)]
      rfl
    rw [same]
    exact passable index leadsUp
  · cases leadsUp

/-- A path of which every `..` leaves a directory leads to its resolved names, if these lead down to
something. -/
theorem resolve (passable : disk.Passable path) (isAbsolute : path.isAbsolute = true)
    (descends : disk.tree.Descends path.normalNames) {entry : Entry}
    (stands : disk.tree.at? path.normalNames = some entry) :
    disk.tree.resolve path.names = .ok (path.normalNames, entry) := by
  obtain ⟨anchor, names⟩ := path
  induction names using List.reverseRecOn generalizing entry with
  | nil =>
      cases stands
      rfl
  | append_singleton names name inductionHypothesis =>
      have beginning : FilePath.upTo ⟨anchor, names ++ [name]⟩ names.length = ⟨anchor, names⟩ := by
        simp [FilePath.upTo]
      rw [FilePath.normalNames_concat] at descends stands ⊢
      by_cases leadsUp : name = ".."
      · have isDirectory := passable names.length (by simp [leadsUp])
        rw [beginning] at isDirectory
        obtain ⟨written, above⟩ := resolve_of_isDirectory isDirectory isAbsolute
        exact FileTree.resolve_concat above (by rw [leadsUp]; decide) stands
      · rw [if_neg leadsUp] at descends
        obtain ⟨written, isDirectory⟩ := descends.parent
        have ofBeginning := passable.upTo names.length
        rw [beginning] at ofBeginning
        have above := inductionHypothesis ofBeginning isAbsolute
          (descends.of_prefix (List.prefix_append _ _)) isDirectory
        exact FileTree.resolve_concat above (descends.proper name (by simp)).2 stands

end Passable

end Disk

end ImportBoundary
