import ImportBoundary.Files.Tree
import ImportBoundary.Path.Relative
import ImportBoundary.Proofs.Collecting
import ImportBoundary.Proofs.Path.Basic

/-!
Contract: where a path leads.

Owns the names that a path leads to, which are its names once every `..` is resolved, and what
reading and the test for a file say about what stands there. The tree decides only whether a path
leads anywhere: two trees in which it does lead to the same names.

Main statements: `at?_of_locate`, and `readOctets_eq_ok_iff`.
-/

namespace ImportBoundary

namespace FileTree

/-- One more name, seen from names that end with the newest. -/
theorem reverse_pushName (here : List String) (name : String) :
    (FilePath.pushName here.reverse name).reverse =
      if name = ".." then here.dropLast else here ++ [name] := by
  unfold FilePath.pushName
  split
  · rw [List.drop_one, List.tail_reverse, List.reverse_reverse]
  · rw [List.reverse_cons, List.reverse_reverse]

theorem resolveFrom_eq_ok {tree : FileTree} {here rest names : List String} {entry : Entry}
    (resolved : tree.resolveFrom here rest = .ok (names, entry)) :
    names = (rest.foldl FilePath.pushName here.reverse).reverse ∧ tree.at? names = some entry := by
  induction rest generalizing here with
  | nil =>
      unfold resolveFrom at resolved
      split at resolved
      · cases resolved
      · cases resolved
        exact ⟨(List.reverse_reverse _).symm, by assumption⟩
  | cons name rest inductionHypothesis =>
      unfold resolveFrom at resolved
      split at resolved
      · cases resolved
      · cases resolved
      · split at resolved
        · cases resolved
        · have later := inductionHypothesis resolved
          rw [← reverse_pushName, List.reverse_reverse] at later
          exact later

section File

variable {tree : FileTree} {names : List String} {octets : List UInt8} {written : Nat}

/-- A file stands at some names: the root is a directory. -/
theorem ne_nil_of_at?_file (stands : tree.at? names = some (.file octets written)) :
    names ≠ [] := by
  rintro rfl
  cases stands

theorem mem_of_at?_file (stands : tree.at? names = some (.file octets written)) :
    (names, .file octets written) ∈ tree.entries := by
  have nonempty : names.isEmpty = false := List.isEmpty_eq_false_iff.mpr (ne_nil_of_at?_file stands)
  rw [at?, nonempty, if_neg Bool.false_ne_true] at stands
  obtain ⟨before, after, split, _⟩ := List.lookup_eq_some_iff.mp stands
  rw [split]
  exact List.mem_append_right before List.mem_cons_self

end File

end FileTree

namespace Disk

variable {disk : Disk} {path : FilePath}

/-- The working directory is absolute. -/
@[simp] theorem isAbsolute_here (disk : Disk) : disk.here.isAbsolute = true :=
  rfl

/-- What a path leads to stands at its names, with every `..` resolved. -/
theorem at?_of_locate {names : List String} {entry : Entry}
    (located : disk.locate path = .ok (names, entry)) :
    names = (path.absolute disk.here).normalNames ∧ disk.tree.at? names = some entry := by
  unfold locate at located
  split at located
  · cases located
  · exact FileTree.resolveFrom_eq_ok located

theorem locate_of_entryAt {names : List String} {entry : Entry}
    (located : disk.entryAt path = .ok (names, entry)) : disk.locate path = .ok (names, entry) := by
  unfold entryAt at located
  split at located
  · cases located
  · cases found : disk.locate path with
    | error refusal =>
        rw [found] at located
        cases located
    | ok place =>
        rw [found] at located
        cases located
        rfl

theorem readOctets_eq_ok_iff {octets : List UInt8} :
    disk.readOctets path = .ok octets ↔
      ∃ names written, disk.entryAt path = .ok (names, .file octets written) := by
  unfold readOctets
  rw [bind_eq_ok_iff]
  constructor
  · rintro ⟨⟨names, entry⟩, located, isFile⟩
    cases entry with
    | file held written =>
        cases isFile
        exact ⟨names, written, located⟩
    | directory written => cases isFile
  · rintro ⟨names, written, located⟩
    exact ⟨(names, .file octets written), located, rfl⟩

/-- A path leads to a file exactly when its octets can be read. -/
theorem isFile_eq_ok_true_iff :
    disk.isFile path = .ok true ↔ ∃ octets, disk.readOctets path = .ok octets := by
  simp only [readOctets_eq_ok_iff]
  unfold isFile leadsTo
  constructor
  · intro leads
    split at leads
    · rename_i names entry located
      cases entry with
      | file octets written => exact ⟨octets, names, written, located⟩
      | directory written => cases leads
    · cases leads
    · cases leads
  · rintro ⟨octets, names, written, located⟩
    rw [located]
    rfl

/-! ## Paths seen from the root -/

theorem holdsNull_absolute (noNull : holdsNull path = false)
    (hereNoNull : holdsNull disk.here = false) : holdsNull (path.absolute disk.here) = false := by
  unfold holdsNull at *
  rcases path.names_absolute disk.here with same | joined
  · rw [same, noNull]
  · rw [joined, List.any_append, hereNoNull, noNull]
    rfl

/-- What is found from the working directory is found from the root, unless the path from there is too
long. -/
theorem entryAt_absolute {found : List String × Entry} (located : disk.entryAt path = .ok found)
    (noNull : holdsNull disk.here = false)
    (short : (path.absolute disk.here).text.utf8ByteSize < FileTree.pathLimit) :
    disk.entryAt (path.absolute disk.here) = .ok found := by
  have pathNoNull : holdsNull path = false := by
    unfold entryAt at located
    cases isNull : holdsNull path with
    | false => rfl
    | true =>
        rw [isNull] at located
        cases located
  have found := locate_of_entryAt located
  have sameWay : disk.locate (path.absolute disk.here) = disk.locate path := by
    unfold locate at *
    rw [if_neg (Nat.not_le.mpr short),
      FilePath.absolute_of_isAbsolute (path.isAbsolute_absolute disk.isAbsolute_here)]
    split at found
    · cases found
    · rw [if_neg (by assumption)]
  unfold entryAt
  rw [holdsNull_absolute pathNoNull noNull, if_neg Bool.false_ne_true, sameWay, found]
  rfl

end Disk

end ImportBoundary
