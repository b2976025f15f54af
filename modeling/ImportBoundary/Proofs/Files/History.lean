import ImportBoundary.Proofs.Build.Run
import ImportBoundary.Proofs.Files.Resolution

/-!
Contract: disks that come one after the other, told apart by the times of writing.

Owns what a change of the disk must respect so that times tell contents apart: what is new at some
names carries a time that no file has had there. Times need not grow; a file may be deleted, made
again, or replaced by a directory, and every other file may carry the same time.

Also owns that entering a directory, deleting a file, and writing a file at a time of its own are
such changes.

Main statement: `ToldByTime.renewed`, by which a time that was seen at some names, and is seen there
again, is the time of the same octets.
-/

namespace ImportBoundary

theorem Table.lookup_filter_ne {α β : Type} [BEq α] [LawfulBEq α] [DecidableEq α]
    (removed key : α) (entries : List (α × β)) :
    (entries.filter fun entry => entry.1 ≠ removed).lookup key =
      if key = removed then none else entries.lookup key := by
  induction entries with
  | nil => exact (ite_self none).symm
  | cons first rest inductionHypothesis =>
      by_cases isRemoved : first.1 = removed
      · rw [List.filter_cons_of_neg (by simpa using isRemoved), inductionHypothesis]
        by_cases same : key = removed
        · rw [if_pos same, if_pos same]
        · have differs : (key == first.1) = false := beq_false_of_ne (isRemoved ▸ same)
          rw [if_neg same, if_neg same, List.lookup_cons, differs]
      · rw [List.filter_cons_of_pos (by simpa using isRemoved), List.lookup_cons,
          inductionHypothesis]
        by_cases same : key = removed
        · have differs : (key == first.1) = false := beq_false_of_ne (same ▸ Ne.symm isRemoved)
          rw [if_pos same, if_pos same, differs]
        · rw [if_neg same, if_neg same, List.lookup_cons]

/-- What is left after a removal stood there before. -/
theorem FileTree.at?_of_remove {tree : FileTree} {removed names : List String} {entry : Entry}
    (stands : (tree.remove removed).at? names = some entry) : tree.at? names = some entry := by
  unfold at? at *
  split at stands
  · rw [if_pos (by assumption)]
    exact stands
  · rw [if_neg (by assumption)]
    unfold remove at stands
    dsimp only at stands
    rw [Table.lookup_filter_ne] at stands
    split at stands
    · cases stands
    · exact stands

namespace Disk

/-- A disk that comes after another one, which comes after others: whatever stands on it stood there
on the disk before, or carries a time that no file has had at its names. -/
def Renews (disk present : Disk) (past : List Disk) : Prop :=
  ∀ names entry, disk.tree.at? names = some entry →
    present.tree.at? names = some entry ∨
      ∀ earlier ∈ present :: past, ∀ octets,
        earlier.tree.at? names ≠ some (.file octets entry.written)

/-- What carries the time of a file that one of some disks held at the same names is that file. -/
def ToldByTime (disk : Disk) (history : List Disk) : Prop :=
  ∀ names entry, disk.tree.at? names = some entry → ∀ earlier ∈ history, ∀ octets,
    earlier.tree.at? names = some (.file octets entry.written) → entry = .file octets entry.written

theorem toldByTime_self (disk : Disk) : disk.ToldByTime [disk] := by
  intro names entry stands earlier isEarlier octets stood
  rw [List.mem_singleton.mp isEarlier, stands] at stood
  exact Option.some.inj stood

/-- A renewed disk tells its files from all earlier ones if the disk before did. -/
theorem ToldByTime.renewed {disk present : Disk} {past : List Disk}
    (told : present.ToldByTime (present :: past)) (renews : disk.Renews present past) :
    disk.ToldByTime (disk :: present :: past) := by
  intro names entry stands earlier isEarlier octets stood
  rcases List.mem_cons.mp isEarlier with rfl | isOlder
  · rw [stands] at stood
    exact Option.some.inj stood
  · rcases renews names entry stands with unchanged | fresh
    · exact told names entry unchanged earlier isOlder octets stood
    · exact absurd stood (fresh earlier isOlder octets)

section Changes

variable {disk present : Disk} {past : List Disk} {path : FilePath}

theorem renews_of_subset (kept : ∀ names entry, disk.tree.at? names = some entry →
    present.tree.at? names = some entry) : disk.Renews present past :=
  fun names entry stands => .inl (kept names entry stands)

theorem renews_enter (entered : present.enter path = .ok disk) : disk.Renews present past := by
  unfold enter at entered
  obtain ⟨⟨names, entry⟩, _, answered⟩ := bind_eq_ok_iff.mp entered
  cases entry with
  | file octets written => cases answered
  | directory written =>
      cases answered
      exact renews_of_subset fun _ _ stands => stands

theorem renews_delete (deleted : present.delete path = .ok disk) : disk.Renews present past := by
  unfold delete at deleted
  obtain ⟨⟨names, entry⟩, _, answered⟩ := bind_eq_ok_iff.mp deleted
  cases entry with
  | directory written => cases answered
  | file octets written =>
      cases answered
      exact renews_of_subset fun _ _ => FileTree.at?_of_remove

/-- The disk whose next writing carries this time. -/
def atTime (disk : Disk) (time : Nat) : Disk :=
  { disk with tree := ⟨disk.tree.entries, time⟩ }

theorem eq_put_of_putChild {make : Nat → Entry} (put : present.putChild path make = .ok disk) :
    ∃ names ≠ [], disk = { present with tree := present.tree.put names make } := by
  unfold putChild at put
  obtain ⟨⟨names, entry⟩, _, answered⟩ := bind_eq_ok_iff.mp put
  cases entry with
  | file held written => cases answered
  | directory written =>
      cases answered
      exact ⟨names ++ [path.name], List.concat_ne_nil path.name names, rfl⟩

/-- A write leaves the disk as it is, or puts the file at some names. -/
theorem writeOctets_cases (disk : Disk) (path : FilePath) (octets : List UInt8) :
    (writeOctets path octets).stateAfter disk = disk ∨
      ∃ names ≠ [], (writeOctets path octets).stateAfter disk =
        { disk with tree := disk.tree.put names (.file octets) } := by
  unfold Action.stateAfter writeOctets
  rw [Action.bind_apply]
  have isHere : (get : Action Disk Disk) disk = .ok disk disk := rfl
  simp only [isHere]
  by_cases isNull : holdsNull path = true
  · rw [if_pos isNull]
    exact .inl rfl
  · rw [if_neg isNull]
    cases located : disk.locate path with
    | ok found =>
        obtain ⟨names, entry⟩ := found
        cases entry with
        | directory written => exact .inl rfl
        | file held written =>
            have nonempty := FileTree.ne_nil_of_at?_file (at?_of_locate located).2
            exact .inr ⟨names, nonempty, rfl⟩
    | error refusal =>
        cases refusal with
        | missing =>
            cases put : disk.putChild path (.file octets) with
            | error refusal => exact .inl rfl
            | ok changed =>
                obtain ⟨names, nonempty, rfl⟩ := eq_put_of_putChild put
                exact .inr ⟨names, nonempty, rfl⟩
        | _ => exact .inl rfl

/-- Writing a file at a time that nothing has carried renews the disk. -/
theorem renews_writeOctets {time : Nat} (octets : List UInt8)
    (unused : ∀ earlier ∈ present :: past, ∀ entry ∈ earlier.tree.entries,
      entry.2.written ≠ time) :
    ((writeOctets path octets).stateAfter (present.atTime time)).Renews present past := by
  rcases writeOctets_cases (present.atTime time) path octets with
    unchanged | ⟨written, nonempty, changed⟩
  · rw [unchanged]
    exact renews_of_subset fun _ _ stands => stands
  · rw [changed]
    intro names entry stands
    by_cases same : names = written
    · subst same
      rw [FileTree.at?_put_self _ nonempty] at stands
      cases stands
      right
      intro earlier isEarlier held stood
      exact unused earlier isEarlier _ (FileTree.mem_of_at?_file stood) rfl
    · rw [FileTree.at?_put_of_ne _ same] at stands
      exact .inl stands

end Changes

end Disk

end ImportBoundary
