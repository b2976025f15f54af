import ImportBoundary.Proofs.Path.Relative
import ImportBoundary.Proofs.Text.Stray

/-!
Contract: specifiers of boundary modules that can be written.

The names of a boundary module below the project root are ASCII, so that its specifier can be written
if and only if the names on the walk from the importing file to the root can. From a file of the
project this walk goes up only.

Main statement: `isWritable_specifier_iff`.
-/

namespace ImportBoundary.FilePath

/-- Below a longer target the walk goes down by the same names and by some of the added ones. -/
theorem forall_mem_drop_append_iff {property : String → Prop} {start upper lower : List String}
    (ofLower : ∀ name ∈ lower, property name) :
    (∀ name ∈ (upper ++ lower).drop (commonLength start (upper ++ lower)), property name) ↔
      ∀ name ∈ upper.drop (commonLength start upper), property name := by
  induction upper generalizing start with
  | nil =>
      constructor
      · intro _ name member
        cases List.mem_of_mem_drop member
      · intro _ name member
        exact ofLower name (List.mem_of_mem_drop member)
  | cons name rest inductionHypothesis =>
      have whole : (∀ each ∈ name :: (rest ++ lower), property each) ↔
          ∀ each ∈ name :: rest, property each := by
        rw [← List.cons_append, List.forall_mem_append, and_iff_left ofLower]
      rw [List.cons_append]
      cases start with
      | nil => exact whole
      | cons first others =>
          unfold commonLength
          split
          · exact inductionHypothesis
          · exact whole

variable [StrayOctets]

/-- No name on the walk from a file to a directory holds stray octets. -/
def IsSpelled (importer directory : FilePath) : Prop :=
  ∀ name ∈ steps importer.parent directory, Utf8.IsWritable name

instance (importer directory : FilePath) : Decidable (importer.IsSpelled directory) :=
  inferInstanceAs (Decidable (∀ name ∈ steps importer.parent directory, Utf8.IsWritable name))

theorem isWritable_joinNames_iff {names : List String} :
    Utf8.IsWritable (joinNames names) ↔ ∀ name ∈ names, Utf8.IsWritable name := by
  have slash : Utf8.IsWritable "/" := Utf8.isWritable_of_ascii (by decide)
  induction names using joinNames.induct with
  | case1 => simp [joinNames, Utf8.IsWritable]
  | case2 name => simp [joinNames]
  | case3 name rest further inductionHypothesis =>
      have joined : joinNames (name :: rest) = name ++ "/" ++ joinNames rest :=
        joinNames.eq_3 name rest further
      have ofRest : Utf8.IsWritable (joinNames rest) ↔ ∀ other ∈ rest, Utf8.IsWritable other :=
        inductionHypothesis
      rw [joined, Utf8.isWritable_append_iff, Utf8.isWritable_append_iff, ofRest,
        List.forall_mem_cons, and_iff_left slash]

theorem isWritable_walkText_iff {walk : List String} :
    Utf8.IsWritable (walkText walk) ↔ ∀ name ∈ walk, Utf8.IsWritable name := by
  unfold walkText
  split
  · rename_i stays
    have dot : Utf8.IsWritable "." := Utf8.isWritable_of_ascii (by decide)
    simp [stays, dot]
  · exact isWritable_joinNames_iff

/-- Only the way down matters: the steps upwards can always be written. -/
theorem isWritable_stepsBetween_iff {start target : List String} :
    (∀ name ∈ stepsBetween start target, Utf8.IsWritable name) ↔
      ∀ name ∈ target.drop (commonLength start target), Utf8.IsWritable name := by
  have up : ∀ name ∈ List.replicate (start.length - commonLength start target) "..",
      Utf8.IsWritable name := by
    intro name isUp
    rw [List.eq_of_mem_replicate isUp]
    exact Utf8.isWritable_of_ascii (by decide)
  rw [stepsBetween, List.forall_mem_append, and_iff_right up]

theorem isWritable_namesOfModule (normalized : String) :
    ∀ name ∈ namesOfModule normalized, Utf8.IsWritable name := by
  have directories : Utf8.IsWritable generatedDirectory ∧ Utf8.IsWritable "boundaries" :=
    ⟨Utf8.isWritable_of_ascii (by decide), Utf8.isWritable_of_ascii (by decide)⟩
  have file : Utf8.IsWritable (boundaryId normalized ++ ".js") :=
    Utf8.isWritable_append_iff.mpr ⟨Utf8.isWritable_of_ascii (isAscii_boundaryId normalized),
      Utf8.isWritable_of_ascii (by decide)⟩
  simp [namesOfModule, directories, file]

/-- The specifier of a boundary module can be written exactly if no stray octet is met on the walk from
the importing file to the project root. -/
theorem isWritable_specifier_iff (importer root : FilePath) (normalized : String) :
    Utf8.IsWritable (specifier importer (boundaryPath root (boundaryId normalized))) ↔
      importer.IsSpelled root := by
  have ofWalk : Utf8.IsWritable (specifier importer (boundaryPath root (boundaryId normalized))) ↔
      ∀ name ∈ steps importer.parent (boundaryPath root (boundaryId normalized)),
        Utf8.IsWritable name := by
    have dotSlash : Utf8.IsWritable "./" := Utf8.isWritable_of_ascii (by decide)
    rw [specifier_eq]
    split
    · exact isWritable_walkText_iff
    · rw [Utf8.isWritable_append_iff, and_iff_right dotSlash, isWritable_walkText_iff]
  unfold IsSpelled
  rw [ofWalk, steps, steps, isWritable_stepsBetween_iff, isWritable_stepsBetween_iff,
    normalNames_boundaryPath,
    forall_mem_drop_append_iff (isWritable_namesOfModule normalized)]

/-- A file of the project reaches the root by steps upwards only. -/
theorem isSpelled_of_isPrefix {importer root : FilePath}
    (within : root.normalNames <+: importer.parent.normalNames) : importer.IsSpelled root := by
  obtain ⟨rest, isDirectory⟩ := within
  have common : commonLength importer.parent.normalNames root.normalNames =
      root.normalNames.length := by
    have upToRoot := commonLength_append root.normalNames rest []
    rw [List.append_nil, isDirectory] at upToRoot
    cases rest <;> exact upToRoot
  unfold IsSpelled
  rw [steps, isWritable_stepsBetween_iff, common, List.drop_length]
  intro name member
  cases member

/-- A directory whose name is a stray octet. -/
def strayRoot : FilePath := ⟨.root, [String.singleton Utf8.strayCharacter]⟩

end ImportBoundary.FilePath
