import ImportBoundary.Proofs.Build.Order

/-!
Contract: a transform that is repeated does nothing.

Owns that the modules of one source are consistent, namespaces and repeated imports included, and
that modules which are all registered are emitted without a write.

Two imports of a source that share a file have one normalized text. It tells the namespace, so the two
have the same members in the same source, and it tells the export statement that is made with
them. The last module of a file is therefore every module of the file.

Main statement: `transform_again`, for a build in any state and with any store.
-/

namespace ImportBoundary

variable {σ : Type}

/-! ## The modules of one source -/

section Modules

variable {source : Source} {root : FilePath} {imports : List MarkedImport}
  {boundaries : List BoundaryModule}

theorem exists_import_of_mem (built : source.boundariesOf root imports = .ok boundaries)
    {boundary : BoundaryModule} (member : boundary ∈ boundaries) :
    ∃ marked ∈ imports, source.boundaryOf root marked.parts = .ok boundary := by
  induction imports generalizing boundaries with
  | nil =>
      cases built
      cases member
  | cons marked rest inductionHypothesis =>
      obtain ⟨first, others, isFirst, remaining, rfl⟩ := boundariesOf_cons_eq_ok_iff.mp built
      rcases List.mem_cons.mp member with rfl | later
      · exact ⟨marked, List.mem_cons_self, isFirst⟩
      · obtain ⟨other, isOther, isMade⟩ := inductionHypothesis remaining later
        exact ⟨other, List.mem_cons_of_mem marked isOther, isMade⟩

/-- Unambiguous imports of one source with one normalized text have one module. -/
theorem boundaryOf_eq_of_normalized_eq {left right : MarkedImport}
    {leftStatement rightStatement : Node} (leftReads : source.Reads leftStatement left)
    (rightReads : source.Reads rightStatement right) (leftUnambiguous : left.parts.Unambiguous)
    (rightUnambiguous : right.parts.Unambiguous)
    (same : left.parts.normalized = right.parts.normalized) :
    source.boundaryOf root left.parts = source.boundaryOf root right.parts := by
  obtain ⟨namespaces, statements⟩ := ImportParts.handsOn_eq_of_normalized_eq leftUnambiguous
    rightUnambiguous leftReads.bindsNothing rightReads.bindsNothing same
  have exported : source.exportStatement left.parts = source.exportStatement right.parts := by
    unfold Source.exportStatement
    rw [namespaces, funext statements]
  unfold Source.boundaryOf ImportParts.boundaryId
  rw [exported, same]

theorem consistent_of_boundariesOf (found : source.markedImports = .ok imports)
    (unambiguous : ∀ marked ∈ imports, marked.parts.Unambiguous)
    (noCollision : NoCollision (imports.map fun marked => marked.parts.normalized))
    (built : source.boundariesOf root imports = .ok boundaries) : Consistent boundaries := by
  intro left isLeft right isRight samePath
  obtain ⟨leftMarked, isLeftImport, leftMade⟩ := exists_import_of_mem built isLeft
  obtain ⟨rightMarked, isRightImport, rightMade⟩ := exists_import_of_mem built isRight
  obtain ⟨_, _, leftRead⟩ := exists_mem_of_mem_gather found isLeftImport
  obtain ⟨_, _, rightRead⟩ := exists_mem_of_mem_gather found isRightImport
  rw [path_of_boundaryOf leftMade, path_of_boundaryOf rightMade] at samePath
  have sameText := noCollision _ (List.mem_map_of_mem isLeftImport) _
    (List.mem_map_of_mem isRightImport) (boundaryPath_injective root samePath)
  have sameModule : source.boundaryOf root leftMarked.parts =
      source.boundaryOf root rightMarked.parts := boundaryOf_eq_of_normalized_eq
    (Source.reads_of_markedImport? leftRead) (Source.reads_of_markedImport? rightRead)
    (unambiguous leftMarked isLeftImport) (unambiguous rightMarked isRightImport) sameText
  rw [leftMade, rightMade] at sameModule
  rw [Except.ok.inj sameModule]

end Modules

/-! ## Emitting again -/

theorem lastText_of_consistent {boundaries : List BoundaryModule}
    (consistent : Consistent boundaries) {boundary : BoundaryModule}
    (member : boundary ∈ boundaries) :
    lastText boundaries boundary.path = some boundary.content := by
  have sharing : boundary ∈ boundaries.filter fun other => other.path = boundary.path :=
    List.mem_filter.mpr ⟨member, decide_eq_true rfl⟩
  cases last : lastText boundaries boundary.path with
  | none =>
      have noText := List.getLast?_eq_none_iff.mp last
      exact absurd (List.map_eq_nil_iff.mp noText) (List.ne_nil_of_mem sharing)
  | some content =>
      obtain ⟨other, isSharing, rfl⟩ := List.mem_map.mp (List.mem_of_getLast? last)
      obtain ⟨isOther, samePath⟩ := List.mem_filter.mp isSharing
      rw [consistent other isOther boundary member (of_decide_eq_true samePath)]

/-- Modules that are all registered are emitted without a write. -/
theorem emitAll_of_registered {store : Store σ} {source : Source} {root : FilePath}
    {imports : List MarkedImport} {boundaries : List BoundaryModule} {build : Build σ}
    (built : source.boundariesOf root imports = .ok boundaries)
    (registered : ∀ boundary ∈ boundaries,
      build.registry.get? boundary.path = some boundary.content) :
    emitAll store root source imports build =
      .ok (source.replacements imports boundaries) build := by
  induction imports generalizing boundaries with
  | nil =>
      cases built
      rfl
  | cons marked rest inductionHypothesis =>
      obtain ⟨boundary, others, isMade, remaining, rfl⟩ := boundariesOf_cons_eq_ok_iff.mp built
      obtain ⟨isRegistered, areRegistered⟩ := List.forall_mem_cons.mp registered
      have skipped : Build.emit store boundary build = .ok false build := if_pos isRegistered
      exact emitAll_cons_eq_ok_iff.mpr ⟨boundary, false, build, _, isMade, skipped,
        inductionHypothesis remaining areRegistered, rfl⟩

/-! ## Transforming again -/

/-- A transform that has answered answers the same a second time and leaves the build as it is: its
registry, the state of its store, and with it the writes that the store has taken. -/
theorem transform_again [StrayOctets] {parser : Parser} {store : Store σ}
    {workingDirectory root : FilePath} {request : Request} {build after : Build σ}
    {answer : String}
    (unambiguous : ∀ marked ∈ request.imports parser workingDirectory, marked.parts.Unambiguous)
    (noCollision : NoCollision (request.normalizedTexts parser workingDirectory))
    (answered : request.transform parser store workingDirectory root build = .ok answer after) :
    request.transform parser store workingDirectory root after = .ok answer after := by
  obtain ⟨source, imports, isPrepared, ⟨rfl, rfl, rfl⟩ | ⟨nonempty, replacements, emitted,
    redirected⟩⟩ := transform_eq_ok_iff.mp answered
  · exact answered
  · obtain ⟨_, found, areImports⟩ := Request.of_prepared isPrepared
    obtain ⟨boundaries, built, rfl, registered⟩ := registry_of_emitAll emitted
    unfold Request.normalizedTexts at noCollision
    rw [areImports] at unambiguous noCollision
    have consistent := consistent_of_boundariesOf found unambiguous noCollision built
    -- The last module of each file is registered, and it is every module of that file.
    have allRegistered : ∀ boundary ∈ boundaries,
        after.registry.get? boundary.path = some boundary.content := by
      intro boundary member
      rw [registered, lastText_of_consistent consistent member, Option.some_or]
    exact transform_eq_ok_iff.mpr ⟨source, imports, isPrepared,
      .inr ⟨nonempty, _, emitAll_of_registered built allRegistered, redirected⟩⟩

section Examples

attribute [local instance] StrayOctets.privateUse

theorem transform_again_with_namespace :
    let here : FilePath := ⟨.root, []⟩
    let parser : Parser := fun _ _ => namespaceTree
    let request : Request := ⟨⟨.root, ["a.tsx"]⟩, namespaceText "A", none⟩
    let stale : Build Shelf := ⟨Registry.empty.put (boundaryPath here "18034ca0") "", Shelf.empty⟩
    (∀ marked ∈ request.imports parser here, marked.parts.Unambiguous) ∧
      NoCollision (request.normalizedTexts parser here) ∧
      ∃ answer after, request.transform parser Shelf.store here here stale = .ok answer after ∧
        request.transform parser Shelf.store here here after = .ok answer after := by
  intro here parser request stale
  have unambiguous : ∀ marked ∈ request.imports parser here, marked.parts.Unambiguous := by
    decide +kernel
  have noCollision : NoCollision (request.normalizedTexts parser here) := by
    decide +kernel
  obtain ⟨⟨source, imports⟩, isPrepared⟩ : ∃ found, request.prepared parser here = .ok found :=
    exists_of_isOk (by decide +kernel)
  obtain ⟨isSource, found, areImports⟩ := Request.of_prepared isPrepared
  have wellFormed : ∀ source, request.source parser here = .ok source → source.WellFormed := by
    decide +kernel
  have spelled : request.IsSpelled here here := by decide
  obtain ⟨boundaries, answer, _, answers⟩ := Request.transform_shelf isPrepared
    (wellFormed source isSource)
    (Source.nonempty_of_quoted found fun marked isImport =>
      (unambiguous marked (areImports ▸ isImport)).quoted) (.inr spelled)
  exact ⟨unambiguous, noCollision, answer, _, answers stale,
    transform_again unambiguous noCollision (answers stale)⟩

end Examples

end ImportBoundary
