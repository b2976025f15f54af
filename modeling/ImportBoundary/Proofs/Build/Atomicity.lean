import ImportBoundary.Proofs.Boundary.Naming
import ImportBoundary.Proofs.Build.Coherence
import ImportBoundary.Proofs.Build.Requests

/-!
Contract: a transform is all or nothing.

Owns where two builds in memory differ, and what a transform that answers leaves behind: each of its
files holds the module of the last import with the id of the file, and nothing else has changed.

Scanning and the check for faults come before the first module is written. What comes later, making
modules and redirecting imports, reads texts of a well-formed source and cannot fail there. A
transform that fails has therefore written nothing, but for one reason to fail: the specifiers are
written last, and one that holds a stray octet fails with all modules in the store.

Main statement: `all_or_nothing_after`.
-/

namespace ImportBoundary

namespace Build

/-! ## What is kept in memory -/

/-- What is registered is kept in memory. -/
def Keeps (build : Build Shelf) : Prop :=
  Mirrored Shelf.get? (fun _ => True) build.registry build.store

theorem preserves_keeps (path : FilePath) (content : String) :
    (writeIfChanged Shelf.store path content).Preserves Keeps := by
  intro build keeps
  rcases writeIfChanged_cases Shelf.store path content build with
    ⟨_, skipped⟩ | ⟨_, written, _, taken⟩ | ⟨_, failure, written, refused, _⟩
  · rw [Action.stateAfter, skipped]
    exact keeps
  · rw [Action.stateAfter, taken]
    exact mirrored_of_write Shelf.store_faithful trivial taken keeps
  · cases refused

/-! ## Where builds differ -/

/-- Two builds in memory, the second of which comes later, differ at the given paths only. -/
structure ChangedAt (paths : List FilePath) (build after : Build Shelf) : Prop where
  registered_eq : ∀ path ∉ paths, after.registry.get? path = build.registry.get? path
  kept_eq : ∀ path ∉ paths, after.store.get? path = build.store.get? path
  written : ∃ added, after.store.writes = build.store.writes ++ added ∧ ∀ path ∈ added, path ∈ paths

theorem changedAt_refl (build : Build Shelf) : ChangedAt [] build build :=
  ⟨fun _ _ => rfl, fun _ _ => rfl, [], (List.append_nil _).symm, fun _ none => by cases none⟩

theorem ChangedAt.trans {first second : List FilePath} {build middle after : Build Shelf}
    (early : ChangedAt first build middle) (late : ChangedAt second middle after) :
    ChangedAt (first ++ second) build after := by
  constructor
  · intro path unnamed
    obtain ⟨notFirst, notSecond⟩ := not_or.mp (List.mem_append.not.mp unnamed)
    exact (late.registered_eq path notSecond).trans (early.registered_eq path notFirst)
  · intro path unnamed
    obtain ⟨notFirst, notSecond⟩ := not_or.mp (List.mem_append.not.mp unnamed)
    exact (late.kept_eq path notSecond).trans (early.kept_eq path notFirst)
  · obtain ⟨firstAdded, firstWrites, firstNamed⟩ := early.written
    obtain ⟨secondAdded, secondWrites, secondNamed⟩ := late.written
    refine ⟨firstAdded ++ secondAdded, ?_, ?_⟩
    · rw [secondWrites, firstWrites, List.append_assoc]
    · intro path isAdded
      rcases List.mem_append.mp isAdded with isFirst | isSecond
      · exact List.mem_append_left second (firstNamed path isFirst)
      · exact List.mem_append_right first (secondNamed path isSecond)

/-- One emission changes nothing but the file of its module. -/
theorem changedAt_emit (boundary : BoundaryModule) (build : Build Shelf) :
    ChangedAt [boundary.path] build ((emit Shelf.store boundary).stateAfter build) := by
  rcases writeIfChanged_cases Shelf.store boundary.path boundary.content build with
    ⟨_, skipped⟩ | ⟨_, state, written, taken⟩ | ⟨_, failure, state, refused, _⟩
  · have unchanged : (emit Shelf.store boundary).stateAfter build = build := by
      rw [Action.stateAfter, emit, skipped]
    rw [unchanged]
    exact ⟨fun _ _ => rfl, fun _ _ => rfl, [], (List.append_nil _).symm, fun _ none => by cases none⟩
  · cases written
    rw [Action.stateAfter, emit, taken]
    constructor
    · intro path unnamed
      exact Registry.get?_put_of_ne build.registry (fun same => unnamed (by simp [same])) _
    · intro path unnamed
      exact Registry.get?_put_of_ne build.store.modules (fun same => unnamed (by simp [same])) _
    · exact ⟨[boundary.path], rfl, fun path isAdded => isAdded⟩
  · cases refused

theorem changedAt_shelved (boundaries : List BoundaryModule) (build : Build Shelf) :
    ChangedAt (boundaries.map BoundaryModule.path) build (build.shelved boundaries) := by
  induction boundaries generalizing build with
  | nil => exact changedAt_refl build
  | cons boundary rest inductionHypothesis =>
      exact (changedAt_emit boundary build).trans (inductionHypothesis _)

end Build

/-! ## What an emission leaves behind -/

/-- The last of some imports whose module has an id. -/
def lastWithId (imports : List MarkedImport) (id : String) : Option MarkedImport :=
  imports.findRev? fun marked => marked.parts.boundaryId = id

/-- The files of the modules of some imports. -/
def filesOf (root : FilePath) (imports : List MarkedImport) : List FilePath :=
  imports.map fun marked => boundaryPath root marked.parts.boundaryId

/-- What a build in memory holds once the imports of a source are emitted: the file of every import
holds the module of the last one with its id, and nothing else has changed. -/
structure Emitted (source : Source) (root : FilePath) (imports : List MarkedImport)
    (build after : Build Shelf) : Prop where
  held : ∀ marked ∈ imports, ∃ last boundary,
    lastWithId imports marked.parts.boundaryId = some last ∧
      source.boundaryOf root last.parts = .ok boundary ∧
      after.store.get? (boundaryPath root marked.parts.boundaryId) = some boundary.content
  changed : Build.ChangedAt (filesOf root imports) build after

section Emission

variable {source : Source} {root : FilePath} {imports : List MarkedImport}
  {boundaries : List BoundaryModule}

theorem map_path_eq_filesOf (built : source.boundariesOf root imports = .ok boundaries) :
    boundaries.map BoundaryModule.path = filesOf root imports := by
  have areMade := forall₂_of_boundariesOf built
  clear built
  induction areMade with
  | nil => rfl
  | cons isMade _ inductionHypothesis =>
      rw [List.map_cons, inductionHypothesis, path_of_boundaryOf isMade]
      rfl

/-- A build that keeps what it has registered keeps the last module of every id. -/
theorem emitted_shelved (built : source.boundariesOf root imports = .ok boundaries)
    {build : Build Shelf} (keeps : build.Keeps) :
    Emitted source root imports build (build.shelved boundaries) := by
  have emits := emitAll_shelf built build
  have stillKeeps : (build.shelved boundaries).Keeps := by
    have preserved := preserves_emitAll Build.preserves_keeps root source imports build keeps
    rw [Action.stateAfter, emits] at preserved
    exact preserved
  obtain ⟨others, alsoBuilt, _, registered⟩ := registry_of_emitAll emits
  rw [built] at alsoBuilt
  obtain rfl := Except.ok.inj alsoBuilt
  constructor
  · intro marked isImport
    have selects_iff : ∀ other ∈ imports, ∀ boundary,
        source.boundaryOf root other.parts = .ok boundary →
          (boundaryPath root marked.parts.boundaryId = boundary.path ↔
            decide (other.parts.boundaryId = marked.parts.boundaryId) = true) := by
      intro other _ boundary isMade
      rw [path_of_boundaryOf isMade, decide_eq_true_iff]
      constructor
      · intro samePath
        exact (boundaryPath_injective root samePath).symm
      · intro sameId
        rw [sameId]
    rcases lastText_of_forall₂ (forall₂_of_boundariesOf built) selects_iff with
      ⟨noLast, _⟩ | ⟨last, boundary, isLast, isMade, isText⟩
    · rw [List.findRev?_eq_find?_reverse] at noLast
      have differs := List.find?_eq_none.mp noLast marked (List.mem_reverse.mpr isImport)
      exact absurd (decide_eq_true rfl) differs
    · refine ⟨last, boundary, isLast, isMade, ?_⟩
      apply stillKeeps _ _ _ trivial
      rw [registered, isText, Option.some_or]
  · rw [← map_path_eq_filesOf built]
    exact Build.changedAt_shelved boundaries build

end Emission

/-! ## All or nothing -/

/-- A transform fails and leaves the build as it was, or answers and has emitted the imports of its
source; it fails if anything is marked in a source that is not clean. -/
structure Request.AllOrNothing [StrayOctets] (request : Request) (parser : Parser)
    (workingDirectory root : FilePath) (build : Build Shelf) : Prop where
  outcome :
    (∃ failure, request.transform parser Shelf.store workingDirectory root build =
      .error failure build) ∨
    ∃ answer after source imports,
      request.transform parser Shelf.store workingDirectory root build = .ok answer after ∧
      request.source parser workingDirectory = .ok source ∧
      source.markedImports = .ok imports ∧
      Emitted source (root.absolute workingDirectory) imports build after
  faulty : ∀ source, request.source parser workingDirectory = .ok source →
    source.syntaxFaults ≠ [] → source.markedImports ≠ .ok [] →
    ∃ failure, request.transform parser Shelf.store workingDirectory root build =
      .error failure build

/-- A transform has emitted the imports of its source, and fails all the same. -/
def Request.LeavesModules [StrayOctets] (request : Request) (parser : Parser)
    (workingDirectory root : FilePath) (source : Source) (imports : List MarkedImport)
    (build : Build Shelf) : Prop :=
  ∃ fault after,
    request.transform parser Shelf.store workingDirectory root build =
      .error (.unwritable fault) after ∧
    Emitted source (root.absolute workingDirectory) imports build after

section AllOrNothing

variable {request : Request} {parser : Parser} {workingDirectory : FilePath}

/-- A source that is not clean is not prepared if anything is marked in it. -/
theorem Request.exists_failure_of_faults {source : Source}
    (isSource : request.source parser workingDirectory = .ok source)
    (faulty : source.syntaxFaults ≠ []) (isMarked : source.markedImports ≠ .ok []) :
    ∃ failure, request.prepared parser workingDirectory = .error failure := by
  cases isPrepared : request.prepared parser workingDirectory with
  | error failure => exact ⟨failure, rfl⟩
  | ok pair =>
      obtain ⟨other, imports⟩ := pair
      obtain ⟨isOther, found, _⟩ := of_prepared isPrepared
      rw [isSource] at isOther
      obtain rfl := Except.ok.inj isOther
      have nonempty : imports ≠ [] := by
        rintro rfl
        exact isMarked found
      have clean := ensureClean_of_prepare isPrepared nonempty
      unfold Source.ensureClean at clean
      split at clean
      · exact absurd ‹source.syntaxFaults = []› faulty
      · cases clean

/-- Whatever a build in memory has done before, a transform of a well-formed source is all or
nothing, as long as it redirects nothing or the project root can be spelled from its file. Where
neither holds, it fails once all of its modules are written. -/
theorem all_or_nothing_after [StrayOctets] (parser : Parser) (calls : List Build.Call)
    (root : FilePath)
    (wellFormed : ∀ source, request.source parser workingDirectory = .ok source →
      source.WellFormed)
    (literals : ∀ source, request.source parser workingDirectory = .ok source →
      source.LiteralsWritten) :
    let build := (Build.fresh Shelf.empty).after parser Shelf.store calls
    (request.Spellable parser workingDirectory root →
      request.AllOrNothing parser workingDirectory root build) ∧
    ∀ source imports, request.prepared parser workingDirectory = .ok (source, imports) →
      imports ≠ [] → ¬ request.IsSpelled workingDirectory root →
        request.LeavesModules parser workingDirectory root source imports build := by
  intro build
  have keeps : build.Keeps :=
    Build.after_of_preserves Build.preserves_keeps parser calls (Mirrored.empty _ _ _)
  generalize build = build at keeps
  constructor
  · intro spellable
    constructor
    · cases isPrepared : request.prepared parser workingDirectory with
      | error failure => exact .inl ⟨failure, Request.transform_of_failure isPrepared build⟩
      | ok pair =>
          -- Nothing is written yet, and from here on nothing fails.
          right
          obtain ⟨source, imports⟩ := pair
          obtain ⟨isSource, found, _⟩ := Request.of_prepared isPrepared
          have nonempty : ∀ marked ∈ imports, marked.sourceNode.start < marked.sourceNode.stop := by
            intro marked isImport
            have clean := ensureClean_of_prepare isPrepared (List.ne_nil_of_mem isImport)
            exact Source.nonempty_of_literals (literals source isSource) clean found marked isImport
          obtain ⟨boundaries, answer, built, answers⟩ :=
            Request.transform_shelf isPrepared (wellFormed source isSource) nonempty
              (spellable source imports isPrepared)
          exact ⟨answer, _, source, imports, answers build, isSource, found,
            emitted_shelved built keeps⟩
    · intro source isSource faulty isMarked
      obtain ⟨failure, failed⟩ := Request.exists_failure_of_faults isSource faulty isMarked
      exact ⟨failure, Request.transform_of_failure failed build⟩
  · intro source imports isPrepared marks unspelled
    obtain ⟨isSource, _⟩ := Request.of_prepared isPrepared
    obtain ⟨boundaries, fault, built, fails⟩ :=
      Request.transform_unspelled isPrepared (wellFormed source isSource) marks unspelled
    exact ⟨fault, _, fails build, emitted_shelved built keeps⟩

end AllOrNothing

/-! ## Files of which one is faulty, and a root that cannot be spelled -/

/-- A file with a marked import, followed by what is no statement. -/
def faultyText : String := namespaceText "A" ++ "#"

/-- The trees of such a file without its last character and with it. -/
def faultyParser : Parser := fun _ octets =>
  if octets.length = 56 then namespaceTree
  else
    { namespaceTree with
      stop := 57
      children := namespaceTree.children ++ [⟨"ERROR", 56, 57, true, false, none, []⟩] }

section Examples

attribute [local instance] StrayOctets.privateUse

theorem all_or_nothing_after_write :
    let here : FilePath := ⟨.root, []⟩
    let clean : Request := ⟨⟨.root, ["a.tsx"]⟩, namespaceText "A", none⟩
    let faulty : Request := ⟨⟨.root, ["a.tsx"]⟩, faultyText, none⟩
    let build := (Build.fresh Shelf.empty).after faultyParser Shelf.store
      [.write (boundaryPath here "18034ca0") "stale"]
    clean.AllOrNothing faultyParser here here build ∧
      ∃ failure, faulty.transform faultyParser Shelf.store here here build =
        .error failure build := by
  intro here clean faulty build
  have faultySource : ∃ source, faulty.source faultyParser here = .ok source :=
    exists_of_isOk (by decide +kernel)
  obtain ⟨source, isSource⟩ := faultySource
  have spelled : ∀ request ∈ [clean, faulty], request.IsSpelled here here := by decide
  constructor
  · apply (all_or_nothing_after faultyParser [.write (boundaryPath here "18034ca0") "stale"] here
      ?_ ?_).1
    · exact Request.spellable_of_isSpelled (spelled clean (by simp)) faultyParser
    · decide +kernel
    · decide +kernel
  · have spellable := Request.spellable_of_isSpelled (spelled faulty (by simp)) faultyParser
    refine ((all_or_nothing_after faultyParser [.write (boundaryPath here "18034ca0") "stale"] here
      ?_ ?_).1 spellable).faulty source isSource ?_ ?_
    · decide +kernel
    · decide +kernel
    · have faults : ∀ source, faulty.source faultyParser here = .ok source →
          0 < source.syntaxFaults.length := by
        decide +kernel
      exact List.ne_nil_of_length_pos (faults source isSource)
    · have marks : ∀ source, faulty.source faultyParser here = .ok source →
          (source.markedImports.map List.length).toOption = some 1 := by
        decide +kernel
      intro unmarked
      have counted := marks source isSource
      rw [unmarked] at counted
      cases counted

/-- Beside a project root whose name is no text, the transform of a well-formed file fails, and its
module stays. -/
theorem module_left_by_failure :
    let here : FilePath := ⟨.root, []⟩
    let clean : Request := ⟨⟨.root, ["a.tsx"]⟩, namespaceText "A", none⟩
    let path := boundaryPath FilePath.strayRoot "18034ca0"
    (∀ source, clean.source faultyParser here = .ok source →
      source.WellFormed ∧ source.LiteralsWritten) ∧
      ∃ after, clean.transform faultyParser Shelf.store here FilePath.strayRoot
          (Build.fresh Shelf.empty) = .error (.unwritable ⟨0xff, 3, 3⟩) after ∧
        after.store.writes = [path] ∧ (after.registry.get? path).isSome = true ∧
        (after.store.get? path).isSome = true := by
  intro here clean path
  refine ⟨by decide +kernel, ?_⟩
  let after := (clean.transform faultyParser Shelf.store here FilePath.strayRoot).stateAfter
    (Build.fresh Shelf.empty)
  have failed : (clean.transform faultyParser Shelf.store here FilePath.strayRoot).answer
      (Build.fresh Shelf.empty) = .error (.unwritable ⟨0xff, 3, 3⟩) := by
    decide +kernel
  have left : after.store.writes = [path] ∧ (after.registry.get? path).isSome = true ∧
      (after.store.get? path).isSome = true := by
    decide +kernel
  exact ⟨after, Action.eq_error_of_answer failed, left⟩

end Examples

end ImportBoundary
