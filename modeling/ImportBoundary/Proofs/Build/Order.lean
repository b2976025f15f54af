import ImportBoundary.Proofs.Boundary.Naming
import ImportBoundary.Proofs.Build.Requests
import Mathlib.Data.List.Dedup

/-!
Contract: requests served in any order by one build in memory.

Owns regular requests, and the invariant of memory builds that emit consistent modules: registry and
shelf hold the same texts, and every path is written once.

Regular imports without a namespace have modules that depend on their normalized texts only. A
regular request therefore answers the same in every build and writes the same modules. One that fails
writes nothing, unless it has imports to redirect and the project root cannot be spelled from its
file: otherwise they are redirected without failure once its source has parsed cleanly.

Main statement: `served_in_any_order`.
-/

namespace ImportBoundary

/-- The answer to a request by a build that has written nothing yet. -/
def Request.answerAlone [StrayOctets] (request : Request) (parser : Parser)
    (workingDirectory root : FilePath) : Except Failure String :=
  (request.transform parser Shelf.store workingDirectory root).answer (Build.fresh Shelf.empty)

/-- The answers and the build of some requests that are the first ones. -/
def served [StrayOctets] (parser : Parser) (workingDirectory root : FilePath)
    (requests : List Request) : List (Except Failure String) × Build Shelf :=
  (Build.fresh Shelf.empty).serve parser Shelf.store workingDirectory root requests

/-! ## Regular imports -/

/-- An import without a namespace, with plain names and a quoted source, that imports types only if
it has a clause. -/
structure ImportParts.Regular (parts : ImportParts) : Prop where
  noNamespace : nonEmpty parts.namespaceName = none
  plain : parts.Plain
  quoted : Text.BeginsWithQuote parts.source
  typesInClause : parts.typeOnly = true → parts.hasClause = true

instance (parts : ImportParts) : Decidable parts.Regular :=
  decidable_of_iff (nonEmpty parts.namespaceName = none ∧ parts.Plain ∧
      Text.BeginsWithQuote parts.source ∧ (parts.typeOnly = true → parts.hasClause = true))
    ⟨fun ⟨noNamespace, plain, quoted, typesInClause⟩ => ⟨noNamespace, plain, quoted, typesInClause⟩,
      fun regular => ⟨regular.noNamespace, regular.plain, regular.quoted, regular.typesInClause⟩⟩

theorem ImportParts.Regular.unambiguous {parts : ImportParts} (regular : parts.Regular) :
    parts.Unambiguous :=
  ⟨regular.plain, regular.quoted, regular.typesInClause⟩

/-- The module of an import without a namespace. -/
def ImportParts.boundary (parts : ImportParts) (root : FilePath) : BoundaryModule :=
  ⟨parts.boundaryId, boundaryPath root parts.boundaryId, parts.exportStatement [], clientDirective⟩

theorem path_boundary (parts : ImportParts) (root : FilePath) :
    (parts.boundary root).path = boundaryPath root (boundaryId parts.normalized) := by
  simp only [ImportParts.boundary, ImportParts.boundaryId]

theorem boundaryOf_of_noNamespace {parts : ImportParts}
    (noNamespace : nonEmpty parts.namespaceName = none) (source : Source) (root : FilePath) :
    source.boundaryOf root parts = .ok (parts.boundary root) := by
  rw [Source.boundaryOf, Source.exportStatement, noNamespace]
  rfl

theorem boundariesOf_of_noNamespace {imports : List MarkedImport}
    (noNamespaces : ∀ marked ∈ imports, nonEmpty marked.parts.namespaceName = none)
    (source : Source) (root : FilePath) :
    source.boundariesOf root imports =
      .ok (imports.map fun marked => marked.parts.boundary root) := by
  induction imports with
  | nil => rfl
  | cons marked rest inductionHypothesis =>
      have first := boundaryOf_of_noNamespace (noNamespaces marked List.mem_cons_self) source root
      have remaining := inductionHypothesis fun other member =>
        noNamespaces other (List.mem_cons_of_mem marked member)
      exact boundariesOf_cons_eq_ok_iff.mpr ⟨_, _, first, remaining, rfl⟩

/-- The module of a regular import depends on its normalized text only. -/
theorem boundary_eq_of_normalized_eq {left right : MarkedImport} {leftSource rightSource : Source}
    {leftStatement rightStatement : Node} (leftReads : leftSource.Reads leftStatement left)
    (rightReads : rightSource.Reads rightStatement right) (leftRegular : left.parts.Regular)
    (rightRegular : right.parts.Regular) (root : FilePath)
    (same : left.parts.normalized = right.parts.normalized) :
    left.parts.boundary root = right.parts.boundary root := by
  have statements : left.parts.exportStatement [] = right.parts.exportStatement [] :=
    (ImportParts.handsOn_eq_of_normalized_eq leftRegular.unambiguous rightRegular.unambiguous
      leftReads.bindsNothing rightReads.bindsNothing same).2 []
  unfold ImportParts.boundary ImportParts.boundaryId
  rw [same, statements]

/-! ## Consistent modules -/

/-- Modules that share a file have one text. -/
def Consistent (modules : List BoundaryModule) : Prop :=
  ∀ left ∈ modules, ∀ right ∈ modules, left.path = right.path → left.content = right.content

namespace Build

/-- What a build in memory has done about some modules: each is registered and kept, and each of
their files is written once. -/
structure Tidy (modules : List BoundaryModule) (build : Build Shelf) : Prop where
  registered_iff : ∀ path content, build.registry.get? path = some content ↔
    ∃ boundary ∈ modules, boundary.path = path ∧ boundary.content = content
  kept_eq : ∀ path, build.store.get? path = build.registry.get? path
  writes_nodup : build.store.writes.Nodup
  mem_writes_iff : ∀ path, path ∈ build.store.writes ↔ ∃ boundary ∈ modules, boundary.path = path

theorem tidy_fresh : (fresh Shelf.empty).Tidy [] where
  registered_iff path content := by simp [fresh, Registry.empty, Registry.get?]
  kept_eq path := rfl
  writes_nodup := List.nodup_nil
  mem_writes_iff path := by simp [fresh, Shelf.empty]

/-- One more module is registered, and its file is written unless an earlier module has written
it. -/
theorem tidy_emit {done : List BoundaryModule} {boundary : BoundaryModule} {build : Build Shelf}
    (consistent : Consistent (done ++ [boundary])) (tidy : build.Tidy done) :
    ((emit Shelf.store boundary).stateAfter build).Tidy (done ++ [boundary]) := by
  have isLast : boundary ∈ done ++ [boundary] :=
    List.mem_append_right done (List.mem_singleton_self boundary)
  have exists_append : ∀ property : BoundaryModule → Prop,
      (∃ other ∈ done ++ [boundary], property other) ↔
        (∃ other ∈ done, property other) ∨ property boundary := by
    intro property
    simp only [List.mem_append, List.mem_singleton, or_and_right, exists_or, exists_eq_left]
  rcases writeIfChanged_cases Shelf.store boundary.path boundary.content build with
    ⟨known, skipped⟩ | ⟨unknown, state, written, taken⟩ | ⟨_, failure, state, refused, _⟩
  · have unchanged : (emit Shelf.store boundary).stateAfter build = build := by
      rw [Action.stateAfter, emit, skipped]
    rw [unchanged]
    obtain ⟨earlier, isEarlier, samePath, _⟩ :=
      (tidy.registered_iff boundary.path boundary.content).mp known
    constructor
    · intro path content
      rw [tidy.registered_iff path content, exists_append, iff_self_or]
      rintro ⟨rfl, rfl⟩
      exact (tidy.registered_iff _ _).mp known
    · exact tidy.kept_eq
    · exact tidy.writes_nodup
    · intro path
      rw [tidy.mem_writes_iff path, exists_append, iff_self_or]
      rintro rfl
      exact ⟨earlier, isEarlier, samePath⟩
  · -- Consistent modules of one path have one text, so an unknown text means a new path.
    have isNew : ∀ other ∈ done, other.path ≠ boundary.path := by
      intro other isOther samePath
      have sameText := consistent other (List.mem_append_left _ isOther) boundary isLast samePath
      exact unknown ((tidy.registered_iff _ _).mpr ⟨other, isOther, samePath, sameText⟩)
    have isPut : state = build.store.put boundary.path boundary.content := by
      cases written
      rfl
    have after : (emit Shelf.store boundary).stateAfter build =
        ⟨build.registry.put boundary.path boundary.content,
          build.store.put boundary.path boundary.content⟩ := by
      rw [Action.stateAfter, emit, taken, isPut]
    rw [after]
    constructor
    · intro path content
      rw [Registry.get?_put, exists_append]
      by_cases same : path = boundary.path
      · rw [if_pos same, Option.some.injEq]
        constructor
        · rintro rfl
          exact .inr ⟨same.symm, rfl⟩
        · rintro (⟨other, isOther, samePath, _⟩ | ⟨_, sameText⟩)
          · exact absurd (samePath.trans same) (isNew other isOther)
          · exact sameText
      · rw [if_neg same, tidy.registered_iff path content, iff_self_or]
        rintro ⟨samePath, _⟩
        exact absurd samePath.symm same
    · intro path
      have kept : (build.store.put boundary.path boundary.content).get? path =
          if path = boundary.path then some boundary.content else build.store.get? path :=
        Registry.get?_put build.store.modules boundary.path path boundary.content
      rw [kept, Registry.get?_put, tidy.kept_eq path]
    · have unwritten : boundary.path ∉ build.store.writes := by
        rw [tidy.mem_writes_iff]
        rintro ⟨other, isOther, samePath⟩
        exact isNew other isOther samePath
      exact List.nodup_append.mpr ⟨tidy.writes_nodup, List.nodup_singleton _,
        fun path isWritten other isOther samePath =>
          unwritten (List.mem_singleton.mp isOther ▸ samePath ▸ isWritten)⟩
    · intro path
      have writes : (build.store.put boundary.path boundary.content).writes =
          build.store.writes ++ [boundary.path] := rfl
      rw [writes, List.mem_append, List.mem_singleton, tidy.mem_writes_iff path, exists_append,
        eq_comm]
  · cases refused

theorem tidy_shelved {done modules : List BoundaryModule} {build : Build Shelf}
    (consistent : Consistent (done ++ modules)) (tidy : build.Tidy done) :
    (build.shelved modules).Tidy (done ++ modules) := by
  induction modules generalizing done build with
  | nil =>
      rw [List.append_nil]
      exact tidy
  | cons boundary rest inductionHypothesis =>
      rw [List.append_cons] at consistent ⊢
      apply inductionHypothesis consistent
      apply tidy_emit _ tidy
      intro left isLeft right isRight
      exact consistent left (List.mem_append_left rest isLeft) right
        (List.mem_append_left rest isRight)

end Build

/-! ## Regular requests -/

namespace Request

/-- A request whose tree is well formed and whose marked imports are regular. -/
structure Regular (request : Request) (parser : Parser) (workingDirectory : FilePath) : Prop where
  wellFormed : ∀ source, request.source parser workingDirectory = .ok source → source.WellFormed
  imports : ∀ marked ∈ request.imports parser workingDirectory, marked.parts.Regular

instance (request : Request) (parser : Parser) (workingDirectory : FilePath) :
    Decidable (request.Regular parser workingDirectory) :=
  let sourceOf := (request.source parser workingDirectory).toOption
  have sourceOf_eq (source : Source) :
      source ∈ sourceOf ↔ request.source parser workingDirectory = .ok source := by
    cases parsed : request.source parser workingDirectory <;>
      simp [sourceOf, parsed, Except.toOption]
  decidable_of_iff ((∀ source ∈ sourceOf, source.WellFormed) ∧
      ∀ marked ∈ request.imports parser workingDirectory, marked.parts.Regular)
    ⟨fun ⟨wellFormed, imports⟩ =>
        ⟨fun source parsed => wellFormed source ((sourceOf_eq source).mpr parsed), imports⟩,
      fun regular =>
        ⟨fun source parsed => regular.wellFormed source ((sourceOf_eq source).mp parsed),
          regular.imports⟩⟩

/-- The modules that a regular request writes. -/
def modules (request : Request) (parser : Parser) (workingDirectory root : FilePath) :
    List BoundaryModule :=
  match request.prepared parser workingDirectory with
  | .ok (_, imports) =>
      imports.map fun marked => marked.parts.boundary (root.absolute workingDirectory)
  | .error _ => []

variable {request : Request} {parser : Parser} {workingDirectory root : FilePath}

theorem exists_import_of_mem_modules {boundary : BoundaryModule}
    (member : boundary ∈ request.modules parser workingDirectory root) :
    ∃ marked ∈ request.imports parser workingDirectory,
      marked.parts.boundary (root.absolute workingDirectory) = boundary := by
  unfold Request.modules at member
  split at member
  · rename_i source imports isPrepared
    rw [(of_prepared isPrepared).2.2]
    exact List.mem_map.mp member
  · cases member

variable [StrayOctets]

/-- A regular request is answered alike by every build in memory, which it leaves with its modules
emitted. If what it redirects can be spelled, it has modules only if the answer is a text. -/
private theorem exists_answer (regular : request.Regular parser workingDirectory)
    (root : FilePath) :
    ∃ answer : Except Failure String,
      (∀ build, (request.transform parser Shelf.store workingDirectory root).answer build = answer ∧
        (request.transform parser Shelf.store workingDirectory root).stateAfter build =
          build.shelved (request.modules parser workingDirectory root)) ∧
      (request.Spellable parser workingDirectory root →
        (answer.isOk = true ↔ ∃ found, request.prepared parser workingDirectory = .ok found)) := by
  unfold Request.modules
  cases isPrepared : request.prepared parser workingDirectory with
  | error failure =>
      refine ⟨.error failure, ?_, by simp [Except.isOk, Except.toBool]⟩
      intro build
      rw [Action.answer, Action.stateAfter, transform_of_failure isPrepared]
      exact ⟨rfl, rfl⟩
  | ok pair =>
      obtain ⟨source, imports⟩ := pair
      obtain ⟨isSource, found, isImports⟩ := of_prepared isPrepared
      have areRegular : ∀ marked ∈ imports, marked.parts.Regular := by
        rw [← isImports]
        exact regular.imports
      have built := boundariesOf_of_noNamespace (fun marked member =>
        (areRegular marked member).noNamespace) source (root.absolute workingDirectory)
      have wellFormed := regular.wellFormed source isSource
      have nonempty := Source.nonempty_of_quoted found fun marked member =>
        (areRegular marked member).quoted
      -- The modules of a clean source are written in any case; the answer depends on its specifiers.
      by_cases spelled : imports = [] ∨ request.IsSpelled workingDirectory root
      · obtain ⟨boundaries, text, alsoBuilt, answers⟩ :=
          transform_shelf isPrepared wellFormed nonempty spelled
        rw [built] at alsoBuilt
        obtain rfl := Except.ok.inj alsoBuilt
        refine ⟨.ok text, ?_, by simp [Except.isOk, Except.toBool]⟩
        intro build
        rw [Action.answer, Action.stateAfter, answers]
        exact ⟨rfl, rfl⟩
      · obtain ⟨marks, unspelled⟩ := not_or.mp spelled
        obtain ⟨boundaries, fault, alsoBuilt, fails⟩ :=
          transform_unspelled isPrepared wellFormed marks unspelled
        rw [built] at alsoBuilt
        obtain rfl := Except.ok.inj alsoBuilt
        refine ⟨.error (.unwritable fault), ?_, fun spellable =>
          absurd (spellable source imports isPrepared) spelled⟩
        intro build
        rw [Action.answer, Action.stateAfter, fails]
        exact ⟨rfl, rfl⟩

theorem answer_eq (regular : request.Regular parser workingDirectory) (root : FilePath)
    (build : Build Shelf) :
    (request.transform parser Shelf.store workingDirectory root).answer build =
      request.answerAlone parser workingDirectory root := by
  obtain ⟨answer, alike, _⟩ := exists_answer regular root
  rw [Request.answerAlone, (alike build).1, (alike (Build.fresh Shelf.empty)).1]

theorem stateAfter_eq (regular : request.Regular parser workingDirectory) (root : FilePath)
    (build : Build Shelf) :
    (request.transform parser Shelf.store workingDirectory root).stateAfter build =
      build.shelved (request.modules parser workingDirectory root) := by
  obtain ⟨answer, alike, _⟩ := exists_answer regular root
  exact (alike build).2

/-- A regular request whose redirected imports can be spelled writes the modules of all its imports if
it is answered with a text, and none otherwise. -/
theorem mem_modules_iff (regular : request.Regular parser workingDirectory)
    (spellable : request.Spellable parser workingDirectory root) {boundary : BoundaryModule} :
    boundary ∈ request.modules parser workingDirectory root ↔
      (request.answerAlone parser workingDirectory root).isOk = true ∧
        ∃ marked ∈ request.imports parser workingDirectory,
          marked.parts.boundary (root.absolute workingDirectory) = boundary := by
  obtain ⟨answer, alike, isOk_iff⟩ := exists_answer regular root
  rw [Request.answerAlone, (alike (Build.fresh Shelf.empty)).1, isOk_iff spellable, Request.modules]
  cases isPrepared : request.prepared parser workingDirectory with
  | error failure => simp
  | ok pair =>
      rw [(of_prepared isPrepared).2.2]
      simp

end Request

/-! ## Any order -/

section Order

variable {parser : Parser} {workingDirectory root : FilePath} {requests order : List Request}

/-- The modules of some requests in order. -/
def modulesOf (parser : Parser) (workingDirectory root : FilePath) (requests : List Request) :
    List BoundaryModule :=
  requests.flatMap fun request => request.modules parser workingDirectory root

theorem serve_eq [StrayOctets]
    (regular : ∀ request ∈ requests, request.Regular parser workingDirectory)
    (root : FilePath) (build : Build Shelf) :
    build.serve parser Shelf.store workingDirectory root requests =
      (requests.map fun request => request.answerAlone parser workingDirectory root,
        build.shelved (modulesOf parser workingDirectory root requests)) := by
  induction requests generalizing build with
  | nil => rfl
  | cons request rest inductionHypothesis =>
      have first := regular request List.mem_cons_self
      have remaining := inductionHypothesis fun other member =>
        regular other (List.mem_cons_of_mem request member)
      unfold Build.serve
      dsimp only
      rw [Request.answer_eq first, Request.stateAfter_eq first, remaining, List.map_cons]
      simp only [modulesOf, List.flatMap_cons, Build.shelved, List.foldl_append]

theorem consistent_modulesOf
    (regular : ∀ request ∈ requests, request.Regular parser workingDirectory)
    (noCollision : NoCollision (requests.flatMap fun request =>
      request.normalizedTexts parser workingDirectory)) :
    Consistent (modulesOf parser workingDirectory root requests) := by
  have origin : ∀ boundary ∈ modulesOf parser workingDirectory root requests,
      ∃ (marked : MarkedImport) (source : Source) (statement : Node),
        source.Reads statement marked ∧ marked.parts.Regular ∧
          marked.parts.normalized ∈ (requests.flatMap fun request =>
            request.normalizedTexts parser workingDirectory) ∧
          boundary = marked.parts.boundary (root.absolute workingDirectory) := by
    intro boundary member
    obtain ⟨request, isRequest, isModule⟩ := List.mem_flatMap.mp member
    obtain ⟨marked, isImport, rfl⟩ := Request.exists_import_of_mem_modules isModule
    have isText : marked.parts.normalized ∈ request.normalizedTexts parser workingDirectory :=
      List.mem_map_of_mem isImport
    have isRegular := (regular request isRequest).imports marked isImport
    obtain ⟨source, statement, _, reads⟩ := Request.exists_reads isImport
    exact ⟨marked, source, statement, reads, isRegular,
      List.mem_flatMap.mpr ⟨request, isRequest, isText⟩, rfl⟩
  intro left isLeft right isRight samePath
  obtain ⟨leftMarked, _, _, leftReads, leftRegular, leftText, rfl⟩ := origin left isLeft
  obtain ⟨rightMarked, _, _, rightReads, rightRegular, rightText, rfl⟩ := origin right isRight
  rw [path_boundary, path_boundary] at samePath
  have sameId := boundaryPath_injective _ samePath
  have sameText := noCollision _ leftText _ rightText sameId
  rw [boundary_eq_of_normalized_eq leftReads rightReads leftRegular rightRegular _ sameText]

/-- Files that are named after texts without collision are as many as the texts. -/
private theorem length_eq_of_files {root : FilePath} {files : List FilePath} {texts : List String}
    (nodup : files.Nodup)
    (mem_iff : ∀ path, path ∈ files ↔ ∃ text ∈ texts, boundaryPath root (boundaryId text) = path)
    (noCollision : NoCollision texts) : files.length = texts.dedup.length := by
  have named : (texts.dedup.map fun text => boundaryPath root (boundaryId text)).Nodup := by
    apply List.Nodup.map_on _ (List.nodup_dedup texts)
    intro left isLeft right isRight samePath
    exact noCollision left (List.mem_dedup.mp isLeft) right (List.mem_dedup.mp isRight)
      (boundaryPath_injective root samePath)
  have permuted : files.Perm (texts.dedup.map fun text => boundaryPath root (boundaryId text)) := by
    rw [List.perm_ext_iff_of_nodup nodup named]
    intro path
    rw [mem_iff path, List.mem_map]
    simp only [List.mem_dedup]
  rw [permuted.length_eq, List.length_map]

variable [StrayOctets]

/-- What serving requests in some order does, compared with serving them as they are listed. What
is written is told by the answers where the project root can be spelled from every file with imports
to redirect. -/
structure ServedAlike (parser : Parser) (workingDirectory root : FilePath)
    (requests order : List Request) : Prop where
  answers_eq : (served parser workingDirectory root order).1 =
    order.map fun request => request.answerAlone parser workingDirectory root
  registered_eq : ∀ path,
    (served parser workingDirectory root order).2.registry.get? path =
      (served parser workingDirectory root requests).2.registry.get? path
  kept_eq : ∀ path,
    (served parser workingDirectory root order).2.store.get? path =
      (served parser workingDirectory root requests).2.store.get? path
  writes_nodup :
    (served parser workingDirectory root order).2.store.writes.Nodup
  mem_writes_iff : (∀ request ∈ requests, request.Spellable parser workingDirectory root) → ∀ path,
    path ∈ (served parser workingDirectory root order).2.store.writes ↔
      ∃ request ∈ requests, (request.answerAlone parser workingDirectory root).isOk = true ∧
        ∃ marked ∈ request.imports parser workingDirectory,
          boundaryPath (root.absolute workingDirectory) (boundaryId marked.parts.normalized) = path
  length_writes : (∀ request ∈ requests, request.Spellable parser workingDirectory root) →
    (served parser workingDirectory root order).2.store.writes.length =
      ((requests.filter fun request =>
        (request.answerAlone parser workingDirectory root).isOk).flatMap fun request =>
          request.normalizedTexts parser workingDirectory).dedup.length

/-- The build that serves regular requests has emitted their modules. -/
private theorem tidy_served
    (regular : ∀ request ∈ requests, request.Regular parser workingDirectory)
    (consistent : Consistent (modulesOf parser workingDirectory root requests)) :
    (served parser workingDirectory root requests).2.Tidy
      (modulesOf parser workingDirectory root requests) := by
  rw [served, serve_eq regular]
  exact Build.tidy_shelved consistent Build.tidy_fresh

private theorem exists_module_iff
    (regular : ∀ request ∈ requests, request.Regular parser workingDirectory)
    (spellable : ∀ request ∈ requests, request.Spellable parser workingDirectory root)
    (property : BoundaryModule → Prop) :
    (∃ boundary ∈ modulesOf parser workingDirectory root requests, property boundary) ↔
      ∃ request ∈ requests, (request.answerAlone parser workingDirectory root).isOk = true ∧
        ∃ marked ∈ request.imports parser workingDirectory,
          property (marked.parts.boundary (root.absolute workingDirectory)) := by
  constructor
  · rintro ⟨boundary, member, holds⟩
    obtain ⟨request, isRequest, isModule⟩ := List.mem_flatMap.mp member
    obtain ⟨isOk, marked, isImport, rfl⟩ :=
      (Request.mem_modules_iff (regular request isRequest) (spellable request isRequest)).mp isModule
    exact ⟨request, isRequest, isOk, marked, isImport, holds⟩
  · rintro ⟨request, isRequest, isOk, marked, isImport, holds⟩
    have isModule := (Request.mem_modules_iff (regular request isRequest)
      (spellable request isRequest)).mpr ⟨isOk, marked, isImport, rfl⟩
    exact ⟨_, List.mem_flatMap.mpr ⟨request, isRequest, isModule⟩, holds⟩

/-- Whatever the order of some regular requests: each is answered as it would be alone, registry
and shelf end with the same texts, and each file of a module is written once. If the project root can
be spelled from every file with imports to redirect, the files written are those of the requests
answered with a text. -/
theorem served_in_any_order
    (regular : ∀ request ∈ requests, request.Regular parser workingDirectory)
    (noCollision : NoCollision (requests.flatMap fun request =>
      request.normalizedTexts parser workingDirectory))
    (root : FilePath) (permuted : requests.Perm order) :
    ServedAlike parser workingDirectory root requests order := by
  have orderRegular : ∀ request ∈ order, request.Regular parser workingDirectory :=
    fun request member => regular request (permuted.mem_iff.mpr member)
  have sameModules : ∀ boundary, boundary ∈ modulesOf parser workingDirectory root order ↔
      boundary ∈ modulesOf parser workingDirectory root requests := by
    intro boundary
    exact (permuted.symm.flatMap_right _).mem_iff
  have consistent : Consistent (modulesOf parser workingDirectory root requests) :=
    consistent_modulesOf regular noCollision
  have orderConsistent : Consistent (modulesOf parser workingDirectory root order) := by
    intro left isLeft right isRight
    exact consistent left ((sameModules left).mp isLeft) right ((sameModules right).mp isRight)
  have tidy := tidy_served regular consistent
  have orderTidy := tidy_served orderRegular orderConsistent
  have registered : ∀ path,
      (served parser workingDirectory root order).2.registry.get? path =
        (served parser workingDirectory root requests).2.registry.get? path := by
    intro path
    apply Option.ext
    intro content
    simp only [orderTidy.registered_iff, tidy.registered_iff, sameModules]
  have mem_writes_iff : (∀ request ∈ requests, request.Spellable parser workingDirectory root) →
      ∀ path, (path ∈ (served parser workingDirectory root order).2.store.writes ↔
        ∃ request ∈ requests, (request.answerAlone parser workingDirectory root).isOk = true ∧
          ∃ marked ∈ request.imports parser workingDirectory,
            boundaryPath (root.absolute workingDirectory) (boundaryId marked.parts.normalized) =
              path) := by
    intro spellable path
    simp only [orderTidy.mem_writes_iff, sameModules,
      exists_module_iff regular spellable fun boundary => boundary.path = path, path_boundary]
  constructor
  · rw [served, serve_eq orderRegular]
  · exact registered
  · intro path
    rw [orderTidy.kept_eq, tidy.kept_eq, registered path]
  · exact orderTidy.writes_nodup
  · exact mem_writes_iff
  · intro spellable
    apply length_eq_of_files orderTidy.writes_nodup
    · intro path
      rw [mem_writes_iff spellable path]
      simp only [List.mem_flatMap, List.mem_filter, Request.normalizedTexts, List.mem_map]
      constructor
      · rintro ⟨request, isRequest, isOk, marked, isImport, atPath⟩
        exact ⟨_, ⟨request, ⟨isRequest, isOk⟩, marked, isImport, rfl⟩, atPath⟩
      · rintro ⟨_, ⟨request, ⟨isRequest, isOk⟩, marked, isImport, rfl⟩, atPath⟩
        exact ⟨request, isRequest, isOk, marked, isImport, atPath⟩
    · intro left isLeft right isRight
      have involved : ∀ text ∈ (requests.filter fun request =>
          (request.answerAlone parser workingDirectory root).isOk).flatMap fun request =>
            request.normalizedTexts parser workingDirectory,
          text ∈ requests.flatMap fun request =>
            request.normalizedTexts parser workingDirectory := by
        intro text member
        obtain ⟨request, isAnswered, isText⟩ := List.mem_flatMap.mp member
        exact List.mem_flatMap.mpr ⟨request, (List.mem_filter.mp isAnswered).1, isText⟩
      exact noCollision left (involved left isLeft) right (involved right isRight)

end Order

/-- Two files that share an import, one with another import, and one that is no source. -/
def sampleRequests : List Request :=
  let braced := "import \x7b A \x7d from \x27./m\x27 with \x7b use: \x27client\x27 \x7d;"
  let default := "import B from \x27./n\x27 with \x7b use: \x27client\x27 \x7d;"
  [⟨⟨.root, ["first.tsx"]⟩, braced, none⟩, ⟨⟨.root, ["second.tsx"]⟩, braced, none⟩,
    ⟨⟨.root, ["third.tsx"]⟩, default, none⟩, ⟨⟨.root, ["style.css"]⟩, braced, none⟩]

/-- The trees of the files: a clause with one entry in braces, or with a default name. -/
def sampleParser : Parser := fun _ octets =>
  let name (start : Nat) (field : Option String) : Node :=
    ⟨"identifier", start, start + 1, true, false, field, []⟩
  let entry : Node := ⟨"import_specifier", 9, 10, true, false, none, [name 9 (some "name")]⟩
  let statement : Node :=
    if octets.length = 47 then
      Source.markedStatement ⟨"import_clause", 7, 12, true, false, none,
        [⟨"named_imports", 7, 12, true, false, none, [entry]⟩]⟩ 18 23
    else Source.markedStatement ⟨"import_clause", 7, 8, true, false, none, [name 7 none]⟩ 14 19
  ⟨"program", 0, octets.length, true, false, none, [statement]⟩

section Examples

attribute [local instance] StrayOctets.privateUse

theorem served_in_reverse_order :
    let here : FilePath := ⟨.root, []⟩
    (∀ request ∈ sampleRequests, request.Regular sampleParser here) ∧
      sampleRequests.flatMap (fun request => request.normalizedTexts sampleParser here) =
        ["import \x7b A \x7d from \x27./m\x27;", "import \x7b A \x7d from \x27./m\x27;",
          "import B from \x27./n\x27;"] ∧
      (∀ request ∈ sampleRequests, request.Spellable sampleParser here here) ∧
      ServedAlike sampleParser here here sampleRequests sampleRequests.reverse := by
  intro here
  have regular : ∀ request ∈ sampleRequests, request.Regular sampleParser here := by
    decide +kernel
  have texts : sampleRequests.flatMap (fun request => request.normalizedTexts sampleParser here) =
      ["import \x7b A \x7d from \x27./m\x27;", "import \x7b A \x7d from \x27./m\x27;",
        "import B from \x27./n\x27;"] := by
    decide +kernel
  have noCollision : NoCollision (sampleRequests.flatMap fun request =>
      request.normalizedTexts sampleParser here) := by
    rw [texts]
    decide +kernel
  have spelled : ∀ request ∈ sampleRequests, request.IsSpelled here here := by decide +kernel
  have spellable : ∀ request ∈ sampleRequests, request.Spellable sampleParser here here :=
    fun request isRequest => Request.spellable_of_isSpelled (spelled request isRequest) sampleParser
  exact ⟨regular, texts, spellable,
    served_in_any_order regular noCollision here (List.reverse_perm sampleRequests).symm⟩

/-- Beside a project root whose name is no text, a file that is answered with no text has its module
written all the same. -/
theorem module_written_without_answer :
    let here : FilePath := ⟨.root, []⟩
    let requests := sampleRequests.take 1
    let run := served sampleParser here FilePath.strayRoot requests
    (∀ request ∈ requests, request.Regular sampleParser here) ∧
      NoCollision (requests.flatMap fun request => request.normalizedTexts sampleParser here) ∧
      (∀ answer ∈ run.1, answer.isOk = false) ∧ run.2.store.writes.length = 1 := by
  decide +kernel

end Examples

end ImportBoundary
