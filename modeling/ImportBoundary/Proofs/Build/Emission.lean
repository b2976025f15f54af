import ImportBoundary.Proofs.Build.Run
import ImportBoundary.Proofs.Collecting
import ImportBoundary.Proofs.Import.Splice
import ImportBoundary.Proofs.Path.Spelling

/-!
Contract: which modules a transform writes.

Owns the preparation of a transform, which touches no build, the modules of some marked imports in
order, and the registry after they are emitted.

Main statements: `registry_of_transform` for a transform that answers, with any store, and
`emitAll_shelf` for modules kept in memory, where every emission succeeds.
-/

namespace ImportBoundary

variable {σ : Type}

/-- What a transform finds in a source before it writes anything. The imports of a source that
does not parse cleanly are never written. -/
def prepare (parser : Parser) (workingDirectory path : FilePath) (text : String)
    (language : Option String) : Except Failure (Source × List MarkedImport) := do
  let source ← Source.parse parser (Utf8.encode text) (path.absolute workingDirectory) language
  let imports ← source.markedImports
  if imports.isEmpty then .ok (source, [])
  else
    source.ensureClean
    .ok (source, imports)

/-- The modules of some marked imports, in order. -/
def Source.boundariesOf (source : Source) (root : FilePath) (imports : List MarkedImport) :
    Except Failure (List BoundaryModule) :=
  imports.mapM fun marked => source.boundaryOf root marked.parts

/-- Some marked imports, each with the specifier of its module. -/
def Source.replacements (source : Source) (imports : List MarkedImport)
    (boundaries : List BoundaryModule) : List (MarkedImport × String) :=
  imports.zipWith (fun marked boundary => (marked, FilePath.specifier source.path boundary.path))
    boundaries

/-- The text of the last module of a path. -/
def lastText (boundaries : List BoundaryModule) (path : FilePath) : Option String :=
  ((boundaries.filter fun boundary => boundary.path = path).map BoundaryModule.content).getLast?

/-! ## Preparation -/

section Preparation

variable {parser : Parser} {workingDirectory path : FilePath} {text : String}
  {language : Option String} {source : Source} {imports : List MarkedImport}

theorem of_prepare_eq_ok
    (prepared : prepare parser workingDirectory path text language = .ok (source, imports)) :
    Source.parse parser (Utf8.encode text) (path.absolute workingDirectory) language =
      .ok source ∧ source.markedImports = .ok imports := by
  unfold prepare at prepared
  obtain ⟨parsed, isParsed, rest⟩ := bind_eq_ok_iff.mp prepared
  obtain ⟨found, areFound, remaining⟩ := bind_eq_ok_iff.mp rest
  split at remaining
  · rename_i isEmpty
    cases remaining
    rw [List.isEmpty_iff.mp isEmpty] at areFound
    exact ⟨isParsed, areFound⟩
  · obtain ⟨_, _, result⟩ := bind_eq_ok_iff.mp remaining
    cases result
    exact ⟨isParsed, areFound⟩

/-- A source in which anything is marked is prepared only if it is clean. -/
theorem ensureClean_of_prepare
    (prepared : prepare parser workingDirectory path text language = .ok (source, imports))
    (nonempty : imports ≠ []) : source.ensureClean = .ok () := by
  unfold prepare at prepared
  obtain ⟨parsed, _, rest⟩ := bind_eq_ok_iff.mp prepared
  obtain ⟨found, _, remaining⟩ := bind_eq_ok_iff.mp rest
  split at remaining
  · cases remaining
    exact absurd rfl nonempty
  · obtain ⟨_, isClean, result⟩ := bind_eq_ok_iff.mp remaining
    cases result
    exact isClean

/-- A transform prepares, then writes the modules of all imports, then redirects them. -/
theorem transform_eq [StrayOctets] (store : Store σ) (root : FilePath) (build : Build σ) :
    transform parser store workingDirectory root path text language build =
      match prepare parser workingDirectory path text language with
      | .error failure => .error failure build
      | .ok (_, []) => .ok text build
      | .ok (source, marked :: rest) =>
          (do
            let replacements ←
              emitAll store (root.absolute workingDirectory) source (marked :: rest)
            Action.ofExcept (source.redirect replacements)) build := by
  unfold transform prepare
  rw [Action.ofExcept_bind]
  cases parsed : Source.parse parser (Utf8.encode text) (path.absolute workingDirectory)
      language with
  | error failure => rfl
  | ok source =>
      dsimp only
      rw [Action.ofExcept_bind]
      simp only [ok_bind]
      cases found : source.markedImports with
      | error failure => rfl
      | ok imports =>
          cases imports with
          | nil => rfl
          | cons marked rest =>
              simp only [ok_bind, List.isEmpty_cons, if_neg Bool.false_ne_true]
              rw [Action.ofExcept_bind]
              cases source.ensureClean with
              | error failure => rfl
              | ok _ => rfl

/-- A transform answers with the text as it is if nothing is marked, and otherwise once it has
written all modules and redirected all imports. -/
theorem transform_eq_ok_iff [StrayOctets] {store : Store σ} {root : FilePath} {build after : Build σ}
    {answer : String} :
    transform parser store workingDirectory root path text language build = .ok answer after ↔
      ∃ source imports, prepare parser workingDirectory path text language = .ok (source, imports) ∧
        ((imports = [] ∧ answer = text ∧ after = build) ∨
          (imports ≠ [] ∧ ∃ replacements,
            emitAll store (root.absolute workingDirectory) source imports build =
              .ok replacements after ∧ source.redirect replacements = .ok answer)) := by
  rw [transform_eq]
  cases prepared : prepare parser workingDirectory path text language with
  | error failure =>
      constructor
      · intro outcome
        cases outcome
      · rintro ⟨_, _, isPrepared, _⟩
        cases isPrepared
  | ok pair =>
      obtain ⟨source, imports⟩ := pair
      cases imports with
      | nil =>
          constructor
          · intro outcome
            cases outcome
            exact ⟨source, [], rfl, .inl ⟨rfl, rfl, rfl⟩⟩
          · rintro ⟨_, _, isPrepared, ⟨_, rfl, rfl⟩ | ⟨nonempty, _⟩⟩
            · rfl
            · cases isPrepared
              exact absurd rfl nonempty
      | cons marked rest =>
          dsimp only
          rw [Action.bind_apply]
          constructor
          · intro outcome
            cases emitted : emitAll store (root.absolute workingDirectory) source (marked :: rest)
                build with
            | error failure state =>
                rw [emitted] at outcome
                cases outcome
            | ok replacements state =>
                rw [emitted] at outcome
                obtain ⟨redirected, rfl⟩ := Action.ofExcept_eq_ok_iff.mp outcome
                exact ⟨source, marked :: rest, rfl,
                  .inr ⟨List.cons_ne_nil marked rest, replacements, emitted, redirected⟩⟩
          · rintro ⟨_, _, isPrepared, ⟨isEmpty, _⟩ | ⟨_, replacements, emitted, redirected⟩⟩
            · cases isPrepared
              cases isEmpty
            · cases isPrepared
              rw [emitted]
              exact Action.ofExcept_eq_ok_iff.mpr ⟨redirected, rfl⟩

end Preparation

/-! ## The modules of a source -/

section Modules

variable {source : Source} {root : FilePath}

theorem boundariesOf_cons_eq_ok_iff {marked : MarkedImport} {rest : List MarkedImport}
    {boundaries : List BoundaryModule} :
    source.boundariesOf root (marked :: rest) = .ok boundaries ↔
      ∃ boundary others, source.boundaryOf root marked.parts = .ok boundary ∧
        source.boundariesOf root rest = .ok others ∧ boundaries = boundary :: others :=
  mapM_cons_eq_ok_iff

theorem forall₂_of_boundariesOf {imports : List MarkedImport} {boundaries : List BoundaryModule}
    (built : source.boundariesOf root imports = .ok boundaries) :
    List.Forall₂ (fun marked boundary => source.boundaryOf root marked.parts = .ok boundary)
      imports boundaries :=
  forall₂_of_mapM built

theorem path_of_boundaryOf {parts : ImportParts} {boundary : BoundaryModule}
    (made : source.boundaryOf root parts = .ok boundary) :
    boundary.path = boundaryPath root parts.boundaryId := by
  obtain ⟨statement, _, result⟩ := bind_eq_ok_iff.mp made
  cases result
  rfl

/-- Every module has its import. -/
theorem map_fst_replacements {imports : List MarkedImport} {boundaries : List BoundaryModule}
    (built : source.boundariesOf root imports = .ok boundaries) :
    (source.replacements imports boundaries).map Prod.fst = imports := by
  induction imports generalizing boundaries with
  | nil =>
      cases built
      rfl
  | cons marked rest inductionHypothesis =>
      obtain ⟨boundary, others, _, remaining, rfl⟩ := boundariesOf_cons_eq_ok_iff.mp built
      rw [Source.replacements, List.zipWith_cons_cons, List.map_cons]
      exact congrArg (marked :: ·) (inductionHypothesis remaining)

/-- The specifiers of the modules of a source can be written exactly if no stray octet is met on the
walk from the source to the project root. -/
theorem areWritable_replacements_iff [StrayOctets] {imports : List MarkedImport}
    {boundaries : List BoundaryModule} (built : source.boundariesOf root imports = .ok boundaries) :
    AreWritable (source.replacements imports boundaries) ↔
      imports = [] ∨ source.path.IsSpelled root := by
  induction imports generalizing boundaries with
  | nil => simp [AreWritable, Source.replacements]
  | cons marked rest inductionHypothesis =>
      obtain ⟨boundary, others, isMade, remaining, rfl⟩ := boundariesOf_cons_eq_ok_iff.mp built
      have ofRest := inductionHypothesis remaining
      have first : Utf8.IsWritable (FilePath.specifier source.path boundary.path) ↔
          source.path.IsSpelled root := by
        rw [path_of_boundaryOf isMade]
        exact FilePath.isWritable_specifier_iff source.path root marked.parts.normalized
      unfold AreWritable Source.replacements at ofRest ⊢
      rw [List.zipWith_cons_cons, List.forall_mem_cons, ofRest, first]
      simp only [List.cons_ne_nil, false_or]
      exact and_iff_left_of_imp .inr

theorem emitAll_cons_eq_ok_iff {store : Store σ} {marked : MarkedImport} {rest : List MarkedImport}
    {build after : Build σ} {replacements : List (MarkedImport × String)} :
    emitAll store root source (marked :: rest) build = .ok replacements after ↔
      ∃ boundary written state others, source.boundaryOf root marked.parts = .ok boundary ∧
        Build.emit store boundary build = .ok written state ∧
        emitAll store root source rest state = .ok others after ∧
        replacements = (marked, FilePath.specifier source.path boundary.path) :: others := by
  rw [emitAll, Action.ofExcept_bind]
  constructor
  · intro outcome
    split at outcome
    · rename_i boundary built
      rw [Action.bind_apply] at outcome
      split at outcome
      · rename_i written state emitted
        rw [Action.bind_apply] at outcome
        split at outcome
        · rename_i others final remaining
          cases outcome
          exact ⟨boundary, written, state, others, built, emitted, remaining, rfl⟩
        · cases outcome
      · cases outcome
    · cases outcome
  · rintro ⟨boundary, written, state, others, built, emitted, remaining, rfl⟩
    rw [built]
    dsimp only
    rw [Action.bind_apply, emitted]
    dsimp only
    rw [Action.bind_apply, remaining]
    rfl

end Modules

/-! ## The registry after some emissions -/

theorem lastText_cons (boundary : BoundaryModule) (rest : List BoundaryModule) (path : FilePath) :
    lastText (boundary :: rest) path =
      (lastText rest path).or (if path = boundary.path then some boundary.content else none) := by
  unfold lastText
  by_cases same : path = boundary.path
  · rw [List.filter_cons_of_pos (by simp [same]), List.map_cons, List.getLast?_cons, if_pos same]
    cases ((rest.filter fun other => decide (other.path = path)).map
      BoundaryModule.content).getLast? <;> rfl
  · rw [List.filter_cons_of_neg (by simp [Ne.symm same]), if_neg same, Option.or_none]

theorem lastText_append (left right : List BoundaryModule) (path : FilePath) :
    lastText (left ++ right) path = (lastText right path).or (lastText left path) := by
  unfold lastText
  rw [List.filter_append, List.map_append, List.getLast?_append]

/-- The last module of a path is the one of the last item that is selected for the path. -/
theorem lastText_of_forall₂ {α : Type} {makes : α → BoundaryModule → Prop} {items : List α}
    {boundaries : List BoundaryModule} (areMade : List.Forall₂ makes items boundaries)
    {path : FilePath} {selects : α → Bool}
    (selects_iff : ∀ item ∈ items, ∀ boundary, makes item boundary →
      (path = boundary.path ↔ selects item = true)) :
    (items.findRev? selects = none ∧ lastText boundaries path = none) ∨
      ∃ last boundary, items.findRev? selects = some last ∧ makes last boundary ∧
        lastText boundaries path = some boundary.content := by
  induction areMade with
  | nil => exact .inl ⟨rfl, rfl⟩
  | @cons item boundary rest others isMade _ inductionHypothesis =>
      -- Later items come first: the head counts only if none of them is selected.
      have atHead := selects_iff item List.mem_cons_self boundary isMade
      have remaining := inductionHypothesis fun other member =>
        selects_iff other (List.mem_cons_of_mem item member)
      rw [List.findRev?, lastText_cons]
      rcases remaining with ⟨noLast, noText⟩ | ⟨last, found, isLast, isFound, foundText⟩
      · rw [noLast, noText, Option.none_or]
        by_cases isSelected : selects item = true
        · exact .inr ⟨item, boundary, by rw [if_pos isSelected], isMade,
            if_pos (atHead.mpr isSelected)⟩
        · exact .inl ⟨by rw [if_neg isSelected], if_neg fun same => isSelected (atHead.mp same)⟩
      · exact .inr ⟨last, found, by rw [isLast], isFound, by rw [foundText, Option.some_or]⟩

/-- An emission that answers registers its module, whether it writes or not. -/
theorem Build.registry_of_emit {store : Store σ} {boundary : BoundaryModule} {build after : Build σ}
    {written : Bool} (outcome : Build.emit store boundary build = .ok written after)
    (path : FilePath) :
    after.registry.get? path =
      (if path = boundary.path then some boundary.content else none).or
        (build.registry.get? path) := by
  rcases Build.writeIfChanged_cases store boundary.path boundary.content build with
    ⟨known, skipped⟩ | ⟨_, state, _, taken⟩ | ⟨_, failure, state, _, refused⟩
  · rw [Build.emit, skipped] at outcome
    cases outcome
    by_cases same : path = boundary.path
    · rw [same, known, if_pos rfl]
      rfl
    · rw [if_neg same, Option.none_or]
  · rw [Build.emit, taken] at outcome
    cases outcome
    rw [Registry.get?_put]
    by_cases same : path = boundary.path
    · rw [if_pos same, if_pos same]
      rfl
    · rw [if_neg same, if_neg same, Option.none_or]
  · rw [Build.emit, refused] at outcome
    cases outcome

/-- Emissions that all answer have all modules made, and register the last one of each path. -/
theorem registry_of_emitAll {store : Store σ} {root : FilePath} {source : Source}
    {imports : List MarkedImport} {build after : Build σ}
    {replacements : List (MarkedImport × String)}
    (outcome : emitAll store root source imports build = .ok replacements after) :
    ∃ boundaries, source.boundariesOf root imports = .ok boundaries ∧
      replacements = source.replacements imports boundaries ∧
      ∀ path, after.registry.get? path =
        (lastText boundaries path).or (build.registry.get? path) := by
  induction imports generalizing build replacements with
  | nil =>
      cases outcome
      exact ⟨[], rfl, rfl, fun path => rfl⟩
  | cons marked rest inductionHypothesis =>
      obtain ⟨boundary, written, state, others, built, emitted, remaining, rfl⟩ :=
        emitAll_cons_eq_ok_iff.mp outcome
      obtain ⟨boundaries, areBuilt, rfl, registered⟩ := inductionHypothesis remaining
      refine ⟨boundary :: boundaries,
        boundariesOf_cons_eq_ok_iff.mpr ⟨boundary, boundaries, built, areBuilt, rfl⟩, rfl, ?_⟩
      intro path
      rw [registered path, Build.registry_of_emit emitted path, lastText_cons, Option.or_assoc]

/-- A transform that answers registers the last module of each path among its modules. -/
theorem registry_of_transform [StrayOctets] {parser : Parser} {store : Store σ}
    {workingDirectory root path : FilePath} {text answer : String} {language : Option String}
    {build after : Build σ}
    (outcome : transform parser store workingDirectory root path text language build =
      .ok answer after) :
    ∃ source imports boundaries,
      prepare parser workingDirectory path text language = .ok (source, imports) ∧
      source.boundariesOf (root.absolute workingDirectory) imports = .ok boundaries ∧
      ∀ other, after.registry.get? other =
        (lastText boundaries other).or (build.registry.get? other) := by
  obtain ⟨source, imports, prepared, ⟨rfl, _, rfl⟩ | ⟨_, replacements, emitted, _⟩⟩ :=
    transform_eq_ok_iff.mp outcome
  · exact ⟨source, [], [], prepared, rfl, fun other => rfl⟩
  · obtain ⟨boundaries, built, _, registered⟩ := registry_of_emitAll emitted
    exact ⟨source, imports, boundaries, prepared, built, registered⟩

/-! ## Modules kept in memory -/

/-- The build after some modules are emitted into memory. -/
def Build.shelved (boundaries : List BoundaryModule) (build : Build Shelf) : Build Shelf :=
  boundaries.foldl (fun reached boundary => (Build.emit Shelf.store boundary).stateAfter reached)
    build

/-- The store takes every write. -/
def Store.Accepts (store : Store σ) : Prop :=
  ∀ path content state, ∃ after, store.write path content state = .ok () after

theorem Shelf.store_accepts : Shelf.store.Accepts :=
  fun path content shelf => ⟨shelf.put path content, rfl⟩

theorem Build.emit_of_accepts {store : Store σ} (accepts : store.Accepts)
    (boundary : BoundaryModule) (build : Build σ) :
    ∃ written, Build.emit store boundary build =
      .ok written ((Build.emit store boundary).stateAfter build) := by
  rcases Build.writeIfChanged_cases store boundary.path boundary.content build with
    ⟨_, skipped⟩ | ⟨_, state, _, taken⟩ | ⟨_, failure, state, refused, _⟩
  · exact ⟨false, by rw [Action.stateAfter, Build.emit, skipped]⟩
  · exact ⟨true, by rw [Action.stateAfter, Build.emit, taken]⟩
  · obtain ⟨after, taken⟩ := accepts boundary.path boundary.content build.store
    rw [taken] at refused
    cases refused

/-- Emission into memory succeeds whenever the modules can be made. -/
theorem emitAll_shelf {source : Source} {root : FilePath} {imports : List MarkedImport}
    {boundaries : List BoundaryModule} (built : source.boundariesOf root imports = .ok boundaries)
    (build : Build Shelf) :
    emitAll Shelf.store root source imports build =
      .ok (source.replacements imports boundaries) (build.shelved boundaries) := by
  induction imports generalizing boundaries build with
  | nil =>
      cases built
      rfl
  | cons marked rest inductionHypothesis =>
      obtain ⟨boundary, others, isBoundary, remaining, rfl⟩ :=
        boundariesOf_cons_eq_ok_iff.mp built
      obtain ⟨written, emitted⟩ := Build.emit_of_accepts Shelf.store_accepts boundary build
      exact emitAll_cons_eq_ok_iff.mpr
        ⟨boundary, written, _, _, isBoundary, emitted, inductionHypothesis remaining _, rfl⟩

end ImportBoundary
