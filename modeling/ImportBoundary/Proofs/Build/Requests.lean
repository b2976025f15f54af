import ImportBoundary.Proofs.Build.Emission
import ImportBoundary.Proofs.Import.Reading
import ImportBoundary.Proofs.Syntax.Language

/-!
Contract: requests to transform files, served one after the other by one build.

Owns the request, what is read from it before anything is written, whether the project root can be
spelled from its file, and the serving of requests with any store.

Main statements: `transform_shelf`, by which a transform of a well-formed source cannot fail once the
source is prepared and the root can be spelled from it, and `transform_unspelled`, by which it fails
otherwise, with its modules written.
-/

namespace ImportBoundary

variable {σ : Type}

/-- A file that is to be transformed. -/
structure Request where
  path : FilePath
  text : String
  language : Option String

namespace Request

/-- The transform that is requested. -/
def transform [StrayOctets] (request : Request) (parser : Parser) (store : Store σ)
    (workingDirectory root : FilePath) : Action (Build σ) String :=
  ImportBoundary.transform parser store workingDirectory root request.path request.text
    request.language

/-- What a transform finds before it writes anything. -/
def prepared (request : Request) (parser : Parser) (workingDirectory : FilePath) :
    Except Failure (Source × List MarkedImport) :=
  prepare parser workingDirectory request.path request.text request.language

/-- The source of a request, if its language is known. -/
def source (request : Request) (parser : Parser) (workingDirectory : FilePath) :
    Except Failure Source :=
  Source.parse parser (Utf8.encode request.text) (request.path.absolute workingDirectory)
    request.language

/-- The marked imports of a request; none if they cannot be read. -/
def imports (request : Request) (parser : Parser) (workingDirectory : FilePath) :
    List MarkedImport :=
  match request.source parser workingDirectory >>= Source.markedImports with
  | .ok imports => imports
  | .error _ => []

/-- The normalized texts of the marked imports of a request. -/
def normalizedTexts (request : Request) (parser : Parser) (workingDirectory : FilePath) :
    List String :=
  (request.imports parser workingDirectory).map fun marked => marked.parts.normalized

/-- No stray octet is met on the walk from the file to the project root. -/
def IsSpelled [StrayOctets] (request : Request) (workingDirectory root : FilePath) : Prop :=
  (request.path.absolute workingDirectory).IsSpelled (root.absolute workingDirectory)

instance [StrayOctets] (request : Request) (workingDirectory root : FilePath) :
    Decidable (request.IsSpelled workingDirectory root) :=
  inferInstanceAs
    (Decidable ((request.path.absolute workingDirectory).IsSpelled (root.absolute workingDirectory)))

/-- A request has no imports to redirect, or the project root can be spelled from its file. -/
def Spellable [StrayOctets] (request : Request) (parser : Parser) (workingDirectory root : FilePath) :
    Prop :=
  ∀ source imports, request.prepared parser workingDirectory = .ok (source, imports) →
    imports = [] ∨ request.IsSpelled workingDirectory root

theorem spellable_of_isSpelled [StrayOctets] {request : Request} {workingDirectory root : FilePath}
    (spelled : request.IsSpelled workingDirectory root) (parser : Parser) :
    request.Spellable parser workingDirectory root :=
  fun _ _ _ => .inr spelled

end Request

/-- The answers to some requests in order, and the build after them. -/
def Build.serve [StrayOctets] (parser : Parser) (store : Store σ) (workingDirectory root : FilePath) :
    List Request → Build σ → List (Except Failure String) × Build σ
  | [], build => ([], build)
  | request :: rest, build =>
      let action := request.transform parser store workingDirectory root
      let later := serve parser store workingDirectory root rest (action.stateAfter build)
      (action.answer build :: later.1, later.2)

/-- The id of a module tells its normalized text apart from all others that are involved. -/
def NoCollision (texts : List String) : Prop :=
  ∀ left ∈ texts, ∀ right ∈ texts, boundaryId left = boundaryId right → left = right

instance (texts : List String) : Decidable (NoCollision texts) :=
  inferInstanceAs (Decidable (∀ left ∈ texts, ∀ right ∈ texts,
    boundaryId left = boundaryId right → left = right))

namespace Request

variable {request : Request} {parser : Parser} {workingDirectory root : FilePath}
  {source : Source} {imports : List MarkedImport}

theorem of_prepared (isPrepared : request.prepared parser workingDirectory = .ok (source, imports)) :
    request.source parser workingDirectory = .ok source ∧ source.markedImports = .ok imports ∧
      request.imports parser workingDirectory = imports := by
  obtain ⟨parsed, found⟩ := of_prepare_eq_ok isPrepared
  have isSource : request.source parser workingDirectory = .ok source := parsed
  refine ⟨isSource, found, ?_⟩
  rw [Request.imports, isSource, ok_bind, found]

/-- The marked imports of a request are read from statements of its source. -/
theorem exists_reads {marked : MarkedImport}
    (isImport : marked ∈ request.imports parser workingDirectory) :
    ∃ source statement, request.source parser workingDirectory = .ok source ∧
      source.Reads statement marked := by
  unfold Request.imports at isImport
  split at isImport
  · rename_i imports read
    obtain ⟨source, isSource, found⟩ := bind_eq_ok_iff.mp read
    obtain ⟨statement, _, isMarked⟩ := exists_mem_of_mem_gather found isImport
    exact ⟨source, statement, isSource, Source.reads_of_markedImport? isMarked⟩
  · cases isImport

theorem isEncoded_of_source (isSource : request.source parser workingDirectory = .ok source) :
    Utf8.IsEncoded source.octets :=
  Source.octets_of_parse isSource ▸ Utf8.isEncoded_encode request.text

variable [StrayOctets]

/-- A source that is not prepared leaves every build alone. -/
theorem transform_of_failure {store : Store σ} {failure : Failure}
    (failed : request.prepared parser workingDirectory = .error failure) (build : Build σ) :
    request.transform parser store workingDirectory root build = .error failure build := by
  unfold Request.prepared at failed
  rw [Request.transform, transform_eq, failed]

/-- Once a source has been prepared in which something is marked, its modules are emitted into memory.
What is left is to redirect its imports. -/
theorem transform_of_boundaries {boundaries : List BoundaryModule}
    (isPrepared : request.prepared parser workingDirectory = .ok (source, imports))
    (marks : imports ≠ [])
    (built : source.boundariesOf (root.absolute workingDirectory) imports = .ok boundaries)
    (build : Build Shelf) :
    request.transform parser Shelf.store workingDirectory root build =
      (Action.ofExcept (source.redirect (source.replacements imports boundaries)) :
        Action (Build Shelf) String) (build.shelved boundaries) := by
  unfold Request.prepared at isPrepared
  obtain ⟨marked, rest, rfl⟩ := List.exists_cons_of_ne_nil marks
  rw [Request.transform, transform_eq, isPrepared]
  dsimp only
  rw [Action.bind_apply, emitAll_shelf built]

/-- The specifiers of a request can be written exactly if it has none or the project root can be
spelled from its file. -/
theorem areWritable_iff {boundaries : List BoundaryModule}
    (isPrepared : request.prepared parser workingDirectory = .ok (source, imports))
    (built : source.boundariesOf (root.absolute workingDirectory) imports = .ok boundaries) :
    AreWritable (source.replacements imports boundaries) ↔
      imports = [] ∨ request.IsSpelled workingDirectory root := by
  rw [areWritable_replacements_iff built, Source.path_of_parse (of_prepared isPrepared).1,
    Request.IsSpelled]

/-- Once a well-formed source has been prepared from which the project root can be spelled, nothing
fails any more: its modules are made and emitted into memory, and its imports are redirected. -/
theorem transform_shelf
    (isPrepared : request.prepared parser workingDirectory = .ok (source, imports))
    (wellFormed : source.WellFormed)
    (nonempty : ∀ marked ∈ imports, marked.sourceNode.start < marked.sourceNode.stop)
    {root : FilePath} (spelled : imports = [] ∨ request.IsSpelled workingDirectory root) :
    ∃ boundaries answer,
      source.boundariesOf (root.absolute workingDirectory) imports = .ok boundaries ∧
      ∀ build, request.transform parser Shelf.store workingDirectory root build =
        .ok answer (build.shelved boundaries) := by
  obtain ⟨isSource, found, _⟩ := of_prepared isPrepared
  have encoded := isEncoded_of_source isSource
  obtain ⟨boundaries, built⟩ := Source.exists_boundariesOf wellFormed encoded
    (root.absolute workingDirectory) imports
  by_cases isEmpty : imports = []
  · subst isEmpty
    cases built
    exact ⟨[], request.text, rfl, fun build =>
      transform_eq_ok_iff.mpr ⟨source, [], isPrepared, .inl ⟨rfl, rfl, rfl⟩⟩⟩
  · obtain ⟨text, redirected⟩ := Source.redirect_of_wellFormed wellFormed encoded found nonempty
      (map_fst_replacements built) ((areWritable_iff isPrepared built).mpr spelled)
    refine ⟨boundaries, text, built, fun build => ?_⟩
    rw [transform_of_boundaries isPrepared isEmpty built, redirected]
    rfl

/-- A well-formed source in which something is marked, and from which the project root cannot be
spelled, has its modules written before the specifiers fail. -/
theorem transform_unspelled
    (isPrepared : request.prepared parser workingDirectory = .ok (source, imports))
    (wellFormed : source.WellFormed) (marks : imports ≠ [])
    {root : FilePath} (unspelled : ¬ request.IsSpelled workingDirectory root) :
    ∃ boundaries fault,
      source.boundariesOf (root.absolute workingDirectory) imports = .ok boundaries ∧
      ∀ build, request.transform parser Shelf.store workingDirectory root build =
        .error (.unwritable fault) (build.shelved boundaries) := by
  have encoded := isEncoded_of_source (of_prepared isPrepared).1
  obtain ⟨boundaries, built⟩ := Source.exists_boundariesOf wellFormed encoded
    (root.absolute workingDirectory) imports
  have stray : ¬ AreWritable (source.replacements imports boundaries) := by
    rw [areWritable_iff isPrepared built]
    exact not_or_intro marks unspelled
  obtain ⟨fault, failed⟩ := source.redirect_of_unwritable stray
  refine ⟨boundaries, fault, built, fun build => ?_⟩
  rw [transform_of_boundaries isPrepared marks built, failed]
  rfl

end Request

end ImportBoundary
