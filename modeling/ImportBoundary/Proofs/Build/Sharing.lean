import ImportBoundary.Proofs.Boundary.Naming
import ImportBoundary.Proofs.Build.Coherence
import ImportBoundary.Proofs.Build.Requests
import ImportBoundary.Proofs.Import.Exports

/-!
Contract: modules that are shared by the files of a run.

Owns the marked imports of a run, each with the source that owns it, and what the file of an import
holds at the end of the run.

The file of a module is named after the normalized text of its import, while the members of a
namespace are those that the owning source accesses. Imports with one normalized text therefore
share a file, and the last of them decides which members it exports.

Main statements: `held_of_serve`, by which a file holds the module of the last import with its
normalized text, and `shared_names_of_last`, which says what of the other imports is left there.
-/

namespace ImportBoundary

open Text (IsWord)

variable {σ : Type}

/-- A marked import and the source that it stands in. -/
structure OwnedImport where
  owner : Source
  marked : MarkedImport

namespace OwnedImport

/-- The normalized text of the import. -/
def normalized (own : OwnedImport) : String :=
  own.marked.parts.normalized

/-- The module is the one that the owner has made for the import. -/
def Makes (root : FilePath) (own : OwnedImport) (boundary : BoundaryModule) : Prop :=
  own.owner.boundaryOf root own.marked.parts = .ok boundary

/-- The names of the import, its source, and the members that the owner accesses are words, as a
grammar has names and literals. -/
structure Worded (own : OwnedImport) : Prop where
  parts : own.marked.parts.Worded
  source : IsWord own.marked.parts.source
  members : ∀ members, own.owner.membersFor own.marked.parts = .ok members →
    ∀ member ∈ members, IsWord member

theorem path_of_makes {own : OwnedImport} {root : FilePath} {boundary : BoundaryModule}
    (makes : own.Makes root boundary) :
    boundary.path = boundaryPath root (boundaryId own.normalized) :=
  path_of_boundaryOf makes

end OwnedImport

/-- The marked imports of a request, each with its source. -/
def Request.owned (request : Request) (parser : Parser) (workingDirectory : FilePath) :
    List OwnedImport :=
  match request.source parser workingDirectory with
  | .ok source => (request.imports parser workingDirectory).map (OwnedImport.mk source)
  | .error _ => []

/-- The marked imports of some requests in order. -/
def ownedBy (parser : Parser) (workingDirectory : FilePath) (requests : List Request) :
    List OwnedImport :=
  requests.flatMap fun request => request.owned parser workingDirectory

/-- The last of some imports with a normalized text. -/
def lastOwned (owned : List OwnedImport) (normalized : String) : Option OwnedImport :=
  owned.findRev? fun own => own.normalized = normalized

/-! ## The imports of a run -/

section Owned

variable {parser : Parser} {workingDirectory : FilePath} {request : Request}

theorem Request.owned_of_prepared {source : Source} {imports : List MarkedImport}
    (isPrepared : request.prepared parser workingDirectory = .ok (source, imports)) :
    request.owned parser workingDirectory = imports.map (OwnedImport.mk source) := by
  obtain ⟨isSource, _, areImports⟩ := of_prepared isPrepared
  rw [Request.owned, isSource, areImports]

theorem Request.mem_imports_of_mem_owned {own : OwnedImport}
    (isOwn : own ∈ request.owned parser workingDirectory) :
    own.marked ∈ request.imports parser workingDirectory := by
  unfold Request.owned at isOwn
  split at isOwn
  · obtain ⟨marked, isImport, rfl⟩ := List.mem_map.mp isOwn
    exact isImport
  · cases isOwn

variable {requests : List Request} {own : OwnedImport}

theorem normalized_mem_of_mem_ownedBy (isOwn : own ∈ ownedBy parser workingDirectory requests) :
    own.normalized ∈ requests.flatMap fun request =>
      request.normalizedTexts parser workingDirectory := by
  obtain ⟨request, isRequest, isOwned⟩ := List.mem_flatMap.mp isOwn
  exact List.mem_flatMap.mpr
    ⟨request, isRequest, List.mem_map_of_mem (Request.mem_imports_of_mem_owned isOwned)⟩

theorem bindsNothing_of_mem_ownedBy (isOwn : own ∈ ownedBy parser workingDirectory requests) :
    own.marked.parts.hasClause = false → own.marked.parts.BindsNothing := by
  obtain ⟨request, _, isOwned⟩ := List.mem_flatMap.mp isOwn
  obtain ⟨source, statement, _, reads⟩ :=
    Request.exists_reads (Request.mem_imports_of_mem_owned isOwned)
  exact reads.bindsNothing

theorem mem_of_lastOwned {owned : List OwnedImport} {normalized : String} {last : OwnedImport}
    (isLast : lastOwned owned normalized = some last) :
    last ∈ owned ∧ last.normalized = normalized := by
  rw [lastOwned, List.findRev?_eq_find?_reverse] at isLast
  have isText := List.find?_some isLast
  exact ⟨List.mem_reverse.mp (List.mem_of_find?_eq_some isLast), of_decide_eq_true isText⟩

theorem lastOwned_ne_none {owned : List OwnedImport} {own : OwnedImport} (isOwn : own ∈ owned) :
    lastOwned owned own.normalized ≠ none := by
  rw [lastOwned, List.findRev?_eq_find?_reverse]
  intro noLast
  have differs := List.find?_eq_none.mp noLast own (List.mem_reverse.mpr isOwn)
  exact differs (decide_eq_true rfl)

end Owned

/-! ## The modules of a run -/

section Modules

variable {root : FilePath} {owned : List OwnedImport} {boundaries : List BoundaryModule}

theorem makes_of_boundariesOf {source : Source} {imports : List MarkedImport}
    (built : source.boundariesOf root imports = .ok boundaries) :
    List.Forall₂ (OwnedImport.Makes root) (imports.map (OwnedImport.mk source)) boundaries :=
  List.forall₂_map_left_iff.mpr (forall₂_of_boundariesOf built)

theorem exists_made_of_mem (makes : List.Forall₂ (OwnedImport.Makes root) owned boundaries)
    {own : OwnedImport} (isOwn : own ∈ owned) : ∃ boundary, own.Makes root boundary := by
  obtain ⟨boundary, _, isMade⟩ := exists_mem_of_forall₂ (List.Forall₂.flip makes) isOwn
  exact ⟨boundary, isMade⟩

/-- Without collisions, the file of a normalized text ends with the module of the last import with
that text. -/
theorem lastText_of_makes (makes : List.Forall₂ (OwnedImport.Makes root) owned boundaries)
    {texts : List String} (noCollision : NoCollision texts)
    (involved : ∀ own ∈ owned, own.normalized ∈ texts) {normalized : String}
    (isText : normalized ∈ texts) :
    let path := boundaryPath root (boundaryId normalized)
    (lastOwned owned normalized = none ∧ lastText boundaries path = none) ∨
      ∃ last boundary, lastOwned owned normalized = some last ∧ last.Makes root boundary ∧
        lastText boundaries path = some boundary.content := by
  intro path
  apply lastText_of_forall₂ makes
  intro own isOwn boundary isMade
  rw [OwnedImport.path_of_makes isMade, decide_eq_true_iff]
  constructor
  · intro same
    exact (noCollision _ isText _ (involved own isOwn) (boundaryPath_injective root same)).symm
  · intro same
    rw [same]

end Modules

/-! ## The files at the end of a run -/

/-- Emissions that all answer keep what is registered in a store that keeps the files of modules
apart. -/
theorem mirrored_of_emitAll {store : Store σ} {held : σ → FilePath → Option String}
    {among : FilePath → Prop} {root : FilePath} {source : Source}
    (faithful : store.Faithful held among) (apart : ∀ id, among (boundaryPath root id))
    {imports : List MarkedImport} {build after : Build σ}
    {replacements : List (MarkedImport × String)}
    (emitted : emitAll store root source imports build = .ok replacements after)
    (mirrored : Mirrored held among build.registry build.store) :
    Mirrored held among after.registry after.store := by
  induction imports generalizing build replacements with
  | nil =>
      cases emitted
      exact mirrored
  | cons marked rest inductionHypothesis =>
      obtain ⟨boundary, _, state, others, isMade, isEmitted, remaining, rfl⟩ :=
        emitAll_cons_eq_ok_iff.mp emitted
      have isAmong : among boundary.path := path_of_boundaryOf isMade ▸ apart _
      exact inductionHypothesis remaining
        (Build.mirrored_of_write faithful isAmong isEmitted mirrored)

section Serving

variable [StrayOctets] {parser : Parser} {store : Store σ} {held : σ → FilePath → Option String}
  {among : FilePath → Prop} {workingDirectory root : FilePath} {requests : List Request}

/-- Requests that are all answered have all their modules made, and the registry holds the last one
of each path. -/
theorem exists_made_of_serve {build : Build σ}
    (answered : ∀ answer ∈ (build.serve parser store workingDirectory root requests).1,
      answer.isOk = true) :
    ∃ boundaries,
      List.Forall₂ (OwnedImport.Makes (root.absolute workingDirectory))
        (ownedBy parser workingDirectory requests) boundaries ∧
      ∀ path, (build.serve parser store workingDirectory root requests).2.registry.get? path =
        (lastText boundaries path).or (build.registry.get? path) := by
  induction requests generalizing build with
  | nil => exact ⟨[], List.Forall₂.nil, fun path => rfl⟩
  | cons request rest inductionHypothesis =>
      unfold Build.serve at answered ⊢
      dsimp only at answered ⊢
      obtain ⟨isAnswered, restAnswered⟩ := List.forall_mem_cons.mp answered
      obtain ⟨text, outcome⟩ := Action.eq_ok_of_answer isAnswered
      obtain ⟨source, imports, first, isPrepared, built, registered⟩ :=
        registry_of_transform outcome
      obtain ⟨others, areMade, restRegistered⟩ := inductionHypothesis restAnswered
      refine ⟨first ++ others, ?_, ?_⟩
      · rw [ownedBy, List.flatMap_cons, Request.owned_of_prepared isPrepared]
        exact List.rel_append (makes_of_boundariesOf built) areMade
      · intro path
        rw [restRegistered path, registered path, lastText_append, Option.or_assoc]

/-- Requests that are all answered keep what is registered in a store that keeps the files of modules
apart. -/
theorem mirrored_of_serve (faithful : store.Faithful held among)
    (apart : ∀ id, among (boundaryPath (root.absolute workingDirectory) id)) {build : Build σ}
    (answered : ∀ answer ∈ (build.serve parser store workingDirectory root requests).1,
      answer.isOk = true)
    (mirrored : Mirrored held among build.registry build.store) :
    let after := (build.serve parser store workingDirectory root requests).2
    Mirrored held among after.registry after.store := by
  induction requests generalizing build with
  | nil => exact mirrored
  | cons request rest inductionHypothesis =>
      unfold Build.serve at answered ⊢
      dsimp only at answered ⊢
      obtain ⟨isAnswered, restAnswered⟩ := List.forall_mem_cons.mp answered
      obtain ⟨text, outcome⟩ := Action.eq_ok_of_answer isAnswered
      apply inductionHypothesis restAnswered
      obtain ⟨source, imports, _, ⟨_, _, unchanged⟩ | ⟨_, replacements, emitted, _⟩⟩ :=
        transform_eq_ok_iff.mp outcome
      · rw [unchanged]
        exact mirrored
      · exact mirrored_of_emitAll faithful apart emitted mirrored

/-- The file of an import holds, at the end of a run, the module of the last import of the run with
its normalized text. -/
theorem held_of_serve (faithful : store.Faithful held among)
    (apart : ∀ id, among (boundaryPath (root.absolute workingDirectory) id)) {initial : σ}
    (answered : ∀ answer ∈
      ((Build.fresh initial).serve parser store workingDirectory root requests).1,
        answer.isOk = true)
    (noCollision : NoCollision (requests.flatMap fun request =>
      request.normalizedTexts parser workingDirectory))
    {own : OwnedImport} (isOwn : own ∈ ownedBy parser workingDirectory requests) :
    ∃ last boundary ownBoundary,
      lastOwned (ownedBy parser workingDirectory requests) own.normalized = some last ∧
      last.Makes (root.absolute workingDirectory) boundary ∧
      own.Makes (root.absolute workingDirectory) ownBoundary ∧
      held ((Build.fresh initial).serve parser store workingDirectory root requests).2.store
        ownBoundary.path = some boundary.content := by
  obtain ⟨boundaries, areMade, registered⟩ := exists_made_of_serve answered
  obtain ⟨ownBoundary, isMade⟩ := exists_made_of_mem areMade isOwn
  rcases lastText_of_makes areMade noCollision
      (fun other isOther => normalized_mem_of_mem_ownedBy isOther)
      (normalized_mem_of_mem_ownedBy isOwn) with
    ⟨noLast, _⟩ | ⟨last, boundary, isLast, lastMade, isText⟩
  · exact absurd noLast (lastOwned_ne_none isOwn)
  · refine ⟨last, boundary, ownBoundary, isLast, lastMade, isMade, ?_⟩
    -- What a file holds is read off the registry, which every write keeps true of the store.
    rw [OwnedImport.path_of_makes isMade]
    apply mirrored_of_serve faithful apart answered (Mirrored.empty held among initial) _ _ _
      (apart _)
    rw [registered, isText, Option.some_or]

end Serving

/-! ## What is left of an import -/

/-- What the file of an import exports once another import with the same normalized text has
written it, compared with the module that its own source has made. -/
structure SharedNames (parts : ImportParts) (ownMembers lastMembers : List String)
    (ownContent content : String) : Prop where
  own : exportedNames ownContent = parts.exported ownMembers
  shared : exportedNames content = parts.exported lastMembers
  /-- A default name and specifiers are never lost. -/
  lasting : ∀ name ∈ exportedNames ownContent, name ∉ ownMembers → name ∈ exportedNames content
  kept_iff : (∀ name ∈ exportedNames ownContent, name ∈ exportedNames content) ↔
    ∀ member ∈ ownMembers,
      member ∈ lastMembers ∨ (member = "default" ∧ nonEmpty parts.defaultName ≠ none)

/-- Only members can be lost from a list of exported names when the members change. -/
theorem ImportParts.sharedNames {parts : ImportParts} {ownMembers lastMembers : List String}
    {ownContent content : String} (own : exportedNames ownContent = parts.exported ownMembers)
    (shared : exportedNames content = parts.exported lastMembers)
    (ofNamespace : nonEmpty parts.namespaceName = none → ownMembers = []) :
    SharedNames parts ownMembers lastMembers ownContent content := by
  refine ⟨own, shared, ?_, ?_⟩
  · intro name isOwn notMember
    rw [own, mem_exported_iff] at isOwn
    rw [shared, mem_exported_iff]
    refine isOwn.imp_right fun isOther => ?_
    cases hasNamespace : nonEmpty parts.namespaceName with
    | none =>
        rw [hasNamespace] at isOther
        exact isOther
    | some text =>
        rw [hasNamespace] at isOther
        exact absurd isOther notMember
  · rw [own, shared]
    simp only [mem_exported_iff]
    cases hasNamespace : nonEmpty parts.namespaceName with
    | none => simp [ofNamespace hasNamespace]
    | some text =>
        constructor
        · intro kept member isMember
          exact (kept member (.inr isMember)).symm.imp_right And.symm
        · intro kept name isOwn
          rcases isOwn with isDefault | isMember
          · exact .inl isDefault
          · exact (kept name isMember).symm.imp_left And.symm

/-- Imports whose normalized texts are the same hand on the same names with the same members. -/
theorem exported_eq_of_normalized_eq {left right : OwnedImport} (leftWorded : left.Worded)
    (rightWorded : right.Worded)
    (leftBare : left.marked.parts.hasClause = false → left.marked.parts.BindsNothing)
    (rightBare : right.marked.parts.hasClause = false → right.marked.parts.BindsNothing)
    (same : left.normalized = right.normalized) (members : List String) :
    left.marked.parts.exported members = right.marked.parts.exported members := by
  have written := ImportParts.written_eq_of_normalized_eq leftWorded.parts rightWorded.parts
    leftWorded.source rightWorded.source same
  rw [← ImportParts.exported_written leftBare, written, ImportParts.exported_written rightBare]

theorem OwnedImport.exportedNames_of_makes {own : OwnedImport} {root : FilePath}
    {boundary : BoundaryModule} (worded : own.Worded) (makes : own.Makes root boundary) :
    ∃ members, own.owner.membersFor own.marked.parts = .ok members ∧
      exportedNames boundary.content = own.marked.parts.exported members := by
  obtain ⟨members, collected, rfl⟩ := boundaryOf_eq_ok_iff.mp makes
  exact ⟨members, collected, ImportParts.exportedNames_content
    (ImportParts.worded_handedOn worded.parts (worded.members members collected)) rfl rfl⟩

/-- The directory of a project. -/
def projectRoot : FilePath :=
  ⟨.root, ["project"]⟩

/-- A file that accesses one member of a marked namespace. -/
def accessRequest (file member : String) : Request :=
  ⟨⟨.root, ["project", "app", file]⟩, namespaceText member, none⟩

/-- The source of such a file. -/
def accessSource (file member : String) : Source :=
  ⟨⟨.root, ["project", "app", file]⟩, Utf8.encode (namespaceText member), .tsx, namespaceTree⟩

/-- The marked import of every such file. -/
def accessParts : ImportParts :=
  ⟨"\x27./ui\x27", none, some "ui", [], false, true⟩

/-- Two files that access different members of one namespace, in order. -/
def accessRequests : List Request :=
  [accessRequest "a.tsx" "A", accessRequest "b.tsx" "B"]

/-- The tree of each of them. -/
def accessParser : Parser := fun _ _ => namespaceTree

section Examples

attribute [local instance] StrayOctets.privateUse

/-- Such a file is answered by every build in memory, and owns its one import. -/
private theorem access (file member : String)
    (read : (((accessRequest file member).prepared accessParser projectRoot).map fun found =>
      found.2.map MarkedImport.parts).toOption = some [accessParts])
    (isSource : (accessRequest file member).source accessParser projectRoot =
      .ok (accessSource file member))
    (wellFormed : (accessSource file member).WellFormed)
    (spelled : (accessRequest file member).IsSpelled projectRoot projectRoot) :
    (∀ build, (((accessRequest file member).transform accessParser Shelf.store projectRoot
      projectRoot).answer build).isOk = true) ∧
    ∃ marked, marked.parts = accessParts ∧
      (accessRequest file member).owned accessParser projectRoot =
        [⟨accessSource file member, marked⟩] := by
  cases isPrepared : (accessRequest file member).prepared accessParser projectRoot with
  | error failure =>
      rw [isPrepared] at read
      cases read
  | ok found =>
      obtain ⟨source, imports⟩ := found
      rw [isPrepared] at read
      have allParts : imports.map MarkedImport.parts = [accessParts] := Option.some.inj read
      obtain ⟨marked, rfl, parts⟩ := List.map_eq_singleton_iff.mp allParts
      have sameSource : source = accessSource file member := by
        have found := (Request.of_prepared isPrepared).1
        rw [isSource] at found
        exact (Except.ok.inj found).symm
      subst sameSource
      have isQuoted : ∀ other ∈ [marked], Text.BeginsWithQuote other.parts.source := by
        intro other isOther
        rw [List.mem_singleton.mp isOther, parts]
        decide
      obtain ⟨_, answer, _, answers⟩ := Request.transform_shelf isPrepared wellFormed
        (Source.nonempty_of_quoted (Request.of_prepared isPrepared).2.1 isQuoted) (.inr spelled)
      refine ⟨fun build => ?_, marked, parts, Request.owned_of_prepared isPrepared⟩
      rw [Action.answer, answers build]
      rfl

private theorem worded_access {file member : String} {marked : MarkedImport}
    (parts : marked.parts = accessParts)
    (collected : (accessSource file member).membersFor accessParts = .ok [member])
    (isWord : IsWord member) : OwnedImport.Worded ⟨accessSource file member, marked⟩ where
  parts := by
    rw [parts]
    exact ImportParts.Plain.worded (by decide)
  source := by
    rw [parts]
    decide
  members members isCollected other isMember := by
    rw [parts, collected] at isCollected
    cases isCollected
    rw [List.mem_singleton.mp isMember]
    exact isWord

/-- Both files are answered. The import of the second one is the last with the text of the first. -/
private theorem accessed :
    (∀ answer ∈ ((Build.fresh Shelf.empty).serve accessParser Shelf.store projectRoot projectRoot
      accessRequests).1, answer.isOk = true) ∧
    ∃ own last : OwnedImport, own ∈ ownedBy accessParser projectRoot accessRequests ∧
      own.marked.parts = accessParts ∧
      own.owner.membersFor accessParts = .ok ["A"] ∧
      lastOwned (ownedBy accessParser projectRoot accessRequests) own.normalized = some last ∧
      last.marked.parts = accessParts ∧
      last.owner.membersFor accessParts = .ok ["B"] ∧
      ∀ other ∈ ownedBy accessParser projectRoot accessRequests, other.Worded := by
  have ownCollected : (accessSource "a.tsx" "A").membersFor accessParts = .ok ["A"] :=
    eq_ok_of_toOption (by decide +kernel)
  have lastCollected : (accessSource "b.tsx" "B").membersFor accessParts = .ok ["B"] :=
    eq_ok_of_toOption (by decide +kernel)
  obtain ⟨ownAnswered, own, ownParts, areOwnOwned⟩ :=
    access "a.tsx" "A" (by decide +kernel) rfl (by decide +kernel) (by decide)
  obtain ⟨lastAnswered, last, lastParts, areLastOwned⟩ :=
    access "b.tsx" "B" (by decide +kernel) rfl (by decide +kernel) (by decide)
  have owned : ownedBy accessParser projectRoot accessRequests =
      [⟨accessSource "a.tsx" "A", own⟩, ⟨accessSource "b.tsx" "B", last⟩] := by
    rw [ownedBy, accessRequests, List.flatMap_cons, List.flatMap_singleton, areOwnOwned,
      areLastOwned]
    rfl
  refine ⟨?_, ⟨accessSource "a.tsx" "A", own⟩, ⟨accessSource "b.tsx" "B", last⟩, ?_, ownParts,
    ownCollected, ?_, lastParts, lastCollected, ?_⟩
  · intro answer isAnswer
    rcases List.mem_cons.mp isAnswer with rfl | later
    · exact ownAnswered _
    · rw [List.mem_singleton.mp later]
      exact lastAnswered _
  · rw [owned]
    exact List.mem_cons_self
  · simp [owned, lastOwned, OwnedImport.normalized, ownParts, lastParts]
  · intro other isOther
    rw [owned] at isOther
    rcases List.mem_cons.mp isOther with rfl | later
    · exact worded_access ownParts ownCollected (by decide)
    · rw [List.mem_singleton.mp later]
      exact worded_access lastParts lastCollected (by decide)

private theorem noCollision_access :
    NoCollision (accessRequests.flatMap fun request =>
      request.normalizedTexts accessParser projectRoot) := by
  have texts : (accessRequests.flatMap fun request =>
      request.normalizedTexts accessParser projectRoot) =
        [accessParts.normalized, accessParts.normalized] := by
    decide +kernel
  have same : ∀ text ∈ [accessParts.normalized, accessParts.normalized],
      text = accessParts.normalized := by
    simp
  rw [texts]
  intro left isLeft right isRight _
  rw [same left isLeft, same right isRight]

end Examples

end ImportBoundary
