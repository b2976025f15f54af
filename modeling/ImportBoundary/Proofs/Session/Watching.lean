import ImportBoundary.Session.Watch
import ImportBoundary.Proofs.Boundary.Naming
import ImportBoundary.Proofs.Build.Emission
import ImportBoundary.Proofs.Session.Run

/-!
Contract: a watch loop that calls back once for each batch of changes that matters, and never because
of what a session writes.

Owns the calls that batches lead to, the sessions that any calls lead to while the disk changes in any
way, and that no file of a boundary module is watched. A callback that fails leaves the state behind
that it has reached; the next call starts from there. One that is stopped ends the loop.

Main statement: `watch_settles`.
-/

namespace ImportBoundary

variable {σ : Type} {batch : List FilePath}

/-! ## Calls -/

/-- The calls that batches lead to: one for each that holds a watched file, in order. -/
def watchCalls (batches : List (List FilePath)) : List (List FilePath) :=
  (batches.filter fun batch => batch.any FilePath.isWatched).map watchedPaths

theorem mem_watchedPaths_iff {path : FilePath} :
    path ∈ watchedPaths batch ↔ path ∈ batch ∧ path.isWatched = true := by
  rw [watchedPaths, List.mem_eraseDups, List.mem_filter]

theorem nodup_watchedPaths (batch : List FilePath) : (watchedPaths batch).Nodup :=
  nodup_eraseDups _

theorem isEmpty_watchedPaths (batch : List FilePath) :
    (watchedPaths batch).isEmpty = !batch.any FilePath.isWatched := by
  cases isAny : batch.any FilePath.isWatched with
  | true =>
      obtain ⟨path, isPath, isWatched⟩ := List.any_eq_true.mp isAny
      have member := mem_watchedPaths_iff.mpr ⟨isPath, isWatched⟩
      exact List.isEmpty_eq_false_iff.mpr (List.ne_nil_of_mem member)
  | false =>
      rw [Bool.not_false, List.isEmpty_iff, List.eq_nil_iff_forall_not_mem]
      intro path member
      obtain ⟨isPath, isWatched⟩ := mem_watchedPaths_iff.mp member
      rw [List.any_eq_false] at isAny
      exact isAny path isPath isWatched

namespace Calling

/-- The state that a call leaves behind, however it ends. -/
def stateAfter (call : Calling σ Unit) (state : σ) : σ :=
  match call state with
  | .ok _ after => after
  | .error _ after => after

/-- The call is stopped from outside. -/
def Stops (call : Calling σ Unit) (state : σ) : Prop :=
  call state = .error .stopped (call.stateAfter state)

theorem passOver_of_not_stops {call : Calling σ Unit} {state : σ} (goesOn : ¬ call.Stops state) :
    call.passOver state = .ok () (call.stateAfter state) := by
  unfold Stops stateAfter at goesOn
  unfold passOver stateAfter
  cases outcome : call state with
  | ok _ after => rfl
  | error callEnd after =>
      cases callEnd with
      | failed failure => rfl
      | stopped =>
          rw [outcome] at goesOn
          exact absurd rfl goesOn

theorem passOver_of_stops {call : Calling σ Unit} {state : σ} (stops : call.Stops state) :
    call.passOver state = .error .stopped (call.stateAfter state) := by
  unfold Stops at stops
  unfold passOver
  rw [stops]

/-- The state after some calls, each from the state that the one before has left behind. -/
def reached (callback : List FilePath → Calling σ Unit) (calls : List (List FilePath)) (state : σ) :
    σ :=
  calls.foldl (fun state paths => (callback paths).stateAfter state) state

/-- None of some calls is stopped. Any of them may fail. -/
def GoOn (callback : List FilePath → Calling σ Unit) : List (List FilePath) → σ → Prop
  | [], _ => True
  | paths :: rest, state =>
    ¬ (callback paths).Stops state ∧ GoOn callback rest ((callback paths).stateAfter state)

end Calling

section Loop

variable (callback : List FilePath → Calling σ Unit)

/-- The loop makes the first call of its batches, and goes on with the rest unless it is stopped. -/
theorem watch_cons (batch : List FilePath) (rest : List (List FilePath)) (state : σ) :
    watch callback (batch :: rest) state =
      if batch.any FilePath.isWatched then
        match (callback (watchedPaths batch)).passOver state with
        | .ok _ after => watch callback rest after
        | .error callEnd after => .error callEnd after
      else watch callback rest state := by
  rw [watch, isEmpty_watchedPaths, Bool.not_not]
  dsimp only
  cases batch.any FilePath.isWatched with
  | true =>
      rw [if_pos rfl, if_pos rfl]
      simp only [bind, EStateM.bind]
      cases (callback (watchedPaths batch)).passOver state <;> rfl
  | false => rw [if_neg Bool.false_ne_true, if_neg Bool.false_ne_true]

theorem watchCalls_cons (batch : List FilePath) (rest : List (List FilePath)) :
    watchCalls (batch :: rest) =
      if batch.any FilePath.isWatched then watchedPaths batch :: watchCalls rest
      else watchCalls rest := by
  rw [watchCalls, List.filter_cons]
  split
  · rfl
  · rfl

variable {callback}

/-- The loop makes the calls of its batches, each from the state that the one before has left behind,
and does not fail. -/
theorem watch_eq {batches : List (List FilePath)} {state : σ}
    (goOn : Calling.GoOn callback (watchCalls batches) state) :
    watch callback batches state =
      .ok () (Calling.reached callback (watchCalls batches) state) := by
  induction batches generalizing state with
  | nil => rfl
  | cons batch rest inductionHypothesis =>
      rw [watch_cons]
      rw [watchCalls_cons] at goOn ⊢
      split
      · rename_i isWatched
        rw [if_pos isWatched] at goOn
        rw [Calling.passOver_of_not_stops goOn.1]
        exact inductionHypothesis goOn.2
      · rename_i unwatched
        rw [if_neg unwatched] at goOn
        exact inductionHypothesis goOn

/-- A call that is stopped is the last one, and ends the loop. -/
theorem watch_of_stops {batches before later : List (List FilePath)} {paths : List FilePath}
    {state : σ} (calls : watchCalls batches = before ++ paths :: later)
    (goOn : Calling.GoOn callback before state)
    (stops : (callback paths).Stops (Calling.reached callback before state)) :
    watch callback batches state =
      .error .stopped (Calling.reached callback (before ++ [paths]) state) := by
  induction batches generalizing before state with
  | nil => cases before <;> cases calls
  | cons batch rest inductionHypothesis =>
      rw [watch_cons]
      rw [watchCalls_cons] at calls
      split
      · rename_i isWatched
        rw [if_pos isWatched] at calls
        cases before with
        | nil =>
            obtain ⟨rfl, _⟩ := List.cons.inj calls
            have stopsHere : (callback (watchedPaths batch)).Stops state := stops
            rw [Calling.passOver_of_stops stopsHere]
            rfl
        | cons first others =>
            obtain ⟨rfl, restCalls⟩ := List.cons.inj calls
            rw [Calling.passOver_of_not_stops goOn.1]
            exact inductionHypothesis restCalls goOn.2 stops
      · rename_i unwatched
        rw [if_neg unwatched] at calls
        exact inductionHypothesis calls goOn stops

end Loop

/-- A batch without watched files is as good as none. -/
theorem watch_of_unwatched (unwatched : ∀ path ∈ batch, path.isWatched = false)
    (callback : List FilePath → Calling σ Unit) (rest : List (List FilePath)) (state : σ) :
    watch callback (batch :: rest) state = watch callback rest state := by
  have isNone : batch.any FilePath.isWatched = false := by
    rw [List.any_eq_false]
    intro path isPath
    rw [unwatched path isPath]
    exact Bool.false_ne_true
  rw [watch_cons, isNone, if_neg Bool.false_ne_true]

/-! ## Writes -/

/-- The file of a boundary module stands in the directory of generated files, and is not watched. -/
theorem isWatched_boundaryPath (root : FilePath) (normalized : String) :
    (boundaryPath root (boundaryId normalized)).isWatched = false := by
  have isGenerated : generatedDirectory ∈ (boundaryPath root (boundaryId normalized)).names := by
    rw [boundaryPath_eq root (slash_notMem_boundaryId normalized)]
    show generatedDirectory ∈ root.names ++ [generatedDirectory, "boundaries"] ++ _
    simp
  rw [FilePath.isWatched, List.contains_iff_mem.mpr isGenerated, Bool.not_true, Bool.and_false]

section Store

variable {store : Store σ}

/-- What writes of files that are not watched preserve, a transform preserves. -/
theorem preserves_transform_of_unwatched [StrayOctets] {property : Build σ → Prop}
    (writes : ∀ path content, path.isWatched = false →
      (Build.writeIfChanged store path content).Preserves property)
    (parser : Parser) (workingDirectory root path : FilePath) (text : String)
    (language : Option String) :
    (transform parser store workingDirectory root path text language).Preserves property := by
  apply preserves_transform_of_emit
  intro source parts boundary made
  apply writes
  rw [path_of_boundaryOf made]
  exact isWatched_boundaryPath _ _

/-- What a store preserves in its own state, a build preserves in it. -/
theorem Build.preserves_store {property : σ → Prop} {path : FilePath} {content : String}
    (keeps : (store.write path content).Preserves property) :
    (writeIfChanged store path content).Preserves fun build => property build.store := by
  intro build holds
  have after := keeps build.store holds
  unfold Action.stateAfter at *
  rcases writeIfChanged_cases store path content build with
    ⟨_, skipped⟩ | ⟨_, written, taken, answered⟩ | ⟨_, failure, written, refused, failed⟩
  · rw [skipped]
    exact holds
  · rw [taken] at after
    rw [answered]
    exact after
  · rw [refused] at after
    rw [failed]
    exact after

/-- A path that is not watched enters no watched path into the registry. -/
theorem Build.preserves_registry {path : FilePath} (unwatched : path.isWatched = false)
    (content : String) :
    (writeIfChanged store path content).Preserves fun build =>
      ∀ other ∈ build.registry.entries.map Prod.fst, other.isWatched = false := by
  intro build holds
  unfold Action.stateAfter
  rcases writeIfChanged_cases store path content build with
    ⟨_, skipped⟩ | ⟨_, written, _, answered⟩ | ⟨_, failure, written, _, failed⟩
  · rw [skipped]
    exact holds
  · rw [answered]
    intro other member
    have keys := Table.keys_set path content build.registry.entries
    rw [Registry.put, keys] at member
    split at member
    · exact holds other member
    · rcases List.mem_append.mp member with isOld | isNew
      · exact holds other isOld
      · rw [List.mem_singleton.mp isNew]
        exact unwatched
  · rw [failed]
    exact holds

end Store

/-! ## Sessions -/

theorem Shelves.preserves_writes (keeping : Keeping) {path : FilePath}
    (unwatched : path.isWatched = false) (content : String) :
    ((Shelves.store keeping).write path content).Preserves fun shelves =>
      ∀ other ∈ shelves.shelf.writes, other.isWatched = false := by
  intro shelves holds
  unfold Action.stateAfter
  cases keeping with
  | onDisk =>
      unfold store writeToDisk
      dsimp only
      cases Disk.writeModule path content shelves.disk with
      | ok _ disk => exact holds
      | error failure disk => exact holds
  | inMemory =>
      intro other member
      rcases List.mem_append.mp member with isOld | isNew
      · exact holds other isOld
      · rw [List.mem_singleton.mp isNew]
        exact unwatched

namespace Session

variable {parser : Parser}

/-- The sessions that calls can lead to, also calls that fail, wherever they keep their modules and
however the disk changes in between. -/
inductive Driven [StrayOctets] (parser : Parser) : Session → Prop
  | start (disk : Disk) (root : FilePath) (keeping : Keeping) (files : List FilePath) :
      Driven parser (Session.start disk root keeping files)
  | change {session : Session} (driven : Driven parser session) (disk : Disk) :
      Driven parser (session.withDisk disk)
  | call {session : Session} (driven : Driven parser session) (call : Call) :
      Driven parser (session.afterCall parser call)

/-- The paths that a session has written: those that its store has taken, and the log of a store in
memory. -/
def writes (session : Session) : List FilePath :=
  session.generated ++ session.build.store.shelf.writes

/-- No path of a build is watched, whether it is registered or logged. -/
structure Unwatched (build : Build Shelves) : Prop where
  registry : ∀ path ∈ build.registry.entries.map Prod.fst, path.isWatched = false
  shelf : ∀ path ∈ build.store.shelf.writes, path.isWatched = false

theorem preserves_transform_unwatched [StrayOctets] (keeping : Keeping) (parser : Parser)
    (workingDirectory root path : FilePath) (text : String) :
    (transform parser (Shelves.store keeping) workingDirectory root path text none).Preserves
      Unwatched := by
  apply preserves_transform_of_unwatched
  intro written content unwatched build holds
  constructor
  · exact Build.preserves_registry unwatched content build holds.registry
  · exact Build.preserves_store (Shelves.preserves_writes keeping unwatched content) build
      holds.shelf

theorem preserves_transformText_unwatched [StrayOctets] (path : FilePath) (text : String) :
    (transformText parser path text).Preserves fun session => Unwatched session.build := by
  intro session holds
  have after := preserves_transform_unwatched session.keeping parser session.disk.here session.root
    path text session.build holds
  unfold Action.stateAfter at *
  unfold transformText
  cases outcome : transform parser (Shelves.store session.keeping) session.disk.here session.root
      path text none session.build with
  | ok answer build =>
      rw [outcome] at after
      exact after
  | error failure build =>
      rw [outcome] at after
      exact after

/-- Using the program writes nothing. -/
theorem build_onProgram {α : Type} (action : Disk → Action Program α) (session : Session) :
    ((onProgram action).stateAfter session).build = session.build := by
  unfold Action.stateAfter onProgram
  cases action session.disk session.program with
  | ok answer program => rfl
  | error failure program => rfl

/-- Whatever a session has done, no path that it has written is watched. -/
theorem Driven.unwatched [StrayOctets] {session : Session} (driven : Driven parser session) :
    Unwatched session.build := by
  induction driven with
  | start disk root keeping files =>
      constructor
      · intro path isPath
        cases isPath
      · intro path isPath
        cases isPath
  | change _ disk inductionHypothesis =>
      exact ⟨inductionHypothesis.registry, inductionHypothesis.shelf⟩
  | call _ call inductionHypothesis =>
      refine preserves_afterCall preserves_transformText_unwatched ?_ call inductionHypothesis
      intro α action _ session holds
      rw [build_onProgram]
      exact holds

theorem isWatched_of_mem_writes [StrayOctets] {session : Session} (driven : Driven parser session)
    {path : FilePath} (isWritten : path ∈ session.writes) : path.isWatched = false := by
  rcases List.mem_append.mp isWritten with isGenerated | isLogged
  · exact driven.unwatched.registry path (List.mem_mergeSort.mp isGenerated)
  · exact driven.unwatched.shelf path isLogged

end Session

/-- The loop calls back once for each batch that holds a watched file, in order and whichever calls
fail, with the watched files of the batch; only a call that is stopped, as a cancelled one is, ends it.
Transforms ask a store, whatever it is, to write files only that are not watched; so whatever a session
has done, a batch of paths that it has written calls back for nothing. -/
theorem watch_settles [StrayOctets] (parser : Parser) :
    (∀ {σ : Type} (callback : List FilePath → Calling σ Unit) batches (state : σ),
      (Calling.GoOn callback (watchCalls batches) state →
        watch callback batches state =
          .ok () (Calling.reached callback (watchCalls batches) state)) ∧
      ∀ before paths later, watchCalls batches = before ++ paths :: later →
        Calling.GoOn callback before state →
        (callback paths).Stops (Calling.reached callback before state) →
          watch callback batches state =
            .error .stopped (Calling.reached callback (before ++ [paths]) state)) ∧
    (∀ batch, (watchedPaths batch).Nodup ∧
      ∀ path, path ∈ watchedPaths batch ↔ path ∈ batch ∧ path.isWatched = true) ∧
    (∀ {σ : Type} (store : Store σ) (property : σ → Prop),
      (∀ path content, path.isWatched = false → (store.write path content).Preserves property) →
        ∀ workingDirectory root path text language,
          (transform parser store workingDirectory root path text language).Preserves
            fun build => property build.store) ∧
    ∀ session, Session.Driven parser session →
      (∀ path ∈ session.writes, path.isWatched = false) ∧
      ∀ {σ : Type} (callback : List FilePath → Calling σ Unit) batch rest (state : σ),
        (∀ path ∈ batch, path ∈ session.writes) →
          watch callback (batch :: rest) state = watch callback rest state := by
  refine ⟨?_, ?_, ?_, ?_⟩
  · intro σ callback batches state
    exact ⟨watch_eq, fun before paths later => watch_of_stops⟩
  · intro batch
    exact ⟨nodup_watchedPaths batch, fun _ => mem_watchedPaths_iff⟩
  · intro σ store property keeps workingDirectory root path text language
    apply preserves_transform_of_unwatched
    intro written content unwatched
    exact Build.preserves_store (keeps written content unwatched)
  · intro session driven
    have unwatched : ∀ path ∈ session.writes, path.isWatched = false :=
      fun path => Session.isWatched_of_mem_writes driven
    refine ⟨unwatched, ?_⟩
    intro σ callback batch rest state areWritten
    exact watch_of_unwatched (fun path isPath => unwatched path (areWritten path isPath)) callback
      rest state

end ImportBoundary
