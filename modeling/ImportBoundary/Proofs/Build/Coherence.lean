import ImportBoundary.Proofs.Build.Stores
import Mathlib.Data.List.Chain

/-!
Contract: what the registry of a build says about the store it writes to.

Owns the journal of the writes that a store was asked for, and the coherence of registry and journal:
a registered text is the last one that the store took for its path, and no text is taken twice in a
row for one path. That much is so for every store.

What a store holds for a path is read back where it keeps its contract for the paths of the run: a
registered text is the one held there, unless the last write to the path was refused by a store that
does not leave refused paths alone. The order in which a write and its registration happen carries the
proof: the registry follows the store, so a refused write leaves it behind unchanged.
-/

namespace ImportBoundary

variable {σ : Type}

/-- A write that a store was asked for, and whether the store took it. -/
structure Attempt where
  path : FilePath
  content : String
  taken : Bool
deriving DecidableEq

/-- The state of a store, and the writes it was asked for in order. -/
structure Journal (σ : Type) where
  store : σ
  attempts : List Attempt

namespace Journal

/-- The writes to a path, in order. -/
def attemptsAt (journal : Journal σ) (path : FilePath) : List Attempt :=
  journal.attempts.filter fun attempt => attempt.path = path

/-- The texts that the store took for a path, in order. -/
def textsOf (journal : Journal σ) (path : FilePath) : List String :=
  ((journal.attemptsAt path).filter Attempt.taken).map Attempt.content

/-- The last write to a path was not refused. -/
def IsSettled (journal : Journal σ) (path : FilePath) : Prop :=
  ∀ attempt, (journal.attemptsAt path).getLast? = some attempt → attempt.taken = true

end Journal

/-- The store that keeps a journal of what it was asked for. -/
def Store.journaled (store : Store σ) : Store (Journal σ) where
  write path content := fun journal =>
    match store.write path content journal.store with
    | .ok _ after => .ok () ⟨after, journal.attempts ++ [⟨path, content, true⟩]⟩
    | .error failure after =>
        .error failure ⟨after, journal.attempts ++ [⟨path, content, false⟩]⟩

namespace Build

/-- What the registry of a build says about its journal. -/
structure Coherent (build : Build (Journal σ)) : Prop where
  registered_eq_last : ∀ path, build.registry.get? path = (build.store.textsOf path).getLast?
  never_repeats : ∀ path, (build.store.textsOf path).IsChain (· ≠ ·)

/-- What a write of a text to a path does to a build. -/
structure WritesOnChange (store : Store σ) (build : Build (Journal σ)) (path : FilePath)
    (content : String) : Prop where
  skipped_iff : (writeIfChanged store.journaled path content).answer build = .ok false ↔
    build.registry.get? path = some content
  unchanged_of_skipped : (writeIfChanged store.journaled path content).answer build = .ok false →
    (writeIfChanged store.journaled path content).stateAfter build = build
  written_of_taken : (writeIfChanged store.journaled path content).answer build = .ok true →
    let after := (writeIfChanged store.journaled path content).stateAfter build
    after.store.attempts = build.store.attempts ++ [⟨path, content, true⟩] ∧
      store.write path content build.store.store = .ok () after.store.store ∧
      ∀ other, after.registry.get? other =
        if other = path then some content else build.registry.get? other
  /-- The last part says that the next call asks the store again. -/
  retried_of_refused : ∀ failure,
    (writeIfChanged store.journaled path content).answer build = .error failure →
    let after := (writeIfChanged store.journaled path content).stateAfter build
    after.registry = build.registry ∧
      after.store.attempts = build.store.attempts ++ [⟨path, content, false⟩] ∧
      (writeIfChanged store.journaled path content).answer after =
        ((store.write path content).answer after.store.store).map fun _ => true

/-- What a build can read back from its store, of the texts held for the paths that the store keeps
apart. -/
structure ReadsBack (store : Store σ) (held : σ → FilePath → Option String)
    (among : FilePath → Prop) (build : Build (Journal σ)) : Prop where
  held_of_registered : ∀ path content, build.registry.get? path = some content →
    build.store.IsSettled path ∨ store.Spares held among →
    held build.store.store path = some content
  held_of_taken : ∀ path content, among path →
    (writeIfChanged store.journaled path content).answer build = .ok true → ∀ other, among other →
    held ((writeIfChanged store.journaled path content).stateAfter build).store.store other =
      if other = path then some content else held build.store.store other
  held_of_refused : ∀ path content failure, among path →
    (writeIfChanged store.journaled path content).answer build = .error failure →
    ∀ other, among other → other ≠ path ∨ store.Spares held among →
    held ((writeIfChanged store.journaled path content).stateAfter build).store.store other =
      held build.store.store other

end Build

/-! ## The journal -/

namespace Journal

variable {journal after : Journal σ} {attempt : Attempt}

theorem attemptsAt_of_append (appended : after.attempts = journal.attempts ++ [attempt])
    (path : FilePath) :
    after.attemptsAt path =
      journal.attemptsAt path ++ if attempt.path = path then [attempt] else [] := by
  unfold attemptsAt
  rw [appended, List.filter_append, List.filter_singleton]
  by_cases same : attempt.path = path <;> simp [same]

theorem textsOf_of_append (appended : after.attempts = journal.attempts ++ [attempt])
    (path : FilePath) :
    after.textsOf path = journal.textsOf path ++
      if attempt.path = path ∧ attempt.taken = true then [attempt.content] else [] := by
  unfold textsOf
  rw [attemptsAt_of_append appended, List.filter_append, List.map_append]
  by_cases same : attempt.path = path <;> cases isTaken : attempt.taken <;> simp [same, isTaken]

/-- A write to one path settles no other. -/
theorem isSettled_of_append (appended : after.attempts = journal.attempts ++ [attempt])
    {path : FilePath} (different : path ≠ attempt.path) (settled : after.IsSettled path) :
    journal.IsSettled path := by
  unfold IsSettled at settled ⊢
  rwa [attemptsAt_of_append appended, if_neg different.symm, List.append_nil] at settled

theorem not_isSettled_of_refused (appended : after.attempts = journal.attempts ++ [attempt])
    (refused : attempt.taken = false) : ¬ after.IsSettled attempt.path := by
  intro settled
  have isTaken := settled attempt (by
    rw [attemptsAt_of_append appended, if_pos rfl, List.getLast?_concat])
  rw [refused] at isTaken
  cases isTaken

/-- A text that was taken for a path was asked for there. -/
theorem exists_attempt_of_mem_textsOf {path : FilePath} {content : String}
    (member : content ∈ journal.textsOf path) : ∃ attempt ∈ journal.attempts, attempt.path = path := by
  obtain ⟨attempt, isTaken, _⟩ := List.mem_map.mp member
  obtain ⟨isAttempt, isHere⟩ := List.mem_filter.mp (List.mem_filter.mp isTaken).1
  exact ⟨attempt, isAttempt, of_decide_eq_true isHere⟩

end Journal

/-- The journal follows a write that the store takes. -/
theorem journaled_taken {store : Store σ} {path : FilePath} {content : String}
    {journal after : Journal σ}
    (taken : store.journaled.write path content journal = .ok () after) :
    store.write path content journal.store = .ok () after.store ∧
      after.attempts = journal.attempts ++ [⟨path, content, true⟩] := by
  simp only [Store.journaled] at taken
  cases outcome : store.write path content journal.store with
  | ok _ written =>
      rw [outcome] at taken
      cases taken
      exact ⟨rfl, rfl⟩
  | error failure written =>
      rw [outcome] at taken
      cases taken

/-- The journal follows a write that the store refuses. -/
theorem journaled_refused {store : Store σ} {path : FilePath} {content : String}
    {journal after : Journal σ} {failure : Failure}
    (refused : store.journaled.write path content journal = .error failure after) :
    store.write path content journal.store = .error failure after.store ∧
      after.attempts = journal.attempts ++ [⟨path, content, false⟩] := by
  simp only [Store.journaled] at refused
  cases outcome : store.write path content journal.store with
  | ok _ written =>
      rw [outcome] at refused
      cases refused
  | error cause written =>
      rw [outcome] at refused
      cases refused
      exact ⟨rfl, rfl⟩

/-! ## Registry and store -/

/-- Every text that is registered for one of some paths is the one that the store holds there. -/
def Mirrored (held : σ → FilePath → Option String) (settled : FilePath → Prop) (registry : Registry)
    (state : σ) : Prop :=
  ∀ path content, registry.get? path = some content → settled path →
    held state path = some content

namespace Mirrored

variable {store : Store σ} {held : σ → FilePath → Option String}
  {among settled afterwards : FilePath → Prop} {registry : Registry} {state after : σ}
  {path : FilePath} {content : String}

theorem empty (held : σ → FilePath → Option String) (settled : FilePath → Prop) (state : σ) :
    Mirrored held settled Registry.empty state := by
  intro path content registered
  cases registered

theorem taken (mirrored : Mirrored held settled registry state) (faithful : store.Faithful held among)
    (isAmong : among path) (accepted : store.write path content state = .ok () after)
    (apart : ∀ other, afterwards other → among other)
    (before : ∀ other, other ≠ path → afterwards other → settled other) :
    Mirrored held afterwards (registry.put path content) after := by
  intro other text registered isSettled
  rw [Registry.get?_put] at registered
  rw [faithful.held_of_taken isAmong accepted other (apart other isSettled)]
  by_cases same : other = path
  · rw [if_pos same] at registered ⊢
    exact registered
  · rw [if_neg same] at registered ⊢
    exact mirrored other text registered (before other same isSettled)

theorem refused {failure : Failure} (mirrored : Mirrored held settled registry state)
    (faithful : store.Faithful held among) (isAmong : among path)
    (rejected : store.write path content state = .error failure after)
    (apart : ∀ other, afterwards other → among other)
    (before : ∀ other, afterwards other → settled other)
    (spares : afterwards path → store.Spares held among) :
    Mirrored held afterwards registry after := by
  intro other text registered isSettled
  rw [← mirrored other text registered (before other isSettled)]
  by_cases same : other = path
  · subst same
    exact spares isSettled isAmong rejected
  · exact faithful.held_of_refused isAmong rejected other (apart other isSettled) same

end Mirrored

namespace Build

variable {store : Store σ} {held : σ → FilePath → Option String} {among : FilePath → Prop}

/-- A write that answers keeps what is registered in the store. -/
theorem mirrored_of_write {build after : Build σ} {path : FilePath} {content : String}
    {isWritten : Bool} (faithful : store.Faithful held among) (isAmong : among path)
    (answered : writeIfChanged store path content build = .ok isWritten after)
    (mirrored : Mirrored held among build.registry build.store) :
    Mirrored held among after.registry after.store := by
  rcases writeIfChanged_cases store path content build with
    ⟨_, skipped⟩ | ⟨_, written, accepted, taken⟩ | ⟨_, failure, written, _, refused⟩
  · cases skipped.symm.trans answered
    exact mirrored
  · cases taken.symm.trans answered
    exact mirrored.taken faithful isAmong accepted (fun _ => id) fun _ _ => id
  · cases refused.symm.trans answered

/-! ## Coherence -/

/-- Nothing is registered and nothing is asked for at first. -/
theorem coherent_fresh (initial : σ) : Coherent (fresh ⟨initial, []⟩) where
  registered_eq_last _ := rfl
  never_repeats _ := List.isChain_nil

/-- A write leads from coherent builds to coherent builds. The registered text of a path is the last
one in its journal, so a text that is written differs from the one before it. -/
theorem preserves_coherent (store : Store σ) (path : FilePath) (content : String) :
    (writeIfChanged store.journaled path content).Preserves Coherent := by
  intro build coherent
  rcases writeIfChanged_cases store.journaled path content build with
    ⟨_, skipped⟩ | ⟨changed, written, outcome, taken⟩ | ⟨_, failure, written, outcome, refused⟩
  · simp only [Action.stateAfter, skipped]
    exact coherent
  · simp only [Action.stateAfter, taken]
    have texts := Journal.textsOf_of_append (journaled_taken outcome).2
    simp only [and_true] at texts
    -- A text is written only if it differs from the registered one, which is the last in the journal.
    constructor
    · intro other
      simp only [Registry.get?_put, texts other]
      by_cases same : other = path
      · simp [same]
      · simp [same, Ne.symm same, coherent.registered_eq_last other]
    · intro other
      simp only [texts other]
      by_cases same : path = other
      · subst same
        rw [if_pos rfl]
        refine (coherent.never_repeats path).append (List.isChain_singleton content) ?_
        intro last isLast next isNext
        rw [← coherent.registered_eq_last path] at isLast
        have isContent : content = next := by simpa using isNext
        intro equal
        rw [equal, ← isContent] at isLast
        exact changed isLast
      · rw [if_neg same, List.append_nil]
        exact coherent.never_repeats other
  · simp only [Action.stateAfter, refused]
    have texts : ∀ other, written.textsOf other = build.store.textsOf other := by
      intro other
      rw [Journal.textsOf_of_append (journaled_refused outcome).2]
      simp
    constructor
    · intro other
      rw [texts other]
      exact coherent.registered_eq_last other
    · intro other
      rw [texts other]
      exact coherent.never_repeats other

/-! ## One write -/

/-- What one write does, at any build. -/
theorem writesOnChange (store : Store σ) (build : Build (Journal σ)) (path : FilePath)
    (content : String) : WritesOnChange store build path content := by
  rcases writeIfChanged_cases store.journaled path content build with
    ⟨known, skipped⟩ | ⟨changed, written, outcome, taken⟩ | ⟨changed, failure, written, outcome,
      refused⟩
  · constructor <;> simp [Action.answer, Action.stateAfter, skipped, known]
  · obtain ⟨accepted, journal⟩ := journaled_taken outcome
    constructor
    · simp [Action.answer, taken, changed]
    · simp [Action.answer, taken]
    · intro _
      simp only [Action.stateAfter, taken]
      exact ⟨journal, accepted, fun other => Registry.get?_put build.registry path other content⟩
    · simp [Action.answer, taken]
  · obtain ⟨_, journal⟩ := journaled_refused outcome
    constructor
    · simp [Action.answer, refused, changed]
    · simp [Action.answer, refused]
    · simp [Action.answer, refused]
    · intro _ _
      simp only [Action.stateAfter, refused]
      refine ⟨trivial, journal, ?_⟩
      simp only [Action.answer, writeIfChanged, if_neg changed, Store.journaled]
      cases store.write path content written.store <;> rfl

/-! ## Reading back -/

/-- The paths that are read back: those the store keeps apart, and on which it is not known to have
refused the last write or leaves refused paths alone. -/
def IsLegible (store : Store σ) (held : σ → FilePath → Option String) (among : FilePath → Prop)
    (journal : Journal σ) (path : FilePath) : Prop :=
  among path ∧ (journal.IsSettled path ∨ store.Spares held among)

/-- What is registered is held, provided that every write so far went to a path that the store keeps
apart. -/
def MirroredAmong (store : Store σ) (held : σ → FilePath → Option String)
    (among : FilePath → Prop) (build : Build (Journal σ)) : Prop :=
  (∀ attempt ∈ build.store.attempts, among attempt.path) →
    Mirrored held (IsLegible store held among build.store) build.registry build.store.store

theorem preserves_mirroredAmong (faithful : store.Faithful held among) (path : FilePath)
    (content : String) :
    (writeIfChanged store.journaled path content).Preserves
      (MirroredAmong store held among) := by
  intro build mirrored
  rcases writeIfChanged_cases store.journaled path content build with
    ⟨_, skipped⟩ | ⟨_, written, outcome, taken⟩ | ⟨_, failure, written, outcome, refused⟩
  · simp only [Action.stateAfter, skipped]
    exact mirrored
  · simp only [Action.stateAfter, taken]
    obtain ⟨accepted, journal⟩ := journaled_taken outcome
    intro areAmong
    simp only [journal, List.forall_mem_append, List.forall_mem_singleton] at areAmong
    refine (mirrored areAmong.1).taken faithful areAmong.2 accepted (fun _ => And.left) ?_
    rintro other different ⟨isAmong, legible⟩
    exact ⟨isAmong, legible.imp_left (Journal.isSettled_of_append journal different)⟩
  · simp only [Action.stateAfter, refused]
    obtain ⟨rejected, journal⟩ := journaled_refused outcome
    intro areAmong
    simp only [journal, List.forall_mem_append, List.forall_mem_singleton] at areAmong
    have spared : IsLegible store held among written path → store.Spares held among :=
      fun isLegible => isLegible.2.resolve_left (Journal.not_isSettled_of_refused journal rfl)
    refine (mirrored areAmong.1).refused faithful areAmong.2 rejected (fun _ => And.left) ?_ spared
    intro other isLegible
    by_cases same : other = path
    · subst same
      exact ⟨isLegible.1, .inr (spared isLegible)⟩
    · exact ⟨isLegible.1, isLegible.2.imp_left (Journal.isSettled_of_append journal same)⟩

/-- A coherent build reads back what it has registered, and what each further write does. -/
theorem readsBack (faithful : store.Faithful held among) {build : Build (Journal σ)}
    (coherent : Coherent build) (mirrored : MirroredAmong store held among build)
    (areAmong : ∀ attempt ∈ build.store.attempts, among attempt.path) :
    ReadsBack store held among build where
  held_of_registered path content registered legible := by
    rw [coherent.registered_eq_last] at registered
    obtain ⟨attempt, isAttempt, rfl⟩ :=
      Journal.exists_attempt_of_mem_textsOf (List.mem_of_getLast? registered)
    rw [← coherent.registered_eq_last] at registered
    exact mirrored areAmong _ content registered ⟨areAmong attempt isAttempt, legible⟩
  held_of_taken path content isAmong answered other isOther :=
    faithful.held_of_taken isAmong
      ((writesOnChange store build path content).written_of_taken answered).2.1 other isOther
  held_of_refused path content failure isAmong answered other isOther unharmed := by
    rcases writeIfChanged_cases store.journaled path content build with
      ⟨_, skipped⟩ | ⟨_, written, _, taken⟩ | ⟨_, cause, written, outcome, refused⟩
    · simp [Action.answer, skipped] at answered
    · simp [Action.answer, taken] at answered
    · simp only [Action.stateAfter, refused]
      have rejected := (journaled_refused outcome).1
      by_cases same : other = path
      · subst same
        exact unharmed.resolve_left (absurd rfl) isAmong rejected
      · exact faithful.held_of_refused isAmong rejected other isOther same

/-! ## Any run -/

end Build

/-! ## Two runs with refused writes -/

section Examples

attribute [local instance] StrayOctets.privateUse

/-- A shelf without room for empty modules. It empties their place before it finds out. -/
def shelfWithoutEmpty : Store Shelf :=
  Shelf.tearing fun _ content => if content = "" then some .nullInPath else none

/-- A run with a refused write and a transform that fails. -/
def runWithFailures : Build (Journal Shelf) :=
  let path : FilePath := ⟨.root, ["module.js"]⟩
  let root : FilePath := ⟨.root, []⟩
  (Build.fresh ⟨Shelf.empty, []⟩).after (fun _ _ => default) shelfWithoutEmpty.journaled
    [.write path "first", .write path "", .transform root root ⟨.none, ["style.css"]⟩ "" none,
      .write path "first", .write path "second"]

/-- A run on the disk, with a write below a file. -/
def runOnDisk : Build (Journal Disk) :=
  let path : FilePath := ⟨.root, ["module.js"]⟩
  (Build.fresh ⟨⟨⟨[], 0⟩, []⟩, []⟩).after (fun _ _ => default) Disk.store.journaled
    [.write path "first", .write ⟨.root, ["module.js", "inner.js"]⟩ "", .write path "second"]

end Examples

end ImportBoundary
