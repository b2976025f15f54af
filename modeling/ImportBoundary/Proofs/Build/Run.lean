import ImportBoundary.Boundary.Transform

/-!
Contract: builds driven by any calls in any order.

Owns the answer of an action and the state it leaves behind, the calls that an emitter serves, and
the build after a sequence of them. An emitter has no state of its own: emitters that share a
registry and a store are one build, whichever of them a call comes from.

Main statements: `writeIfChanged_cases` says everything that one write can do, and
`preserves_transform` that whatever writes preserve, transforms preserve, also those that fail
halfway.
-/

namespace ImportBoundary

variable {σ α β : Type}

namespace Action

/-- What an action answers. -/
def answer (action : Action σ α) (state : σ) : Except Failure α :=
  match action state with
  | .ok value _ => .ok value
  | .error failure _ => .error failure

/-- The state that an action leaves behind, whether it answers or fails. -/
def stateAfter (action : Action σ α) (state : σ) : σ :=
  match action state with
  | .ok _ after => after
  | .error _ after => after

/-- The action leads from states with the property to states with it. -/
def Preserves (property : σ → Prop) (action : Action σ α) : Prop :=
  ∀ state, property state → property (action.stateAfter state)

variable {property : σ → Prop}

theorem preserves_pure (value : α) : Preserves property (pure value : Action σ α) :=
  fun _ holds => holds

theorem preserves_ofExcept (answer : Except Failure α) :
    Preserves property (ofExcept answer : Action σ α) := by
  cases answer with
  | ok value => exact preserves_pure value
  | error failure => exact fun _ holds => holds

/-- What comes after an answer may rely on it. -/
theorem preserves_ofExcept_bind {answer : Except Failure α} {next : α → Action σ β}
    (second : ∀ value, answer = .ok value → Preserves property (next value)) :
    Preserves property (ofExcept answer >>= next) := by
  cases answer with
  | ok value => exact second value rfl
  | error failure => exact fun _ holds => holds

theorem preserves_bind {action : Action σ α} {next : α → Action σ β}
    (first : Preserves property action) (second : ∀ value, Preserves property (next value)) :
    Preserves property (action >>= next) := by
  intro state holds
  have reached := first state holds
  simp only [stateAfter, bind, EStateM.bind] at reached ⊢
  cases outcome : action state with
  | ok value after =>
      rw [outcome] at reached
      exact second value after reached
  | error failure after =>
      rw [outcome] at reached
      exact reached

/-- An action that answers with a value ends in the state that it leaves behind. -/
theorem eq_ok_of_answer {action : Action σ α} {state : σ}
    (answered : (action.answer state).isOk = true) :
    ∃ value, action state = .ok value (action.stateAfter state) := by
  unfold answer at answered
  unfold stateAfter
  cases outcome : action state with
  | ok value after => exact ⟨value, rfl⟩
  | error failure after =>
      rw [outcome] at answered
      cases answered

theorem eq_error_of_answer {action : Action σ α} {state : σ} {failure : Failure}
    (failed : action.answer state = .error failure) :
    action state = .error failure (action.stateAfter state) := by
  unfold answer at failed
  unfold stateAfter
  cases outcome : action state with
  | ok value after =>
      rw [outcome] at failed
      cases failed
  | error cause after =>
      rw [outcome] at failed
      cases failed
      rfl

/-- An answer that depends on no state leaves the state to what comes next. -/
theorem ofExcept_bind (answer : Except Failure α) (next : α → Action σ β) (state : σ) :
    (ofExcept answer >>= next) state =
      match answer with
      | .ok value => next value state
      | .error failure => .error failure state := by
  cases answer with
  | ok value => rfl
  | error failure => rfl

theorem ofExcept_eq_ok_iff {answer : Except Failure α} {state after : σ} {value : α} :
    (ofExcept answer : Action σ α) state = .ok value after ↔ answer = .ok value ∧ state = after := by
  cases answer with
  | ok other =>
      show EStateM.Result.ok other state = .ok value after ↔ _
      simp
  | error failure =>
      show EStateM.Result.error failure state = .ok value after ↔ _
      simp

theorem bind_apply (action : Action σ α) (next : α → Action σ β) (state : σ) :
    (action >>= next) state =
      match action state with
      | .ok value after => next value after
      | .error failure after => .error failure after := by
  simp only [bind, EStateM.bind]
  cases action state with
  | ok value after => rfl
  | error failure after => rfl

end Action

/-- What every path holds once one path is set. -/
theorem Registry.get?_put (registry : Registry) (path other : FilePath) (content : String) :
    (registry.put path content).get? other =
      if other = path then some content else registry.get? other := by
  by_cases same : other = path
  · rw [if_pos same, same, Registry.get?_put_self]
  · rw [if_neg same, Registry.get?_put_of_ne registry same]

namespace Build

/-- A build that has written nothing yet. -/
def fresh (store : σ) : Build σ :=
  ⟨Registry.empty, store⟩

/-- A write is skipped, taken, or refused; the registry records it exactly when it is taken. -/
theorem writeIfChanged_cases (store : Store σ) (path : FilePath) (content : String)
    (build : Build σ) :
    (build.registry.get? path = some content ∧
      writeIfChanged store path content build = .ok false build) ∨
    (build.registry.get? path ≠ some content ∧ ∃ written,
      store.write path content build.store = .ok () written ∧
      writeIfChanged store path content build =
        .ok true ⟨build.registry.put path content, written⟩) ∨
    (build.registry.get? path ≠ some content ∧ ∃ failure written,
      store.write path content build.store = .error failure written ∧
      writeIfChanged store path content build = .error failure ⟨build.registry, written⟩) := by
  by_cases known : build.registry.get? path = some content
  · exact .inl ⟨known, if_pos known⟩
  · right
    cases outcome : store.write path content build.store with
    | ok _ written =>
        exact .inl ⟨known, written, rfl, by rw [writeIfChanged, if_neg known, outcome]⟩
    | error failure written =>
        exact .inr ⟨known, failure, written, rfl, by rw [writeIfChanged, if_neg known, outcome]⟩

/-- A call that an emitter serves. The paths of a transform are seen from the working directory of
its moment. -/
inductive Call where
  | write (path : FilePath) (content : String)
  | emit (boundary : BoundaryModule)
  | transform (workingDirectory root path : FilePath) (text : String) (language : Option String)

/-- The build after a call, whether it answers or fails. -/
def afterCall [StrayOctets] (parser : Parser) (store : Store σ) (build : Build σ) : Call → Build σ
  | .write path content => (writeIfChanged store path content).stateAfter build
  | .emit boundary => (Build.emit store boundary).stateAfter build
  | .transform workingDirectory root path text language =>
      (ImportBoundary.transform parser store workingDirectory root path text language).stateAfter
        build

/-- The build after some calls in order. -/
def after [StrayOctets] (parser : Parser) (store : Store σ) (calls : List Call) (build : Build σ) :
    Build σ :=
  calls.foldl (afterCall parser store) build

end Build

/-! ## What writes preserve -/

section Preservation

variable {store : Store σ} {property : Build σ → Prop}

/-- What the emission of each module of a source preserves, the emission of all of them preserves. -/
theorem preserves_emitAll_of_emit {root : FilePath} {source : Source}
    (emits : ∀ parts boundary, source.boundaryOf root parts = .ok boundary →
      (Build.emit store boundary).Preserves property)
    (imports : List MarkedImport) : (emitAll store root source imports).Preserves property := by
  induction imports with
  | nil => exact Action.preserves_pure []
  | cons marked rest inductionHypothesis =>
      unfold emitAll
      apply Action.preserves_ofExcept_bind
      intro boundary made
      apply Action.preserves_bind (emits marked.parts boundary made)
      intro _
      apply Action.preserves_bind inductionHypothesis
      intro replacements
      exact Action.preserves_pure _

/-- What writes preserve, the emission of all modules of a source preserves. -/
theorem preserves_emitAll
    (writes : ∀ path content, (Build.writeIfChanged store path content).Preserves property)
    (root : FilePath) (source : Source) (imports : List MarkedImport) :
    (emitAll store root source imports).Preserves property :=
  preserves_emitAll_of_emit (fun _ boundary _ => writes boundary.path boundary.content) imports

variable [StrayOctets]

/-- What the emission of each module that a source can need preserves, a transform preserves. -/
theorem preserves_transform_of_emit {workingDirectory root : FilePath}
    (emits : ∀ (source : Source) parts boundary,
      source.boundaryOf (root.absolute workingDirectory) parts = .ok boundary →
        (Build.emit store boundary).Preserves property)
    (parser : Parser) (path : FilePath) (text : String) (language : Option String) :
    (transform parser store workingDirectory root path text language).Preserves property := by
  unfold transform
  refine Action.preserves_bind (Action.preserves_ofExcept _) ?_
  intro source
  refine Action.preserves_bind (Action.preserves_ofExcept _) ?_
  intro marked
  split
  · exact Action.preserves_pure text
  · refine Action.preserves_bind (Action.preserves_ofExcept _) ?_
    intro _
    apply Action.preserves_bind (preserves_emitAll_of_emit (emits source) marked)
    intro replacements
    exact Action.preserves_ofExcept _

/-- What writes preserve, a transform preserves. -/
theorem preserves_transform
    (writes : ∀ path content, (Build.writeIfChanged store path content).Preserves property)
    (parser : Parser) (workingDirectory root path : FilePath) (text : String)
    (language : Option String) :
    (transform parser store workingDirectory root path text language).Preserves property :=
  preserves_transform_of_emit (fun _ _ boundary _ => writes boundary.path boundary.content) parser
    path text language

/-- What writes preserve holds after any calls. -/
theorem Build.after_of_preserves
    (writes : ∀ path content, (Build.writeIfChanged store path content).Preserves property)
    (parser : Parser) (calls : List Build.Call) {build : Build σ} (holds : property build) :
    property (build.after parser store calls) := by
  induction calls generalizing build with
  | nil => exact holds
  | cons call rest inductionHypothesis =>
      apply inductionHypothesis
      cases call with
      | write path content => exact writes path content build holds
      | emit boundary => exact writes boundary.path boundary.content build holds
      | transform workingDirectory root path text language =>
          exact preserves_transform writes parser workingDirectory root path text language build
            holds

end Preservation

end ImportBoundary
