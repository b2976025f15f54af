import ImportBoundary.Proofs.Build.Emission

/-!
Contract: what a transform answers, told without a build.

Owns the answer as a function of the file, the working directory and the root of the project. A store
that takes every write leaves no trace in the answers: what was written before, by whatever calls,
decides which modules are written again, and nothing else.

Main statement: `answer_transform`.
-/

namespace ImportBoundary

variable {σ α β : Type}

/-- The answer of the second of two actions, once the first has answered. -/
theorem Action.answer_bind (action : Action σ α) (next : α → Action σ β) (state : σ) :
    (action >>= next).answer state =
      action.answer state >>= fun value => (next value).answer (action.stateAfter state) := by
  unfold answer stateAfter
  rw [bind_apply]
  cases action state with
  | ok value after => rfl
  | error failure after => rfl

theorem Action.answer_ofExcept (answer : Except Failure α) (state : σ) :
    (ofExcept answer : Action σ α).answer state = answer := by
  cases answer with
  | ok value => rfl
  | error failure => rfl

/-- A transform read as a function: prepare, make all modules, redirect. -/
def transformed [StrayOctets] (parser : Parser) (workingDirectory root path : FilePath) (text : String)
    (language : Option String) : Except Failure String := do
  let (source, imports) ← prepare parser workingDirectory path text language
  if imports.isEmpty then .ok text
  else
    let boundaries ← source.boundariesOf (root.absolute workingDirectory) imports
    source.redirect (source.replacements imports boundaries)

section Accepting

variable {store : Store σ}

theorem answer_emitAll (accepts : store.Accepts) (root : FilePath) (source : Source)
    (imports : List MarkedImport) (build : Build σ) :
    (emitAll store root source imports).answer build =
      (source.boundariesOf root imports).map (source.replacements imports) := by
  induction imports generalizing build with
  | nil => rfl
  | cons marked rest inductionHypothesis =>
      rw [emitAll, Action.answer_bind, Action.answer_ofExcept, Source.boundariesOf,
        List.mapM_cons]
      cases source.boundaryOf root marked.parts with
      | error failure => rfl
      | ok boundary =>
          rw [ok_bind, ok_bind, Action.answer_bind]
          -- The rest starts from another build, so the hypothesis has to hold from any.
          generalize (Action.ofExcept (.ok boundary)).stateAfter build = reached
          obtain ⟨written, emitted⟩ := Build.emit_of_accepts accepts boundary reached
          have emits : (Build.emit store boundary).answer reached = .ok written := by
            rw [Action.answer, emitted]
          rw [emits, ok_bind, Action.answer_bind, inductionHypothesis, Source.boundariesOf]
          cases rest.mapM fun marked => source.boundaryOf root marked.parts with
          | error failure => rfl
          | ok others => rfl

/-- A transform with a store that takes every write answers the same whatever was written before. -/
theorem answer_transform [StrayOctets] (accepts : store.Accepts) (parser : Parser)
    (workingDirectory root path : FilePath) (text : String) (language : Option String)
    (build : Build σ) :
    (transform parser store workingDirectory root path text language).answer build =
      transformed parser workingDirectory root path text language := by
  rw [Action.answer, transform_eq]
  unfold transformed
  cases prepare parser workingDirectory path text language with
  | error failure => rfl
  | ok found =>
      obtain ⟨source, imports⟩ := found
      cases imports with
      | nil => rfl
      | cons marked rest =>
          show (emitAll store (root.absolute workingDirectory) source (marked :: rest) >>=
            fun replacements => Action.ofExcept (source.redirect replacements)).answer build = _
          rw [Action.answer_bind, answer_emitAll accepts]
          show _ = source.boundariesOf (root.absolute workingDirectory) (marked :: rest) >>= _
          cases source.boundariesOf (root.absolute workingDirectory) (marked :: rest) with
          | error failure => rfl
          | ok boundaries => exact Action.answer_ofExcept _ _

end Accepting

end ImportBoundary
