import ImportBoundary.Syntax.Language
import ImportBoundary.Boundary.Registry

/-!
Contract: batches of changed files handed on to a callback.

Owns `isWatched`, the files whose changes matter, and `watch`, which calls back once for each batch
that holds such a file. A call that fails stops neither the batch after it nor the loop. A call that is
itself stopped stops the loop.
-/

namespace ImportBoundary

/-- Whether a change of a file matters: it is a source of the project, and not a generated one. -/
def FilePath.isWatched (path : FilePath) : Bool :=
  path.isProjectSource && !path.names.contains generatedDirectory

def watchedPaths (batch : List FilePath) : List FilePath :=
  (batch.filter FilePath.isWatched).eraseDups

/-- Why a call does not come to its end: it has failed, or it is stopped from outside, because its task
is cancelled, or the program is interrupted or told to exit. -/
inductive CallEnd where
  | failed (failure : Failure)
  | stopped
deriving DecidableEq, Repr

/-- A call on a state. However it ends, the changes that it has made are kept. -/
abbrev Calling (σ α : Type) : Type := EStateM CallEnd σ α

/-- A call whose failure is passed over. One that is stopped stops whatever has made it. -/
def Calling.passOver {σ : Type} (call : Calling σ Unit) : Calling σ Unit := fun state =>
  match call state with
  | .ok _ after => .ok () after
  | .error (.failed _) after => .ok () after
  | .error .stopped after => .error .stopped after

/-- Call back with the watched files of each batch that has any. -/
def watch {σ : Type} (callback : List FilePath → Calling σ Unit) :
    List (List FilePath) → Calling σ Unit
  | [] => pure ()
  | batch :: rest => do
    let paths := watchedPaths batch
    if !paths.isEmpty then (callback paths).passOver
    watch callback rest

end ImportBoundary
