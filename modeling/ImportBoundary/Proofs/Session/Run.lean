import ImportBoundary.Session.Basic
import ImportBoundary.Proofs.Session.Cache

/-!
Contract: sessions that keep their modules in memory, driven by any calls while the disk changes.

Owns the calls that a session serves, the sessions that they lead to, also where they fail, and what
all such sessions have in common: the disk is as it was put under them, the root is the one they began
with, and what their programs have read is what some disk held.

Main statements: `preserves_afterCall`, by which an invariant of transforms and of the program is one
of every call, and `Reached.sound`.
-/

namespace ImportBoundary

variable {σ α : Type} {parser : Parser} {disk : Disk} {past : List Disk} {root : FilePath}

namespace Program

theorem preserves_load (file : String) :
    (load parser disk file).Preserves (ReadFrom parser (disk :: past)) :=
  fun _ readFrom => readFrom.load file

theorem preserves_loadAll (files : List FilePath) :
    (loadAll parser disk files).Preserves (ReadFrom parser (disk :: past)) := by
  induction files with
  | nil => exact Action.preserves_pure []
  | cons file rest inductionHypothesis =>
      apply Action.preserves_bind (preserves_load file.text)
      intro reading
      apply Action.preserves_bind inductionHypothesis
      intro others
      exact Action.preserves_pure _

theorem preserves_syntaxDiagnostics (file : String) :
    (syntaxDiagnostics parser disk file).Preserves (ReadFrom parser (disk :: past)) := by
  apply Action.preserves_bind (preserves_load file)
  intro reading
  cases reading with
  | none => exact Action.preserves_pure []
  | some reading => exact Action.preserves_pure _

theorem preserves_propDiagnostics (lookup : TypeLookup) (file : String) :
    (propDiagnostics parser lookup disk file).Preserves (ReadFrom parser (disk :: past)) := by
  apply Action.preserves_bind (preserves_load file)
  intro reading
  exact Action.preserves_pure _

end Program

/-- Modules that are kept in memory leave the disk alone. -/
theorem Shelves.preserves_disk (path : FilePath) (content : String) :
    (Build.writeIfChanged (Shelves.store .inMemory) path content).Preserves
      fun build => build.store.disk = disk := by
  intro build isDisk
  unfold Action.stateAfter
  rcases Build.writeIfChanged_cases (Shelves.store .inMemory) path content build with
    ⟨_, skipped⟩ | ⟨_, written, taken, answered⟩ | ⟨_, failure, written, refused, _⟩
  · rw [skipped]
    exact isDisk
  · cases taken
    rw [answered]
    exact isDisk
  · cases refused

namespace Session

/-- What a session in memory is, whatever it has done so far. -/
structure Sound (parser : Parser) (disk : Disk) (past : List Disk) (root : FilePath)
    (session : Session) : Prop where
  keeping : session.keeping = .inMemory
  onDisk : session.disk = disk
  root : session.root = root
  readFrom : session.program.ReadFrom parser (disk :: past)

/-! ## What single calls preserve -/

section Calls

theorem preserves_onProgram {action : Disk → Action Program α}
    (keeps : (action disk).Preserves (Program.ReadFrom parser (disk :: past))) :
    (onProgram action).Preserves (Sound parser disk past root) := by
  intro session sound
  have kept := keeps session.program sound.readFrom
  unfold Action.stateAfter at *
  unfold onProgram
  rw [sound.onDisk]
  cases outcome : action disk session.program with
  | ok answer program =>
      rw [outcome] at kept
      exact ⟨sound.keeping, sound.onDisk, sound.root, kept⟩
  | error failure program =>
      rw [outcome] at kept
      exact ⟨sound.keeping, sound.onDisk, sound.root, kept⟩

theorem preserves_check (path : FilePath) :
    (check parser path).Preserves (Sound parser disk past root) :=
  preserves_onProgram (Program.preserves_propDiagnostics Source.typeAt path.text)

theorem preserves_transformText [StrayOctets] (path : FilePath) (text : String) :
    (transformText parser path text).Preserves (Sound parser disk past root) := by
  intro session sound
  have kept := preserves_transform Shelves.preserves_disk parser session.disk.here session.root path
    text none session.build sound.onDisk
  unfold Action.stateAfter at *
  unfold transformText
  rw [sound.keeping]
  cases outcome : transform parser (Shelves.store .inMemory) session.disk.here session.root path text
      none session.build with
  | ok answer build =>
      rw [outcome] at kept
      exact ⟨rfl, kept, sound.root, sound.readFrom⟩
  | error failure build =>
      rw [outcome] at kept
      exact ⟨rfl, kept, sound.root, sound.readFrom⟩

end Calls

/-! ## What calls made of such calls preserve -/

/-- Reading a text leaves the session as it is. -/
theorem stateAfter_readText (path : FilePath) (session : Session) :
    (readText path).stateAfter session = session := by
  unfold Action.stateAfter readText
  cases session.disk.readText path with
  | ok text => rfl
  | error failure => rfl

theorem preserves_readText {property : Session → Prop} (path : FilePath) :
    (readText path).Preserves property := by
  intro session holds
  rw [stateAfter_readText]
  exact holds

variable [StrayOctets]

/-- Whether the transform of a file changes its text. -/
def changes (parser : Parser) (path : FilePath) : Action Session Bool := do
  let text ← readText path
  let transformed ← transformText parser path text
  pure (transformed != text)

theorem attempt_eq (parser : Parser) (path : FilePath) (session : Session) :
    attempt parser path session =
      match changes parser path session with
      | .ok changed after => .ok (.ok changed) after
      | .error failure after =>
        if failure.concernsFile then .ok (.error failure) after else .error failure after :=
  rfl

section Composed

variable {property : Session → Prop}
  (texts : ∀ path text, (transformText parser path text).Preserves property)
include texts

theorem preserves_transformFile (path : FilePath) :
    (transformFile parser path).Preserves property :=
  Action.preserves_bind (preserves_readText path) fun text => texts path text

theorem preserves_attempt (path : FilePath) : (attempt parser path).Preserves property := by
  intro session holds
  have reads : (readText path).Preserves property := preserves_readText path
  have compares : (changes parser path).Preserves property := by
    apply Action.preserves_bind reads
    intro text
    apply Action.preserves_bind (texts path text)
    intro transformed
    exact Action.preserves_pure _
  have kept := compares session holds
  unfold Action.stateAfter at *
  rw [attempt_eq]
  cases outcome : changes parser path session with
  | ok changed after =>
      rw [outcome] at kept
      exact kept
  | error failure after =>
      rw [outcome] at kept
      dsimp only
      cases failure.concernsFile with
      | true => exact kept
      | false => exact kept

variable (checks : ∀ path, (check parser path).Preserves property)
include checks

theorem preserves_process (path : FilePath) : (process parser path).Preserves property := by
  unfold process
  split
  · exact Action.preserves_pure _
  · apply Action.preserves_bind (preserves_attempt texts path)
    intro outcome
    cases outcome with
    | error failure => exact Action.preserves_pure _
    | ok changed =>
        apply Action.preserves_bind (checks path)
        intro found
        exact Action.preserves_pure _

theorem preserves_processEach (paths : List FilePath) :
    (processEach parser paths).Preserves property := by
  induction paths with
  | nil => exact Action.preserves_pure []
  | cons path rest inductionHypothesis =>
      apply Action.preserves_bind (preserves_process texts checks path)
      intro report
      apply Action.preserves_bind inductionHypothesis
      intro others
      exact Action.preserves_pure _

theorem preserves_processAll (paths : List FilePath) :
    (processAll parser paths).Preserves property :=
  preserves_processEach texts checks _

end Composed

/-! ## Runs of calls on a changing disk -/

/-- A call that a session serves. -/
inductive Call where
  | transformText (path : FilePath) (text : String)
  | transformFile (path : FilePath)
  | check (path : FilePath)
  | syntaxDiagnostics (file : String)
  | load (file : String)
  | loadAll
  | process (path : FilePath)
  | processAll (paths : List FilePath)

/-- The session after a call, whether it answers or fails. -/
def afterCall (parser : Parser) (session : Session) : Call → Session
  | .transformText path text => (Session.transformText parser path text).stateAfter session
  | .transformFile path => (Session.transformFile parser path).stateAfter session
  | .check path => (Session.check parser path).stateAfter session
  | .syntaxDiagnostics file =>
      (onProgram fun disk => Program.syntaxDiagnostics parser disk file).stateAfter session
  | .load file => (onProgram fun disk => Program.load parser disk file).stateAfter session
  | .loadAll =>
      (onProgram fun disk => Program.loadAll parser disk session.program.rootFiles).stateAfter
        session
  | .process path => (Session.process parser path).stateAfter session
  | .processAll paths => (Session.processAll parser paths).stateAfter session

/-- The sessions in memory that calls can lead to, also calls that fail, while each new disk renews the
one before. The disks come newest first. -/
inductive Reached (parser : Parser) : List Disk → Session → Prop
  | start (disk : Disk) (root : FilePath) (files : List FilePath) :
      Reached parser [disk] (Session.start disk root .inMemory files)
  | change {disk present : Disk} {past : List Disk} {session : Session}
      (reached : Reached parser (present :: past) session) (renews : disk.Renews present past) :
      Reached parser (disk :: present :: past) (session.withDisk disk)
  | call {history : List Disk} {session : Session} (reached : Reached parser history session)
      (call : Call) : Reached parser history (session.afterCall parser call)

/-- What transforms preserve, and every use of the program that keeps what was read from some disks,
all calls preserve. -/
theorem preserves_afterCall {property : Session → Prop}
    (texts : ∀ path text, (transformText parser path text).Preserves property)
    (programs : ∀ {α : Type} (action : Disk → Action Program α),
      (∀ disk past, (action disk).Preserves (Program.ReadFrom parser (disk :: past))) →
        (onProgram action).Preserves property)
    (call : Call) {session : Session} (holds : property session) :
    property (session.afterCall parser call) := by
  have checks : ∀ path, (check parser path).Preserves property := fun path =>
    programs _ fun _ _ => Program.preserves_propDiagnostics Source.typeAt path.text
  cases call with
  | transformText path text => exact texts path text session holds
  | transformFile path => exact preserves_transformFile texts path session holds
  | check path => exact checks path session holds
  | syntaxDiagnostics file =>
      exact programs (fun disk => Program.syntaxDiagnostics parser disk file)
        (fun _ _ => Program.preserves_syntaxDiagnostics file) session holds
  | load file =>
      exact programs (fun disk => Program.load parser disk file)
        (fun _ _ => Program.preserves_load file) session holds
  | loadAll =>
      exact programs (fun disk => Program.loadAll parser disk session.program.rootFiles)
        (fun _ _ => Program.preserves_loadAll session.program.rootFiles) session holds
  | process path => exact preserves_process texts checks path session holds
  | processAll paths => exact preserves_processAll texts checks paths session holds

theorem Sound.afterCall {session : Session} (sound : Sound parser disk past root session)
    (call : Call) : Sound parser disk past root (session.afterCall parser call) :=
  preserves_afterCall preserves_transformText
    (fun _ keeps => preserves_onProgram (keeps disk past)) call sound

/-- Whatever calls lead to a session, and however the disk has changed, the session is sound. -/
theorem Reached.sound {history : List Disk} {session : Session}
    (reached : Reached parser history session) :
    ∃ disk past, history = disk :: past ∧ Sound parser disk past session.root session ∧
      disk.ToldByTime (disk :: past) ∧ session.root.isAbsolute = true := by
  induction reached with
  | start disk root files =>
      refine ⟨disk, [], rfl, ⟨rfl, rfl, rfl, ?_⟩, disk.toldByTime_self, ?_⟩
      · exact Program.readFrom_ofFiles files
      · exact root.isAbsolute_absolute disk.isAbsolute_here
  | change _ renews inductionHypothesis =>
      rename_i disk present past session _
      -- A new disk makes no reading stale: each was read from a disk that is still in the history.
      obtain ⟨_, _, ⟨⟩, sound, told, isAbsolute⟩ := inductionHypothesis
      refine ⟨disk, present :: past, rfl, ⟨sound.keeping, rfl, rfl, ?_⟩, told.renewed renews,
        isAbsolute⟩
      exact sound.readFrom.cons disk
  | call _ call inductionHypothesis =>
      obtain ⟨disk, past, isHistory, sound, told, isAbsolute⟩ := inductionHypothesis
      have after := sound.afterCall call
      refine ⟨disk, past, isHistory, ?_, told, ?_⟩
      · rw [after.root]
        exact after
      · rw [after.root]
        exact isAbsolute

end Session

end ImportBoundary
