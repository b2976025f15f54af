import ImportBoundary.Proofs.Console.Ending
import Mathlib.Data.List.Basic

/-!
Contract: what becomes of the settings file of a project, whatever stands at its path.

Owns the three ways in which loading can end, each told by the file alone: the settings that it
writes (`Tells`), an objection to it (`Objects`), or a failure that says nothing of settings
(`Escapes`). The command `check` answers an objection with a line about it; what escapes ends it. An
objection to wrong fields is in the wording of whatever validates them, which may be any.

Main statement: `loadSettings_outcomes`.
-/

namespace ImportBoundary

namespace Project

/-- The texts that a field of a document lists: none if there is no such field. -/
def Lists (document : Json.Value) (field : String) (texts : List String) : Prop :=
  (document.member? field = none ∧ texts = []) ∨
    document.member? field = some (.list (texts.map .text))

/-- What is wrong with the fields of a document. -/
def fieldFaults (document : Json.Value) : List FieldFault :=
  (readField document "files").1 ++ (readField document "include").1 ++
    (readField document "exclude").1

/-- A settings file writes these settings: its octets are a text, the text is a JSON object, and each
of the three fields lists texts. -/
structure Tells (disk : Disk) (path : FilePath) (settings : Settings) : Prop where
  samePath : settings.path = path
  sameRoot : settings.root = path.parent
  fields : ∃ text members, disk.readText path = .ok text ∧
    Json.read (Json.plain text) = .ok (.object members) ∧
    Lists (.object members) "files" settings.files ∧
    Lists (.object members) "include" settings.includes ∧
    Lists (.object members) "exclude" settings.excludes

/-- What there is to object to at the path of a settings file. -/
inductive Objects (wording : FieldWording) (disk : Disk) (path : FilePath) :
    SettingsFault → Prop where
  | unreadable {fault : FileFault} (refused : disk.readOctets path = .error (.refused fault)) :
      Objects wording disk path (.unreadable fault)
  | malformed {text : String} {fault : Json.Fault} (held : disk.readText path = .ok text)
      (wrong : Json.read (Json.plain text) = .error fault)
      (withinLimits : (∀ digits, fault ≠ .integerTooLong digits) ∧
        ∀ container, fault ≠ .nestedTooDeeply container) :
      Objects wording disk path (.malformed fault)
  | notObject {text : String} {document : Json.Value} (held : disk.readText path = .ok text)
      (written : Json.read (Json.plain text) = .ok document)
      (other : ∀ members, document ≠ .object members) : Objects wording disk path .notObject
  | wrongFields {text : String} {members : List (String × Json.Value)}
      (held : disk.readText path = .ok text)
      (written : Json.read (Json.plain text) = .ok (.object members))
      (wrong : ∃ field ∈ ["files", "include", "exclude"],
        ∀ texts, ¬ Lists (.object members) field texts) :
      Objects wording disk path
        (.wrongFields (fieldFaults (.object members)) (wording (.object members)))

/-- What nothing answers: octets that are no text, an integer longer than any that is read, and
values within more values than are read. -/
inductive Escapes (disk : Disk) (path : FilePath) : Failure → Prop where
  | undecodable {octets : List UInt8} {fault : Utf8.Fault}
      (held : disk.readOctets path = .ok octets) (wrong : Utf8.decode octets = .error fault) :
      Escapes disk path (.undecodable fault)
  | numberTooLong {text : String} {digits : Nat} (held : disk.readText path = .ok text)
      (wrong : Json.read (Json.plain text) = .error (.integerTooLong digits)) :
      Escapes disk path (.numberTooLong digits)
  | nestedTooDeeply {text : String} {container : Json.Container}
      (held : disk.readText path = .ok text)
      (wrong : Json.read (Json.plain text) = .error (.nestedTooDeeply container)) :
      Escapes disk path (.nestedTooDeeply container)

/-! ## Fields -/

section Fields

variable {document : Json.Value} {field : String}

theorem readElements_texts (position : Nat) (texts : List String) :
    readElements field position (texts.map .text) = ([], texts) := by
  induction texts generalizing position with
  | nil => rfl
  | cons first others inductionHypothesis =>
      simp [readElements, readElement, inductionHypothesis]

theorem exists_texts_of_faultless {position : Nat} {elements : List Json.Value}
    (faultless : (readElements field position elements).1 = []) :
    ∃ texts : List String, elements = texts.map .text := by
  induction elements generalizing position with
  | nil => exact ⟨[], rfl⟩
  | cons first others inductionHypothesis =>
      obtain ⟨ofFirst, ofOthers⟩ := List.append_eq_nil_iff.mp faultless
      obtain ⟨texts, rfl⟩ := inductionHypothesis ofOthers
      cases first with
      | text characters => exact ⟨characters :: texts, rfl⟩
      | _ => cases ofFirst

theorem readField_of_lists {texts : List String} (lists : Lists document field texts) :
    readField document field = ([], texts) := by
  unfold readField
  rcases lists with ⟨absent, rfl⟩ | listed
  · rw [absent]
  · rw [listed]
    exact readElements_texts 0 texts

theorem lists_of_faultless (faultless : (readField document field).1 = []) :
    ∃ texts, Lists document field texts := by
  unfold readField at faultless
  split at faultless
  next absent => exact ⟨[], .inl ⟨absent, rfl⟩⟩
  next elements listed =>
      obtain ⟨texts, rfl⟩ := exists_texts_of_faultless faultless
      exact ⟨texts, .inr listed⟩
  next => cases faultless

theorem faultless_iff : (readField document field).1 = [] ↔ ∃ texts, Lists document field texts := by
  refine ⟨lists_of_faultless, ?_⟩
  rintro ⟨texts, lists⟩
  rw [readField_of_lists lists]

end Fields

/-! ## Loading -/

variable {wording : FieldWording} {disk : Disk} {path : FilePath}

theorem readText_of_octets {octets : List UInt8} (held : disk.readOctets path = .ok octets) :
    disk.readText path =
      ((Utf8.decode octets).mapError .undecodable).map fun text =>
        String.ofList (Text.joinLineEnds text.toList) := by
  rw [Disk.readText, held]
  rfl

theorem readText_of_failure {failure : Failure} (fails : disk.readOctets path = .error failure) :
    disk.readText path = .error failure := by
  rw [Disk.readText, fails]
  rfl

theorem readDocument_of_text {text : String} (held : disk.readText path = .ok text) :
    readDocument disk path =
      match Json.read (Json.plain text) with
      | .ok document => .ok document
      | .error (.integerTooLong digits) => .error (.numberTooLong digits)
      | .error (.nestedTooDeeply container) => .error (.nestedTooDeeply container)
      | .error fault => .error (.settingsUnusable path (.malformed fault)) := by
  rw [readDocument, held]
  rfl

theorem readDocument_of_refused {fault : FileFault}
    (refused : disk.readText path = .error (.refused fault)) :
    readDocument disk path = .error (.settingsUnusable path (.unreadable fault)) := by
  rw [readDocument, refused]
  rfl

theorem readDocument_of_undecodable {fault : Utf8.Fault}
    (undecodable : disk.readText path = .error (.undecodable fault)) :
    readDocument disk path = .error (.undecodable fault) := by
  rw [readDocument, undecodable]
  rfl

theorem loadSettings_of_document {document : Json.Value}
    (written : readDocument disk path = .ok document) :
    loadSettings wording disk path = settingsOf wording path document := by
  rw [loadSettings, written]
  rfl

theorem loadSettings_of_failure {failure : Failure}
    (fails : readDocument disk path = .error failure) :
    loadSettings wording disk path = .error failure := by
  rw [loadSettings, fails]
  rfl

theorem Tells.loadSettings {settings : Settings} (tells : Tells disk path settings) :
    loadSettings wording disk path = .ok settings := by
  obtain ⟨rfl, sameRoot, text, members, held, written, files, includes, excludes⟩ := tells
  have read : readDocument disk settings.path = .ok (.object members) := by
    rw [readDocument_of_text held, written]
  rw [loadSettings_of_document read, settingsOf, readField_of_lists files,
    readField_of_lists includes, readField_of_lists excludes, ← sameRoot]
  rfl

/-- The fields of an object that does not list texts in all three have faults. -/
theorem settingsOf_of_wrongFields {members : List (String × Json.Value)}
    (faulty : fieldFaults (.object members) ≠ []) :
    settingsOf wording path (.object members) =
      .error (.settingsUnusable path
        (.wrongFields (fieldFaults (.object members)) (wording (.object members)))) := by
  unfold fieldFaults at faulty
  unfold settingsOf fieldFaults
  dsimp only
  split
  next faultless => exact absurd faultless faulty
  next => rfl

theorem fieldFaults_eq_nil_iff {document : Json.Value} :
    fieldFaults document = [] ↔
      ∀ field ∈ ["files", "include", "exclude"], ∃ texts, Lists document field texts := by
  simp [fieldFaults, faultless_iff]

theorem Objects.loadSettings {fault : SettingsFault} (objects : Objects wording disk path fault) :
    loadSettings wording disk path = .error (.settingsUnusable path fault) := by
  cases objects with
  | unreadable refused =>
      apply loadSettings_of_failure
      exact readDocument_of_refused (readText_of_failure refused)
  | @malformed text fault held wrong withinLimits =>
      apply loadSettings_of_failure
      rw [readDocument_of_text held, wrong]
      obtain ⟨notLong, notDeep⟩ := withinLimits
      cases fault with
      | integerTooLong digits => exact absurd rfl (notLong digits)
      | nestedTooDeeply container => exact absurd rfl (notDeep container)
      | _ => rfl
  | @notObject text document held written other =>
      have read : readDocument disk path = .ok document := by
        rw [readDocument_of_text held, written]
      rw [loadSettings_of_document read]
      cases document with
      | object members => exact absurd rfl (other members)
      | _ => rfl
  | @wrongFields text members held written wrong =>
      have read : readDocument disk path = .ok (.object members) := by
        rw [readDocument_of_text held, written]
      rw [loadSettings_of_document read]
      apply settingsOf_of_wrongFields
      intro faultless
      obtain ⟨field, named, unlisted⟩ := wrong
      obtain ⟨texts, lists⟩ := fieldFaults_eq_nil_iff.mp faultless field named
      exact unlisted texts lists

theorem Escapes.loadSettings {failure : Failure} (escapes : Escapes disk path failure) :
    loadSettings wording disk path = .error failure := by
  apply loadSettings_of_failure
  cases escapes with
  | undecodable held wrong =>
      apply readDocument_of_undecodable
      rw [readText_of_octets held, wrong]
      rfl
  | numberTooLong held wrong => rw [readDocument_of_text held, wrong]
  | nestedTooDeeply held wrong => rw [readDocument_of_text held, wrong]

/-! ## Every outcome -/

theorem readOctets_cases (noNull : Disk.holdsNull path = false) :
    (∃ octets, disk.readOctets path = .ok octets) ∨
      ∃ fault, disk.readOctets path = .error (.refused fault) := by
  unfold Disk.readOctets Disk.entryAt
  rw [if_neg (by simp [noNull])]
  cases disk.locate path with
  | error refusal => exact .inr ⟨_, rfl⟩
  | ok found =>
      obtain ⟨names, entry⟩ := found
      cases entry with
      | file octets written => exact .inl ⟨octets, rfl⟩
      | directory written => exact .inr ⟨_, rfl⟩

/-- Whatever object is read, it writes settings or there is something to object to. -/
theorem tells_or_objects_of_object {text : String} {members : List (String × Json.Value)}
    (held : disk.readText path = .ok text)
    (written : Json.read (Json.plain text) = .ok (.object members)) :
    (∃ settings, Tells disk path settings) ∨ ∃ fault, Objects wording disk path fault := by
  by_cases listed : ∀ field ∈ ["files", "include", "exclude"],
      ∃ texts, Lists (.object members) field texts
  · obtain ⟨files, filesListed⟩ := listed "files" (by decide)
    obtain ⟨includes, includesListed⟩ := listed "include" (by decide)
    obtain ⟨excludes, excludesListed⟩ := listed "exclude" (by decide)
    exact .inl ⟨⟨path, path.parent, files, includes, excludes⟩, rfl, rfl, text, members, held, written,
      filesListed, includesListed, excludesListed⟩
  · obtain ⟨field, named, unlisted⟩ : ∃ field ∈ ["files", "include", "exclude"],
        ∀ texts, ¬ Lists (.object members) field texts := by
      simpa only [Classical.not_forall, not_exists, exists_prop] using listed
    exact .inr ⟨_, .wrongFields held written ⟨field, named, unlisted⟩⟩

theorem outcomes_of_text {text : String} (held : disk.readText path = .ok text) :
    (∃ settings, Tells disk path settings) ∨ (∃ fault, Objects wording disk path fault) ∨
      ∃ failure, Escapes disk path failure := by
  cases written : Json.read (Json.plain text) with
  | error fault =>
      cases fault with
      | integerTooLong digits => exact .inr (.inr ⟨_, .numberTooLong held written⟩)
      | nestedTooDeeply container => exact .inr (.inr ⟨_, .nestedTooDeeply held written⟩)
      | _ =>
          refine .inr (.inl ⟨_, .malformed held written ⟨?_, ?_⟩⟩) <;>
            · rintro _ ⟨⟩
  | ok document =>
      cases document with
      | object members =>
          rcases tells_or_objects_of_object held written with tells | objects
          · exact .inl tells
          · exact .inr (.inl objects)
      | _ =>
          refine .inr (.inl ⟨_, .notObject held written ?_⟩)
          rintro members ⟨⟩

theorem outcomes_of_path (noNull : Disk.holdsNull path = false) :
    (∃ settings, Tells disk path settings) ∨ (∃ fault, Objects wording disk path fault) ∨
      ∃ failure, Escapes disk path failure := by
  rcases readOctets_cases noNull with ⟨octets, held⟩ | ⟨fault, refused⟩
  · have decoded := readText_of_octets held
    cases wrong : Utf8.decode octets with
    | error fault => exact .inr (.inr ⟨_, .undecodable held wrong⟩)
    | ok text =>
        rw [wrong] at decoded
        exact outcomes_of_text decoded
  · exact .inr (.inl ⟨_, .unreadable refused⟩)

/-- A directory with nothing but a settings file of these octets. -/
def diskOf (octets : List UInt8) : Disk :=
  ⟨⟨[([settingsName], .file octets 1)], 2⟩, []⟩

/-- What a validator says about a text in place of the list `files`, with the text as it stands. -/
def listWording : FieldWording := fun document =>
  match document.member? "files" with
  | some (.text characters) =>
      "1 validation error for ProjectConfig\nfiles\n  Input should be a valid list [type=list_type, " ++
        "input_value=" ++ Text.literal characters ++ ", input_type=str]"
  | _ => ""

/-- Whether an object has been read whose only member is this text. -/
def readsText (name text : String) : Except Json.Fault Json.Value → Bool
  | .ok (.object [(member, .text characters)]) => member == name && characters == text
  | _ => false

theorem eq_of_readsText {name text : String} {answer : Except Json.Fault Json.Value}
    (reads : readsText name text answer = true) : answer = .ok (.object [(name, .text text)]) := by
  unfold readsText at reads
  split at reads
  · obtain ⟨isName, isText⟩ := Bool.and_eq_true_iff.mp reads
    rw [eq_of_beq isName, eq_of_beq isText]
  · cases reads

end Project

end ImportBoundary
