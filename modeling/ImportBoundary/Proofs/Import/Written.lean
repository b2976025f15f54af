import ImportBoundary.Import.Parts
import ImportBoundary.Proofs.Text.Tokens

/-!
Contract: what can be told from the text of an import statement.

Owns the parts of an import as they are written, the tokens of its normalized text, and the
recovery of the parts from them. The words `type`, `as` and `from` are read by their places, so they
may also be names.

Main statements: `written_eq_of_normalized_eq` for names and sources that are words, and
`written_eq_of_normalized_eq_of_plain` for plain names and sources that begin with a quote.
-/

namespace ImportBoundary

open Text (Renders IsWord)

theorem nonEmpty_nonEmpty (name : Option String) : nonEmpty (nonEmpty name) = nonEmpty name := by
  simp [nonEmpty, Option.filter_filter]

theorem nonEmpty_none : nonEmpty none = none := rfl

namespace Specifier

/-- The entry as it is written: an empty new name is none. -/
def written (specifier : Specifier) : Specifier :=
  { specifier with renamed := nonEmpty specifier.renamed }

theorem render_written (specifier : Specifier) : specifier.written.render = specifier.render := by
  unfold render written
  rw [nonEmpty_nonEmpty]

theorem localName_written (specifier : Specifier) :
    specifier.written.localName = specifier.localName := by
  unfold localName written
  rw [nonEmpty_nonEmpty]

/-- Both names of an entry are words. -/
structure Worded (specifier : Specifier) : Prop where
  name : IsWord specifier.name
  renamed : ∀ renamed ∈ nonEmpty specifier.renamed, IsWord renamed

/-- Both names of an entry are plain. -/
structure Plain (specifier : Specifier) : Prop where
  name : Text.IsPlain specifier.name
  renamed : ∀ renamed ∈ nonEmpty specifier.renamed, Text.IsPlain renamed

instance (specifier : Specifier) : Decidable specifier.Plain :=
  decidable_of_iff (Text.IsPlain specifier.name ∧
      ∀ renamed ∈ nonEmpty specifier.renamed, Text.IsPlain renamed)
    ⟨fun ⟨name, renamed⟩ => ⟨name, renamed⟩, fun plain => ⟨plain.name, plain.renamed⟩⟩

/-- The tokens of an entry. -/
def tokens (specifier : Specifier) : List String :=
  (if specifier.typeOnly then ["type"] else []) ++
    specifier.name :: ((nonEmpty specifier.renamed).map fun renamed => ["as", renamed]).getD []

theorem renders_render {specifier : Specifier} (worded : specifier.Worded) :
    Renders specifier.render.toList specifier.tokens := by
  have keyword : Renders "type".toList ["type"] := Renders.word (by decide)
  have name : Renders specifier.name.toList [specifier.name] := Renders.word worded.name
  unfold render tokens
  cases isRenamed : nonEmpty specifier.renamed with
  | none =>
      cases specifier.typeOnly with
      | false => simpa using name
      | true => simpa using keyword.spaced name
  | some renamed =>
      have newName : Renders renamed.toList [renamed] :=
        Renders.word (worded.renamed renamed isRenamed)
      have both := name.spaced ((Renders.word (show IsWord "as" by decide)).spaced newName)
      cases specifier.typeOnly with
      | false => simpa using both
      | true => simpa using keyword.spaced both

/-- The number of tokens of an entry tells which of them are keywords. -/
theorem written_eq_of_tokens_eq {left right : Specifier} (same : left.tokens = right.tokens) :
    left.written = right.written := by
  unfold tokens at same
  unfold written
  cases leftRenamed : nonEmpty left.renamed <;> cases rightRenamed : nonEmpty right.renamed <;>
    cases leftType : left.typeOnly <;> cases rightType : right.typeOnly <;>
      simp_all

theorem map_written_eq {left right : List Specifier}
    (same : left.map tokens = right.map tokens) : left.map written = right.map written := by
  induction left generalizing right with
  | nil =>
      rw [List.map_nil, eq_comm, List.map_eq_nil_iff] at same
      rw [same]
  | cons specifier rest inductionHypothesis =>
      cases right with
      | nil => cases same
      | cons other others =>
          obtain ⟨first, remaining⟩ := List.cons.inj same
          rw [List.map_cons, List.map_cons, written_eq_of_tokens_eq first,
            inductionHypothesis remaining]

end Specifier

namespace ImportParts

/-- The parts of an import as they are written: without a clause nothing is bound, and beside a
namespace there is no braced list. -/
def written (parts : ImportParts) : ImportParts where
  source := parts.source
  defaultName := if parts.hasClause then nonEmpty parts.defaultName else none
  namespaceName := if parts.hasClause then nonEmpty parts.namespaceName else none
  specifiers :=
    if parts.hasClause && (nonEmpty parts.namespaceName).isNone then
      parts.specifiers.map Specifier.written
    else []
  typeOnly := parts.hasClause && parts.typeOnly
  hasClause := parts.hasClause

/-- An import without any binding. -/
def BindsNothing (parts : ImportParts) : Prop :=
  nonEmpty parts.defaultName = none ∧ nonEmpty parts.namespaceName = none ∧ parts.specifiers = []

/-- All names of an import are words. -/
structure Worded (parts : ImportParts) : Prop where
  defaultName : ∀ name ∈ nonEmpty parts.defaultName, IsWord name
  namespaceName : ∀ name ∈ nonEmpty parts.namespaceName, IsWord name
  specifiers : ∀ specifier ∈ parts.specifiers, specifier.Worded

/-- All names of an import are plain. -/
structure Plain (parts : ImportParts) : Prop where
  defaultName : ∀ name ∈ nonEmpty parts.defaultName, Text.IsPlain name
  namespaceName : ∀ name ∈ nonEmpty parts.namespaceName, Text.IsPlain name
  specifiers : ∀ specifier ∈ parts.specifiers, specifier.Plain

instance (parts : ImportParts) : Decidable parts.Plain :=
  decidable_of_iff ((∀ name ∈ nonEmpty parts.defaultName, Text.IsPlain name) ∧
      (∀ name ∈ nonEmpty parts.namespaceName, Text.IsPlain name) ∧
      ∀ specifier ∈ parts.specifiers, specifier.Plain)
    ⟨fun ⟨defaultName, namespaceName, specifiers⟩ => ⟨defaultName, namespaceName, specifiers⟩,
      fun plain => ⟨plain.defaultName, plain.namespaceName, plain.specifiers⟩⟩

theorem Plain.worded {parts : ImportParts} (plain : parts.Plain) : parts.Worded where
  defaultName name isDefault := (plain.defaultName name isDefault).isWord
  namespaceName name isNamespace := (plain.namespaceName name isNamespace).isWord
  specifiers specifier member :=
    { name := (plain.specifiers specifier member).name.isWord
      renamed := fun renamed isRenamed =>
        ((plain.specifiers specifier member).renamed renamed isRenamed).isWord }

/-- The tokens of a braced list. -/
def bracedTokens (entries : List (List String)) : List String :=
  "\x7b" :: [","].intercalate entries ++ ["\x7d"]

/-- The tokens of the last group of bindings, unless the default binding is the only group. -/
def groupTokens (parts : ImportParts) : Option (List String) :=
  match nonEmpty parts.namespaceName with
  | some name => some ["*", "as", name]
  | none =>
      if parts.specifiers.isEmpty && (nonEmpty parts.defaultName).isSome then none
      else some (bracedTokens (parts.specifiers.map Specifier.tokens))

/-- The tokens of the default binding, with the comma after it. -/
def defaultTokens (parts : ImportParts) : List String :=
  match nonEmpty parts.defaultName with
  | some name => name :: if parts.groupTokens.isSome then [","] else []
  | none => []

/-- The tokens before the last group of bindings. -/
def leadTokens (parts : ImportParts) : List String :=
  (if parts.typeOnly then ["type"] else []) ++ parts.defaultTokens

/-- The tokens from the word `import` up to the source. -/
def openingTokens (parts : ImportParts) : List String :=
  if parts.hasClause then
    "import" :: (parts.leadTokens ++ parts.groupTokens.getD []) ++ ["from"]
  else ["import"]

/-- The statement up to the blank before its source. -/
def opening (parts : ImportParts) : String :=
  if parts.hasClause then
    "import " ++ parts.kind ++ String.intercalate ", " parts.bindingTexts ++ " from"
  else "import"

theorem normalized_eq (parts : ImportParts) :
    parts.normalized = parts.opening ++ " " ++ parts.source ++ ";" := by
  unfold normalized opening
  split <;> simp [String.append_assoc]

variable {parts left right : ImportParts}

/-! ## The tokens of a statement -/

theorem renders_braced {specifiers : List Specifier}
    (worded : ∀ specifier ∈ specifiers, specifier.Worded) :
    Renders (braced (specifiers.map Specifier.render)).toList
      (bracedTokens (specifiers.map Specifier.tokens)) := by
  have entries := Renders.intercalate fun specifier member =>
    Specifier.renders_render (worded specifier member)
  have closing : Renders ['}'] ["\x7d"] := Renders.nil.mark rfl rfl
  unfold braced bracedTokens
  dsimp only
  split
  · rename_i empty
    have noTokens : [","].intercalate (specifiers.map Specifier.tokens) = [] := by
      rw [empty] at entries
      simpa [Text.tokensFrom, Text.wordRead] using (entries [] Text.apart_nil).symm
    have rendered : Renders ['{', '}'] ["\x7b", "\x7d"] := closing.mark rfl rfl
    rw [noTokens]
    simpa using rendered
  · have rendered : Renders ('{' :: ' ' :: ((String.intercalate ", "
        (specifiers.map Specifier.render)).toList ++ ' ' :: ['}']))
        ("\x7b" :: ([","].intercalate (specifiers.map Specifier.tokens) ++ ["\x7d"])) :=
      (entries.spaced closing).space.mark rfl rfl
    simpa using rendered

/-- A statement with a clause binds a default name only, or ends in a group. -/
private theorem bindingTexts_cases (worded : parts.Worded) :
    (∃ name, nonEmpty parts.defaultName = some name ∧ parts.groupTokens = none ∧
      parts.bindingTexts = [name]) ∨
    ∃ text group, parts.groupTokens = some group ∧ Renders text.toList group ∧
      parts.bindingTexts = (nonEmpty parts.defaultName).toList ++ [text] := by
  unfold groupTokens bindingTexts
  cases isNamespace : nonEmpty parts.namespaceName with
  | some name =>
      have word : Renders name.toList [name] := Renders.word (worded.namespaceName name isNamespace)
      have rendered : Renders ('*' :: ' ' :: ("as".toList ++ ' ' :: name.toList))
          ["*", "as", name] :=
        ((Renders.word (show IsWord "as" by decide)).spaced word).space.mark rfl rfl
      exact .inr ⟨"* as " ++ name, _, rfl, by simpa using rendered, rfl⟩
  | none =>
      cases isDefault : nonEmpty parts.defaultName with
      | none =>
          exact .inr ⟨_, _, by simp, renders_braced worded.specifiers, by simp⟩
      | some name =>
          cases noEntries : parts.specifiers.isEmpty with
          | true => exact .inl ⟨name, rfl, by simp, by simp⟩
          | false => exact .inr ⟨_, _, by simp, renders_braced worded.specifiers, by simp⟩

private theorem renders_bindings (worded : parts.Worded) :
    Renders (String.intercalate ", " parts.bindingTexts).toList
      (parts.defaultTokens ++ parts.groupTokens.getD []) := by
  have word : ∀ name, nonEmpty parts.defaultName = some name → Renders name.toList [name] :=
    fun name isDefault => Renders.word (worded.defaultName name isDefault)
  unfold defaultTokens
  rcases bindingTexts_cases worded with
    ⟨name, isDefault, noGroup, texts⟩ | ⟨text, group, isGroup, rendered, texts⟩
  · rw [isDefault, noGroup, texts]
    simpa using word name isDefault
  · rw [isGroup, texts]
    cases isDefault : nonEmpty parts.defaultName with
    | none => simpa using rendered
    | some name =>
        have joined : Renders (name.toList ++ ',' :: ' ' :: text.toList) ([name] ++ "," :: group) :=
          (word name isDefault).append (rendered.space.mark rfl rfl) (Text.apart_cons rfl _)
        simpa [String.intercalate_cons_cons] using joined

theorem renders_opening (worded : parts.Worded) :
    Renders parts.opening.toList parts.openingTokens := by
  have first : Renders "import".toList ["import"] := Renders.word (by decide)
  have last : Renders "from".toList ["from"] := Renders.word (by decide)
  have bindings := renders_bindings worded
  unfold opening openingTokens
  split
  · unfold ImportParts.kind leadTokens
    cases parts.typeOnly with
    | false =>
        have rendered := (first.spaced bindings).spaced last
        simpa using rendered
    | true =>
        have keyword : Renders "type".toList ["type"] := Renders.word (by decide)
        have rendered := (first.spaced (keyword.spaced bindings)).spaced last
        simpa using rendered
  · exact first

/-! ## From the tokens back to the parts -/

/-- Whether a token begins the last group of bindings. -/
def opensGroup (token : String) : Bool :=
  token == "*" || token == "\x7b"

private theorem opensGroup_eq_false {word : String} (isWord : IsWord word) :
    opensGroup word = false := by
  have notStar : word ≠ "*" := isWord.ne_singleton (show Text.isPunctuation '*' = true from rfl)
  have notBrace : word ≠ "\x7b" := isWord.ne_singleton (show Text.isPunctuation '{' = true from rfl)
  simp [opensGroup, notStar, notBrace]

private theorem opensGroup_of_mem_leadTokens (worded : parts.Worded) {token : String}
    (member : token ∈ parts.leadTokens) : opensGroup token = false := by
  rcases List.mem_append.mp member with isKeyword | ofDefault
  · split at isKeyword
    · rw [List.mem_singleton.mp isKeyword]
      rfl
    · cases isKeyword
  · unfold defaultTokens at ofDefault
    split at ofDefault
    · rename_i name isDefault
      rcases List.mem_cons.mp ofDefault with rfl | isComma
      · exact opensGroup_eq_false (worded.defaultName token isDefault)
      · split at isComma
        · rw [List.mem_singleton.mp isComma]
          rfl
        · cases isComma
    · cases ofDefault

private theorem exists_head_of_groupTokens {group : List String}
    (isGroup : parts.groupTokens = some group) :
    ∃ first rest, group = first :: rest ∧ opensGroup first = true := by
  unfold groupTokens at isGroup
  split at isGroup
  · cases isGroup
    exact ⟨_, _, rfl, rfl⟩
  · split at isGroup
    · cases isGroup
    · cases isGroup
      exact ⟨_, _, rfl, rfl⟩

/-- The tokens of a clause are cut where its last group begins. -/
private theorem cut_clause (worded : parts.Worded) :
    (parts.leadTokens ++ parts.groupTokens.getD []).takeWhile (!opensGroup ·) = parts.leadTokens ∧
      (parts.leadTokens ++ parts.groupTokens.getD []).dropWhile (!opensGroup ·) =
        parts.groupTokens.getD [] := by
  have goesOn : ∀ token ∈ parts.leadTokens, (!opensGroup token) = true := by
    intro token member
    rw [opensGroup_of_mem_leadTokens worded member, Bool.not_false]
  rw [List.takeWhile_append_of_pos goesOn, List.dropWhile_append_of_pos goesOn]
  cases isGroup : parts.groupTokens with
  | none => simp
  | some group =>
      obtain ⟨first, rest, rfl, opens⟩ := exists_head_of_groupTokens isGroup
      simp [opens]

private theorem groupTokens_eq (leftWorded : left.Worded) (rightWorded : right.Worded)
    (same : left.leadTokens ++ left.groupTokens.getD [] =
      right.leadTokens ++ right.groupTokens.getD []) :
    left.leadTokens = right.leadTokens ∧ left.groupTokens = right.groupTokens := by
  have leftCut := cut_clause leftWorded
  rw [same, (cut_clause rightWorded).1, (cut_clause rightWorded).2] at leftCut
  refine ⟨leftCut.1.symm, ?_⟩
  have groups := leftCut.2
  cases leftGroup : left.groupTokens with
  | none =>
      cases rightGroup : right.groupTokens with
      | none => rfl
      | some group =>
          obtain ⟨first, rest, rfl, _⟩ := exists_head_of_groupTokens rightGroup
          rw [leftGroup, rightGroup] at groups
          cases groups
  | some group =>
      obtain ⟨first, rest, rfl, _⟩ := exists_head_of_groupTokens leftGroup
      cases rightGroup : right.groupTokens with
      | none =>
          rw [leftGroup, rightGroup] at groups
          cases groups
      | some other =>
          rw [leftGroup, rightGroup] at groups
          exact congrArg some groups.symm

/-- An import without a group binds a default name. -/
private theorem isSome_defaultName_of_groupTokens (noGroup : parts.groupTokens = none) :
    (nonEmpty parts.defaultName).isSome = true := by
  unfold groupTokens at noGroup
  split at noGroup
  · cases noGroup
  · split at noGroup
    · rename_i only
      exact (Bool.and_eq_true_iff.mp only).2
    · cases noGroup

/-- Beside a known group, the number of tokens before it tells which of them is a name. -/
private theorem lead_eq (groups : left.groupTokens = right.groupTokens)
    (leads : left.leadTokens = right.leadTokens) :
    left.typeOnly = right.typeOnly ∧ nonEmpty left.defaultName = nonEmpty right.defaultName := by
  unfold leadTokens defaultTokens at leads
  rw [← groups] at leads
  cases isGroup : left.groupTokens with
  | none =>
      -- Without a group `type X` and `type` differ in length, since a default name is bound.
      have leftDefault := isSome_defaultName_of_groupTokens isGroup
      have rightDefault := isSome_defaultName_of_groupTokens (groups ▸ isGroup)
      obtain ⟨leftName, isLeft⟩ := Option.isSome_iff_exists.mp leftDefault
      obtain ⟨rightName, isRight⟩ := Option.isSome_iff_exists.mp rightDefault
      cases leftType : left.typeOnly <;> cases rightType : right.typeOnly <;>
        simp_all
  | some group =>
      cases isLeft : nonEmpty left.defaultName <;> cases isRight : nonEmpty right.defaultName <;>
        cases leftType : left.typeOnly <;> cases rightType : right.typeOnly <;> simp_all

/-- Entries are told apart by the separators between them if none of them holds one or is empty. -/
private theorem intercalate_injective {separator : String} {left right : List (List String)}
    (leftWhole : ∀ entry ∈ left, separator ∉ entry ∧ entry ≠ [])
    (rightWhole : ∀ entry ∈ right, separator ∉ entry ∧ entry ≠ [])
    (same : [separator].intercalate left = [separator].intercalate right) : left = right := by
  have cut : ∀ {entries : List (List String)},
      (∀ entry ∈ entries, separator ∉ entry ∧ entry ≠ []) → entries ≠ [] →
        ([separator].intercalate entries).splitOn separator = entries := fun whole someEntry =>
    List.splitOn_intercalate separator (fun entry member => (whole entry member).1) someEntry
  have notEmpty : ∀ {entries : List (List String)},
      (∀ entry ∈ entries, separator ∉ entry ∧ entry ≠ []) → entries ≠ [] →
        [separator].intercalate entries ≠ [] := by
    intro entries whole someEntry empty
    have single := cut whole someEntry
    rw [empty, List.splitOn_nil] at single
    exact (whole [] (single ▸ List.mem_singleton_self [])).2 rfl
  by_cases leftEmpty : left = []
  · by_cases rightEmpty : right = []
    · rw [leftEmpty, rightEmpty]
    · rw [leftEmpty, List.intercalate_nil] at same
      exact absurd same.symm (notEmpty rightWhole rightEmpty)
  · by_cases rightEmpty : right = []
    · rw [rightEmpty, List.intercalate_nil] at same
      exact absurd same (notEmpty leftWhole leftEmpty)
    · rw [← cut leftWhole leftEmpty, same, cut rightWhole rightEmpty]

theorem tokens_whole {specifiers : List Specifier}
    (worded : ∀ specifier ∈ specifiers, specifier.Worded) :
    ∀ entry ∈ specifiers.map Specifier.tokens, "," ∉ entry ∧ entry ≠ [] := by
  have noComma : ∀ word, IsWord word → "," ≠ word := fun word isWord =>
    (isWord.ne_singleton (show Text.isPunctuation ',' = true from rfl)).symm
  intro entry member
  obtain ⟨specifier, isSpecifier, rfl⟩ := List.mem_map.mp member
  have name := noComma specifier.name (worded specifier isSpecifier).name
  unfold Specifier.tokens
  constructor
  · cases isRenamed : nonEmpty specifier.renamed with
    | none => cases specifier.typeOnly <;> simp [name]
    | some renamed =>
        have newName := noComma renamed ((worded specifier isSpecifier).renamed renamed isRenamed)
        cases specifier.typeOnly <;> simp [name, newName]
  · simp

/-- The last group of bindings is a namespace or a braced list. -/
private theorem group_eq (leftWorded : left.Worded) (rightWorded : right.Worded)
    (same : left.groupTokens = right.groupTokens) :
    nonEmpty left.namespaceName = nonEmpty right.namespaceName ∧
      (nonEmpty left.namespaceName = none →
        left.specifiers.map Specifier.written = right.specifiers.map Specifier.written) := by
  have specifiers : [","].intercalate (left.specifiers.map Specifier.tokens) =
      [","].intercalate (right.specifiers.map Specifier.tokens) →
        left.specifiers.map Specifier.written = right.specifiers.map Specifier.written := by
    intro joined
    exact Specifier.map_written_eq (intercalate_injective (tokens_whole leftWorded.specifiers)
      (tokens_whole rightWorded.specifiers) joined)
  unfold groupTokens at same
  cases leftNamespace : nonEmpty left.namespaceName with
  | some leftName =>
      cases rightNamespace : nonEmpty right.namespaceName with
      | some rightName =>
          simp only [leftNamespace, rightNamespace] at same
          simp_all
      | none =>
          simp only [leftNamespace, rightNamespace] at same
          split at same
          · cases same
          · simp [bracedTokens] at same
  | none =>
      cases rightNamespace : nonEmpty right.namespaceName with
      | some rightName =>
          simp only [leftNamespace, rightNamespace] at same
          split at same
          · cases same
          · simp [bracedTokens] at same
      | none =>
          simp only [leftNamespace, rightNamespace] at same
          refine ⟨rfl, fun _ => specifiers ?_⟩
          split at same
          · split at same
            · simp_all
            · cases same
          · split at same
            · cases same
            · simpa [bracedTokens] using same

/-- The tokens before the source and the source are all that is written. -/
theorem written_eq_of_openingTokens_eq (leftWorded : left.Worded) (rightWorded : right.Worded)
    (sources : left.source = right.source) (same : left.openingTokens = right.openingTokens) :
    left.written = right.written := by
  unfold openingTokens at same
  unfold written
  cases leftClause : left.hasClause with
  | false =>
      cases rightClause : right.hasClause with
      | false => simp [sources]
      | true =>
          rw [leftClause, rightClause] at same
          simp at same
  | true =>
      cases rightClause : right.hasClause with
      | false =>
          rw [leftClause, rightClause] at same
          simp at same
      | true =>
          rw [leftClause, rightClause, if_pos rfl, if_pos rfl] at same
          -- First the group is cut off, then what stands before it can be counted.
          have clauses := List.append_cancel_right (List.cons.inj same).2
          obtain ⟨leads, groups⟩ := groupTokens_eq leftWorded rightWorded clauses
          obtain ⟨types, defaults⟩ := lead_eq groups leads
          obtain ⟨namespaces, specifiers⟩ := group_eq leftWorded rightWorded groups
          cases isNamespace : nonEmpty left.namespaceName with
          | none =>
              simp [sources, types, defaults, ← namespaces, isNamespace, specifiers isNamespace]
          | some name => simp [sources, types, defaults, ← namespaces, isNamespace]

/-! ## From the text back to the parts -/

/-- The normalized text of an import whose names and source are words tells what is written. -/
theorem written_eq_of_normalized_eq (leftWorded : left.Worded) (rightWorded : right.Worded)
    (leftSource : IsWord left.source) (rightSource : IsWord right.source)
    (same : left.normalized = right.normalized) : left.written = right.written := by
  have renders : ∀ {parts : ImportParts}, parts.Worded → IsWord parts.source →
      Text.tokens parts.normalized = parts.openingTokens ++ [parts.source ++ ";"] := by
    intro parts worded isWord
    have ending : IsWord (parts.source ++ ";") := isWord.append (by decide)
    have rendered := (renders_opening worded).spaced (Renders.word ending)
    apply Text.tokens_of_renders
    rw [normalized_eq]
    simpa using rendered
  have tokens := congrArg Text.tokens same
  rw [renders leftWorded leftSource, renders rightWorded rightSource] at tokens
  obtain ⟨openings, endings⟩ := List.append_inj' tokens rfl
  have sources : left.source = right.source := by
    have texts := congrArg String.toList (List.cons.inj endings).1
    rw [String.toList_append, String.toList_append] at texts
    exact String.toList_inj.mp (List.append_cancel_right texts)
  exact written_eq_of_openingTokens_eq leftWorded rightWorded sources openings

private theorem quoteFree_render {specifier : Specifier} (plain : specifier.Plain) :
    Text.QuoteFree specifier.render := by
  have kind : Text.QuoteFree (if specifier.typeOnly then "type " else "") := by
    cases specifier.typeOnly with
    | false => decide
    | true => decide
  have name := kind.append plain.name.quoteFree
  unfold Specifier.render
  dsimp only
  cases isRenamed : nonEmpty specifier.renamed with
  | none => exact name
  | some renamed =>
      exact (name.append (by decide)).append (plain.renamed renamed isRenamed).quoteFree

private theorem quoteFree_opening (plain : parts.Plain) : Text.QuoteFree (parts.opening ++ " ") := by
  have kind : Text.QuoteFree parts.kind := by
    unfold ImportParts.kind
    cases parts.typeOnly with
    | false => decide
    | true => decide
  have entries : Text.QuoteFree (braced (parts.specifiers.map Specifier.render)) := by
    have joined : Text.QuoteFree
        (String.intercalate ", " (parts.specifiers.map Specifier.render)) := by
      apply Text.QuoteFree.intercalate
      intro text member
      obtain ⟨specifier, isSpecifier, rfl⟩ := List.mem_map.mp member
      exact quoteFree_render (plain.specifiers specifier isSpecifier)
    unfold braced
    dsimp only
    split
    · decide
    · exact (Text.QuoteFree.append (by decide) joined).append (by decide)
  have bindings : Text.QuoteFree (String.intercalate ", " parts.bindingTexts) := by
    apply Text.QuoteFree.intercalate
    intro text member
    have ofDefault : text ∈ (nonEmpty parts.defaultName).toList → Text.QuoteFree text :=
      fun isDefault => (plain.defaultName text (Option.mem_toList.mp isDefault)).quoteFree
    unfold bindingTexts at member
    dsimp only at member
    split at member
    · rename_i name isNamespace
      rcases List.mem_append.mp member with isDefault | isGroup
      · exact ofDefault isDefault
      · rw [List.mem_singleton.mp isGroup]
        exact Text.QuoteFree.append (by decide) (plain.namespaceName name isNamespace).quoteFree
    · split at member
      · exact ofDefault member
      · rcases List.mem_append.mp member with isDefault | isGroup
        · exact ofDefault isDefault
        · rw [List.mem_singleton.mp isGroup]
          exact entries
  unfold opening
  split
  · exact ((((Text.QuoteFree.append (by decide) kind).append bindings).append (by decide)).append
      (by decide))
  · decide

/-- The normalized text of an import tells what is written if its names are plain and its source
begins with a quote. -/
theorem written_eq_of_normalized_eq_of_plain (leftPlain : left.Plain) (rightPlain : right.Plain)
    (leftSource : Text.BeginsWithQuote left.source)
    (rightSource : Text.BeginsWithQuote right.source)
    (same : left.normalized = right.normalized) : left.written = right.written := by
  have begins : ∀ {source : String}, Text.BeginsWithQuote source →
      Text.BeginsWithQuote (source ++ ";") := by
    rintro source ⟨quote, rest, isQuote, written⟩
    exact ⟨quote, rest ++ [';'], isQuote, by rw [String.toList_append, written]; rfl⟩
  have split : ∀ parts : ImportParts,
      parts.normalized = (parts.opening ++ " ") ++ (parts.source ++ ";") := fun parts => by
    rw [normalized_eq, String.append_assoc]
  rw [split, split] at same
  -- The source may hold words and marks of its own, so it is cut off before tokens are read.
  obtain ⟨openings, endings⟩ := Text.eq_of_append_beginsWithQuote (quoteFree_opening leftPlain)
    (quoteFree_opening rightPlain) (begins leftSource) (begins rightSource) same
  have cancel : ∀ {first second last : String}, first ++ last = second ++ last →
      first = second := by
    intro first second last appended
    have texts := congrArg String.toList appended
    rw [String.toList_append, String.toList_append] at texts
    exact String.toList_inj.mp (List.append_cancel_right texts)
  have tokens := congrArg Text.tokens (cancel openings)
  rw [Text.tokens_of_renders (renders_opening leftPlain.worded),
    Text.tokens_of_renders (renders_opening rightPlain.worded)] at tokens
  exact written_eq_of_openingTokens_eq leftPlain.worded rightPlain.worded (cancel endings) tokens

/-! ## The export statement -/

/-- The statement that hands the names on is made of what is written. -/
theorem exportStatement_written (bare : parts.hasClause = false → parts.BindsNothing)
    (typesInClause : parts.typeOnly = true → parts.hasClause = true) (members : List String) :
    parts.written.exportStatement members = parts.exportStatement members := by
  obtain ⟨source, defaultName, namespaceName, specifiers, typeOnly, hasClause⟩ := parts
  have entries : (specifiers.map Specifier.written).map Specifier.render =
      specifiers.map Specifier.render := by
    rw [List.map_map]
    exact List.map_congr_left fun specifier _ => Specifier.render_written specifier
  cases hasClause with
  | false =>
      obtain ⟨noDefault, noNamespace, noSpecifiers⟩ := bare rfl
      have noTypes : typeOnly = false := Bool.eq_false_iff.mpr fun isTypeOnly =>
        Bool.false_ne_true (typesInClause isTypeOnly)
      dsimp only at noDefault noNamespace noSpecifiers
      simp only [exportStatement, exportEntries, ImportParts.kind, written, noDefault, noNamespace,
        noSpecifiers, noTypes]
      rfl
  | true =>
      cases isNamespace : nonEmpty namespaceName with
      | none =>
          simp only [exportStatement, exportEntries, ImportParts.kind, written, if_pos,
            nonEmpty_nonEmpty, isNamespace, nonEmpty_none, entries, Bool.true_and,
            Option.isNone_none]
      | some name =>
          have again : nonEmpty (some name) = some name := by
            rw [← isNamespace, nonEmpty_nonEmpty]
          simp only [exportStatement, exportEntries, ImportParts.kind, written, if_pos,
            nonEmpty_nonEmpty, isNamespace, again, Bool.true_and]

theorem nonEmpty_namespaceName_written (bare : parts.hasClause = false → parts.BindsNothing) :
    nonEmpty parts.written.namespaceName = nonEmpty parts.namespaceName := by
  cases hasClause : parts.hasClause with
  | false => simp only [written, hasClause, Bool.false_eq_true, if_false, nonEmpty_none,
      (bare hasClause).2.1]
  | true => simp only [written, hasClause, if_pos, nonEmpty_nonEmpty]

/-- An import with plain names and a quoted source that imports types only if it has a clause. Its
normalized text tells what it hands on. -/
structure Unambiguous (parts : ImportParts) : Prop where
  plain : parts.Plain
  quoted : Text.BeginsWithQuote parts.source
  typesInClause : parts.typeOnly = true → parts.hasClause = true

instance (parts : ImportParts) : Decidable parts.Unambiguous :=
  decidable_of_iff (parts.Plain ∧ Text.BeginsWithQuote parts.source ∧
      (parts.typeOnly = true → parts.hasClause = true))
    ⟨fun ⟨plain, quoted, typesInClause⟩ => ⟨plain, quoted, typesInClause⟩,
      fun unambiguous => ⟨unambiguous.plain, unambiguous.quoted, unambiguous.typesInClause⟩⟩

/-- Unambiguous imports with one normalized text have one namespace and, with the same members of it,
one export statement. -/
theorem handsOn_eq_of_normalized_eq (leftUnambiguous : left.Unambiguous)
    (rightUnambiguous : right.Unambiguous) (leftBare : left.hasClause = false → left.BindsNothing)
    (rightBare : right.hasClause = false → right.BindsNothing)
    (same : left.normalized = right.normalized) :
    nonEmpty left.namespaceName = nonEmpty right.namespaceName ∧
      ∀ members, left.exportStatement members = right.exportStatement members := by
  have written := written_eq_of_normalized_eq_of_plain leftUnambiguous.plain
    rightUnambiguous.plain leftUnambiguous.quoted rightUnambiguous.quoted same
  constructor
  · rw [← nonEmpty_namespaceName_written leftBare, written,
      nonEmpty_namespaceName_written rightBare]
  · intro members
    rw [← exportStatement_written leftBare leftUnambiguous.typesInClause, written,
      exportStatement_written rightBare rightUnambiguous.typesInClause]

end ImportParts

end ImportBoundary
