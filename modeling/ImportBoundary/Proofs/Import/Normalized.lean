import ImportBoundary.Import.Members
import ImportBoundary.Proofs.Import.Written

/-!
Contract: import statements that are told apart by their normalized text.

Owns the statements for which nothing is lost when they are written: their names are plain, their
source is quoted, and no braced list stands beside a namespace, where it would not be written.

Main statement: `parts_eq_of_normalized_eq`. A module is named after the digest of the normalized
text, so this is what keeps two different imports from being given the text of one another.
-/

namespace ImportBoundary

open Text (IsPlain BeginsWithQuote)

/-- Plain names are not empty, so that they count as names. -/
theorem nonEmpty_of_plain {name : Option String} (plain : ∀ given ∈ name, IsPlain given) :
    nonEmpty name = name := by
  cases name with
  | none => rfl
  | some given =>
      have notEmpty : given ≠ "" := (plain given rfl).ne_empty
      simp [nonEmpty, notEmpty]

/-- The names of an entry are plain, whatever words they are. -/
structure Specifier.Named (specifier : Specifier) : Prop where
  name : IsPlain specifier.name
  renamed : ∀ renamed ∈ specifier.renamed, IsPlain renamed

instance (specifier : Specifier) : Decidable specifier.Named :=
  decidable_of_iff (IsPlain specifier.name ∧ ∀ renamed ∈ specifier.renamed, IsPlain renamed)
    ⟨fun ⟨name, renamed⟩ => ⟨name, renamed⟩, fun named => ⟨named.name, named.renamed⟩⟩

theorem Specifier.Named.written_eq {specifier : Specifier} (named : specifier.Named) :
    specifier.written = specifier := by
  unfold Specifier.written
  rw [nonEmpty_of_plain named.renamed]

namespace ImportParts

/-- A statement with a clause that is written without loss. -/
structure Lossless (parts : ImportParts) : Prop where
  hasClause : parts.hasClause = true
  defaultName : ∀ name ∈ parts.defaultName, IsPlain name
  namespaceName : ∀ name ∈ parts.namespaceName, IsPlain name
  specifiers : ∀ specifier ∈ parts.specifiers, specifier.Named
  quoted : BeginsWithQuote parts.source
  separate : parts.namespaceName ≠ none → parts.specifiers = []

instance (parts : ImportParts) : Decidable parts.Lossless :=
  decidable_of_iff (parts.hasClause = true ∧ (∀ name ∈ parts.defaultName, IsPlain name) ∧
      (∀ name ∈ parts.namespaceName, IsPlain name) ∧
      (∀ specifier ∈ parts.specifiers, specifier.Named) ∧ BeginsWithQuote parts.source ∧
      (parts.namespaceName ≠ none → parts.specifiers = []))
    ⟨fun ⟨hasClause, defaultName, namespaceName, specifiers, quoted, separate⟩ =>
        ⟨hasClause, defaultName, namespaceName, specifiers, quoted, separate⟩,
      fun lossless => ⟨lossless.hasClause, lossless.defaultName, lossless.namespaceName,
        lossless.specifiers, lossless.quoted, lossless.separate⟩⟩

theorem Lossless.plain {parts : ImportParts} (lossless : parts.Lossless) : parts.Plain where
  defaultName := by
    rw [nonEmpty_of_plain lossless.defaultName]
    exact lossless.defaultName
  namespaceName := by
    rw [nonEmpty_of_plain lossless.namespaceName]
    exact lossless.namespaceName
  specifiers specifier member := by
    have named := lossless.specifiers specifier member
    refine ⟨named.name, ?_⟩
    rw [nonEmpty_of_plain named.renamed]
    exact named.renamed

theorem Lossless.written_eq {parts : ImportParts} (lossless : parts.Lossless) :
    parts.written = parts := by
  obtain ⟨source, defaultName, namespaceName, specifiers, typeOnly, hasClause⟩ := parts
  obtain ⟨isClause, areDefault, areNamespace, areNamed, _, separate⟩ := lossless
  dsimp only at isClause areDefault areNamespace areNamed separate
  have entries : specifiers.map Specifier.written = specifiers :=
    (List.map_congr_left fun specifier member => (areNamed specifier member).written_eq).trans
      (List.map_id specifiers)
  rw [written, nonEmpty_of_plain areDefault, nonEmpty_of_plain areNamespace, entries]
  cases namespaceName with
  | none => simp [isClause]
  | some name => simp [isClause, separate (Option.some_ne_none name)]

variable {left right : ImportParts}

/-- Statements that are written without loss are the same if their normalized texts are. So the text
that a module is named after tells all that the module hands on, but for the members of a namespace,
which another source may access differently. -/
theorem parts_eq_of_normalized_eq (leftLossless : left.Lossless) (rightLossless : right.Lossless)
    (same : left.normalized = right.normalized) :
    left = right ∧ ∀ source other : Source,
      (∀ name ∈ left.namespaceName, source.membersOf name = other.membersOf name) →
        source.exportStatement left = other.exportStatement right := by
  have written := written_eq_of_normalized_eq_of_plain leftLossless.plain rightLossless.plain
    leftLossless.quoted rightLossless.quoted same
  rw [leftLossless.written_eq, rightLossless.written_eq] at written
  refine ⟨written, fun source other members => ?_⟩
  subst written
  unfold Source.exportStatement
  rw [nonEmpty_of_plain leftLossless.namespaceName]
  cases isNamespace : left.namespaceName with
  | none => rfl
  | some name => simp only [members name isNamespace]

/-- A statement in which every word that may be a keyword is a name somewhere. -/
theorem parts_eq_of_keywords :
    let parts : ImportParts := ⟨"\x27m\x27", some "type", none,
      [⟨"type", some "as", false⟩, ⟨"as", none, true⟩, ⟨"as", some "from", true⟩], false, true⟩
    parts.Lossless ∧ parts.written.Lossless ∧
      parts.normalized =
        "import type, \x7b type as as, type as, type as as from \x7d from \x27m\x27;" ∧
      parts.normalized = parts.written.normalized ∧ parts = parts.written ∧
      ∀ source other : Source,
        source.exportStatement parts = other.exportStatement parts.written := by
  intro parts
  have lossless : parts.Lossless := by decide
  have writtenLossless : parts.written.Lossless := by decide
  have same : parts.normalized = parts.written.normalized := by decide
  obtain ⟨partsEq, exports⟩ := parts_eq_of_normalized_eq lossless writtenLossless same
  refine ⟨lossless, writtenLossless, by decide, same, partsEq, fun source other => ?_⟩
  exact exports source other (by simp [parts])

end ImportParts

end ImportBoundary
