import ImportBoundary.Import.Splice
import ImportBoundary.Proofs.Import.Placement
import ImportBoundary.Proofs.Text.Stray
import ImportBoundary.Proofs.Text.Tokens

/-!
Contract: what edits that follow one another make of a text.

Owns `spliced`, the text with its edits made on the way from the first to the last, and the edits of
marked imports. Edits are applied from the last to the first, so that no edit moves the octets
that another one names.

Main statements: `foldl_apply_lastFirst`, by which both ways agree, `redirect_of_wellFormed`, by which
redirecting the marked imports of a well-formed source fails for no specifiers that can be written, and
`redirect_of_unwritable`, by which it fails for any others.
-/

namespace ImportBoundary

/-- The octets from a position on, with the edits made on the way. -/
def spliced (octets : List UInt8) (position : Nat) : List Edit → List UInt8
  | [] => octets.drop position
  | edit :: rest =>
      (octets.drop position).take (edit.start - position) ++ edit.replacement ++
        spliced octets edit.stop rest

/-- Edits of an encoded text from a position on: each replaces whole characters by whole characters,
after the edit before it. -/
def Follow (octets : List UInt8) (position : Nat) : List Edit → Prop
  | [] => Utf8.IsBoundary octets position
  | edit :: rest =>
      Utf8.IsBoundary octets position ∧ position ≤ edit.start ∧ edit.start < edit.stop ∧
        Utf8.IsBoundary octets edit.start ∧ Utf8.IsEncoded edit.replacement ∧
          Follow octets edit.stop rest

namespace Follow

variable {octets : List UInt8} {position : Nat} {edits : List Edit}

theorem boundary (follow : Follow octets position edits) : Utf8.IsBoundary octets position := by
  cases edits with
  | nil => exact follow
  | cons edit rest => exact follow.1

theorem start_le (follow : Follow octets position edits) {edit : Edit} (member : edit ∈ edits) :
    position ≤ edit.start := by
  induction edits generalizing position with
  | nil => cases member
  | cons head rest inductionHypothesis =>
      obtain ⟨_, before, nonempty, _, _, remaining⟩ := follow
      rcases List.mem_cons.mp member with rfl | later
      · exact before
      · have ofRest := inductionHypothesis remaining later
        omega

/-- No two edits begin together, and the earlier one begins first. -/
theorem pairwise_start_lt (follow : Follow octets position edits) :
    edits.Pairwise fun left right => left.start < right.start := by
  induction edits generalizing position with
  | nil => exact List.Pairwise.nil
  | cons edit rest inductionHypothesis =>
      obtain ⟨_, _, nonempty, _, _, remaining⟩ := follow
      refine List.pairwise_cons.mpr ⟨?_, inductionHypothesis remaining⟩
      intro later member
      exact Nat.lt_of_lt_of_le nonempty (remaining.start_le member)

/-- The edits made from the last to the first leave the text before them as it is, and splice the
rest. -/
theorem foldr_apply (follow : Follow octets position edits) :
    edits.foldr (fun edit edited => edit.apply edited) octets =
      octets.take position ++ spliced octets position edits := by
  induction edits generalizing position with
  | nil => exact (List.take_append_drop position octets).symm
  | cons edit rest inductionHypothesis =>
      -- The later edits are made already. They have left all octets up to the end of this one.
      obtain ⟨_, before, nonempty, _, _, remaining⟩ := follow
      have within : edit.stop ≤ octets.length := remaining.boundary.1
      have length : (octets.take edit.stop).length = edit.stop := List.length_take_of_le within
      have kept : (octets.take edit.stop ++ spliced octets edit.stop rest).take edit.start =
          octets.take position ++ (octets.drop position).take (edit.start - position) := by
        rw [List.take_append_of_le_length (by omega), List.take_take,
          Nat.min_eq_left (Nat.le_of_lt nonempty), ← List.take_add, Nat.add_sub_cancel' before]
      have dropped : (octets.take edit.stop ++ spliced octets edit.stop rest).drop edit.stop =
          spliced octets edit.stop rest := by
        rw [List.drop_append_of_le_length (by omega), List.drop_of_length_le (by omega),
          List.nil_append]
      rw [List.foldr_cons, inductionHypothesis remaining, Edit.apply, kept, dropped, spliced,
        List.append_assoc, List.append_assoc, List.append_assoc]

/-- Whole characters spliced into an encoded text make an encoded text. -/
theorem isEncoded_spliced (follow : Follow octets position edits)
    (encoded : Utf8.IsEncoded octets) : Utf8.IsEncoded (spliced octets position edits) := by
  induction edits generalizing position with
  | nil => exact (encoded.cut follow).2
  | cons edit rest inductionHypothesis =>
      obtain ⟨first, before, _, last, replacement, remaining⟩ := follow
      have kept := encoded.slice before first last
      exact (kept.append replacement).append (inductionHypothesis remaining)

end Follow

/-! ## The order of edits -/

/-- Edits that begin one after the other are sorted by turning them around, in whatever order they
are given. -/
theorem lastFirst_eq_reverse {edits arranged : List Edit} (permuted : edits.Perm arranged)
    (ascending : arranged.Pairwise fun left right => left.start < right.start) :
    lastFirst edits = arranged.reverse := by
  have unique : ∀ left ∈ arranged, ∀ right ∈ arranged, left.start = right.start → left = right := by
    have apart : arranged.Pairwise fun left right => left.start = right.start → left = right := by
      refine ascending.imp ?_
      intro left right before together
      omega
    have apartFlipped : arranged.Pairwise
        (flip fun left right => left.start = right.start → left = right) := by
      refine ascending.imp ?_
      intro left right before together
      omega
    intro left isLeft right isRight
    exact List.Pairwise.forall_of_forall_of_flip (fun _ _ _ => rfl) apart apartFlipped isLeft
      isRight
  have sorted : (lastFirst edits).Pairwise fun left right => decide (right.start ≤ left.start) := by
    apply List.pairwise_mergeSort
    · intro first second third
      simp only [decide_eq_true_eq]
      omega
    · intro first second
      simp only [Bool.or_eq_true, decide_eq_true_eq]
      omega
  have descending : arranged.reverse.Pairwise fun left right =>
      decide (right.start ≤ left.start) := by
    rw [List.pairwise_reverse]
    refine ascending.imp ?_
    intro left right before
    exact decide_eq_true (Nat.le_of_lt before)
  have isArranged : (lastFirst edits).Perm arranged := (List.mergeSort_perm edits _).trans permuted
  refine List.Perm.eq_of_pairwise ?_ sorted descending
    (isArranged.trans (List.reverse_perm arranged).symm)
  intro left right isLeft isRight first second
  have isLeftEdit := isArranged.mem_iff.mp isLeft
  have isRightEdit := List.mem_reverse.mp isRight
  exact unique left isLeftEdit right isRightEdit
    (Nat.le_antisymm (of_decide_eq_true second) (of_decide_eq_true first))

/-- Edits applied from the last to the first are edits made on the way from the first to the last, in
whatever order they are given. -/
theorem foldl_apply_lastFirst {octets : List UInt8} {edits arranged : List Edit}
    (permuted : edits.Perm arranged) (follow : Follow octets 0 arranged) :
    (lastFirst edits).foldl Edit.apply octets = spliced octets 0 arranged := by
  rw [lastFirst_eq_reverse permuted follow.pairwise_start_lt, List.foldl_reverse,
    follow.foldr_apply, List.take_zero, List.nil_append]

/-! ## The edits of marked imports -/

/-- The two edits of an import, for a specifier that can be written. -/
def MarkedImport.editsTo (marked : MarkedImport) (specifier : String) : List Edit :=
  marked.edits (Utf8.encode (Text.quoted (quoteOf marked.parts.source) specifier))

/-- The edits of some imports, each with its specifier. -/
def editsOf (replacements : List (MarkedImport × String)) : List Edit :=
  replacements.flatMap fun (marked, specifier) => marked.editsTo specifier

/-- Quotes are ASCII. -/
theorem isAscii_quoteOf (text : String) : (quoteOf text).toNat < 0x80 := by
  unfold quoteOf
  split
  · decide
  · split
    · rename_i isQuote
      rcases isQuote with rfl | rfl <;> decide
    · decide

section Writing

variable [StrayOctets] {replacements : List (MarkedImport × String)}

/-- Every specifier can be written. -/
def AreWritable (replacements : List (MarkedImport × String)) : Prop :=
  ∀ replaced ∈ replacements, Utf8.IsWritable replaced.2

theorem MarkedImport.replacement_of_writable (marked : MarkedImport) {specifier : String}
    (writable : Utf8.IsWritable specifier) :
    marked.replacement specifier =
      .ok (Utf8.encode (Text.quoted (quoteOf marked.parts.source) specifier)) := by
  have quoted := (Utf8.isWritable_quoted_iff (isAscii_quoteOf marked.parts.source)).mpr writable
  rw [replacement, Utf8.write_eq_ok_iff.mpr ⟨quoted, rfl⟩]
  rfl

/-- Only what cannot be written keeps a specifier from replacing another. -/
theorem MarkedImport.of_replacement_eq_error {marked : MarkedImport} {specifier : String}
    {failure : Failure} (failed : marked.replacement specifier = .error failure) :
    ∃ fault, failure = .unwritable fault := by
  unfold replacement at failed
  cases written : Utf8.write (Text.quoted (quoteOf marked.parts.source) specifier) with
  | ok octets =>
      rw [written] at failed
      cases failed
  | error fault =>
      rw [written] at failed
      cases failed
      exact ⟨fault, rfl⟩

theorem MarkedImport.isWritable_of_replacement {marked : MarkedImport} {specifier : String}
    {octets : List UInt8} (replaced : marked.replacement specifier = .ok octets) :
    Utf8.IsWritable specifier := by
  unfold replacement at replaced
  cases written : Utf8.write (Text.quoted (quoteOf marked.parts.source) specifier) with
  | ok _ =>
      have quoted := (Utf8.write_eq_ok_iff.mp written).1
      exact (Utf8.isWritable_quoted_iff (isAscii_quoteOf marked.parts.source)).mp quoted
  | error fault =>
      rw [written] at replaced
      cases replaced

variable {source : Source}

/-- If all specifiers can be written, the edits are applied from the last to the first. -/
theorem Source.redirect_of_writable (writable : AreWritable replacements) :
    source.redirect replacements =
      (Utf8.decode ((lastFirst (editsOf replacements)).foldl Edit.apply source.octets)).mapError
        .undecodable := by
  unfold redirect
  rw [mapM_eq_ok_map fun replaced member => ?_]
  · rfl
  · exact congrArg (fun written => written >>= fun octets => .ok (replaced.1.edits octets))
      (replaced.1.replacement_of_writable (writable replaced member))

/-- If some specifier cannot be written, nothing is redirected. -/
theorem Source.redirect_of_unwritable (stray : ¬ AreWritable replacements) :
    ∃ fault, source.redirect replacements = .error (.unwritable fault) := by
  unfold redirect
  cases collected : replacements.mapM fun (marked, specifier) =>
      marked.replacement specifier >>= fun octets => .ok (marked.edits octets) with
  | ok edits =>
      refine absurd (fun replaced member => ?_) stray
      obtain ⟨_, _, ruled⟩ := exists_mem_of_mapM collected member
      obtain ⟨octets, isReplaced, _⟩ := bind_eq_ok_iff.mp ruled
      exact MarkedImport.isWritable_of_replacement isReplaced
  | error failure =>
      obtain ⟨⟨marked, specifier⟩, _, failed⟩ := exists_of_mapM_error collected
      cases isReplaced : marked.replacement specifier with
      | ok octets =>
          dsimp only at failed
          rw [isReplaced] at failed
          cases failed
      | error cause =>
          dsimp only at failed
          rw [isReplaced] at failed
          cases failed
          obtain ⟨fault, rfl⟩ := MarkedImport.of_replacement_eq_error isReplaced
          exact ⟨fault, rfl⟩

theorem Source.areWritable_of_redirect {text : String}
    (redirected : source.redirect replacements = .ok text) : AreWritable replacements := by
  by_contra stray
  obtain ⟨fault, failed⟩ := source.redirect_of_unwritable stray
  cases redirected.symm.trans failed

end Writing

namespace Source

variable {source : Source}

/-- The edits of imports that follow one another follow one another. -/
theorem follow_edits {replacements : List (MarkedImport × String)} {position : Nat}
    (boundary : Utf8.IsBoundary source.octets position)
    (placed : ∀ replaced ∈ replacements, source.Placed replaced.1 ∧
      replaced.1.sourceNode.start < replaced.1.sourceNode.stop ∧
        position ≤ replaced.1.node.start)
    (ordered : replacements.Pairwise fun left right => left.1.node.stop ≤ right.1.node.start) :
    Follow source.octets position (editsOf replacements) := by
  induction replacements generalizing position with
  | nil => exact boundary
  | cons replaced rest inductionHypothesis =>
      obtain ⟨marked, specifier⟩ := replaced
      obtain ⟨atHead, nonempty, before⟩ := placed _ List.mem_cons_self
      obtain ⟨headOrdered, restOrdered⟩ := List.pairwise_cons.mp ordered
      have startsAfter := atHead.within_start
      have endsBefore := atHead.within_stop
      have later : Follow source.octets marked.attributeNode.stop (editsOf rest) := by
        refine inductionHypothesis atHead.attribute_stop ?_ restOrdered
        intro other member
        obtain ⟨atOther, otherNonempty, _⟩ := placed other (List.mem_cons_of_mem _ member)
        have following := headOrdered other member
        exact ⟨atOther, otherNonempty, Nat.le_trans endsBefore following⟩
      -- The second edit begins where the first one ends: the specifier and the clause are adjacent.
      refine ⟨boundary, Nat.le_trans before startsAfter, nonempty, atHead.source_start,
        Utf8.isEncoded_encode _, ?_⟩
      exact ⟨atHead.source_stop, Nat.le_refl _, atHead.source_before, atHead.source_stop,
        Utf8.isEncoded_encode "", later⟩

/-- The source node of a quoted import is not empty. -/
theorem nonempty_of_quoted {imports : List MarkedImport}
    (found : source.markedImports = .ok imports)
    (areQuoted : ∀ marked ∈ imports, Text.BeginsWithQuote marked.parts.source) :
    ∀ marked ∈ imports, marked.sourceNode.start < marked.sourceNode.stop := by
  intro marked isImport
  obtain ⟨statement, _, read⟩ := exists_mem_of_mem_gather found isImport
  have reads := reads_of_markedImport? read
  exact start_lt_stop_of_text reads.text_sourceNode (areQuoted marked isImport).ne_empty

/-- Imports whose edits follow one another can be redirected, in whatever order they are given. -/
theorem redirect_of_follow [StrayOctets] (encoded : Utf8.IsEncoded source.octets)
    {arranged : List (MarkedImport × String)} (writable : AreWritable arranged)
    (follow : Follow source.octets 0 (editsOf arranged)) :
    ∃ text, (∀ others, others.Perm arranged → source.redirect others = .ok text) ∧
      spliced source.octets 0 (editsOf arranged) = Utf8.encode text := by
  obtain ⟨text, isText⟩ := follow.isEncoded_spliced encoded
  refine ⟨text, ?_, isText⟩
  intro others permuted
  have othersWritable : AreWritable others := fun replaced member =>
    writable replaced (permuted.mem_iff.mp member)
  have edits : (editsOf others).Perm (editsOf arranged) := permuted.flatMap_right _
  rw [redirect_of_writable othersWritable, foldl_apply_lastFirst edits follow, isText,
    Utf8.decode_encode]
  rfl

section WellFormed

variable (wellFormed : source.WellFormed) (encoded : Utf8.IsEncoded source.octets)
  {imports : List MarkedImport} (found : source.markedImports = .ok imports)
  (nonempty : ∀ marked ∈ imports, marked.sourceNode.start < marked.sourceNode.stop)
  {replacements : List (MarkedImport × String)} (pairs : replacements.map Prod.fst = imports)
include wellFormed encoded found nonempty pairs

/-- The edits of the marked imports of a well-formed source follow one another, unless the source node
of one is empty. -/
theorem follow_of_wellFormed : Follow source.octets 0 (editsOf replacements) := by
  apply follow_edits encoded.boundary_zero
  · intro replaced member
    have isImport : replaced.1 ∈ imports := pairs ▸ List.mem_map_of_mem member
    exact ⟨wellFormed.placed found isImport, nonempty replaced.1 isImport, Nat.zero_le _⟩
  · have ofImports := pairwise_markedImports wellFormed.tree wellFormed.importsApart found
    rw [← pairs] at ofImports
    exact List.pairwise_map.mp ofImports

theorem redirect_of_wellFormed [StrayOctets] (writable : AreWritable replacements) :
    ∃ text, source.redirect replacements = .ok text := by
  have follow := follow_of_wellFormed wellFormed encoded found nonempty pairs
  obtain ⟨text, redirects, _⟩ := redirect_of_follow encoded writable follow
  exact ⟨text, redirects replacements (List.Perm.refl replacements)⟩

end WellFormed

end Source

end ImportBoundary
