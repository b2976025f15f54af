import ImportBoundary.Proofs.Import.Splice
import Mathlib.Data.List.Nodup
import Mathlib.Data.List.Pairwise

/-!
Contract: what redirecting a selection of the marked imports makes of a source.

Owns `Exchanged`, which relates octets to what they become when some ranges give way to others, and
the exchange that redirecting makes of one marked import. Redirecting edits the specifier and the
attribute clause of an import apart; the two ranges meet, so that together they are one exchange.

Main statement: `redirect_exact`.
-/

namespace ImportBoundary

/-- Octets of which the first stands at a position, and what they become when the range of each edit
gives way to its replacement. The ranges are met from left to right; every other octet is kept, once
and in its place. -/
inductive Exchanged : Nat → List UInt8 → List Edit → List UInt8 → Prop
  | kept (position : Nat) (octets : List UInt8) : Exchanged position octets [] octets
  | edit {edit : Edit} {edits : List Edit} {position : Nat} {before removed octets result : List UInt8}
      (starts : edit.start = position + before.length)
      (stops : edit.stop = edit.start + removed.length)
      (rest : Exchanged edit.stop octets edits result) :
      Exchanged position (before ++ removed ++ octets) (edit :: edits)
        (before ++ edit.replacement ++ result)

/-- The octets from a position on are those up to a later one, and those from there on. -/
private theorem drop_eq_take_append_drop {octets : List UInt8} {position later : Nat}
    (ordered : position ≤ later) :
    octets.drop position = (octets.drop position).take (later - position) ++ octets.drop later := by
  have split := (List.take_append_drop (later - position) (octets.drop position)).symm
  rwa [List.drop_drop, Nat.add_sub_cancel' ordered] at split

private theorem length_take_drop {octets : List UInt8} {position later : Nat}
    (within : later ≤ octets.length) :
    ((octets.drop position).take (later - position)).length = later - position := by
  rw [List.length_take, List.length_drop]
  omega

/-! ## Edits as exchanges -/

section Edits

variable {octets : List UInt8} {position : Nat}

/-- Edits that follow one another exchange their ranges. -/
theorem exchanged_spliced {edits : List Edit} (follow : Follow octets position edits) :
    Exchanged position (octets.drop position) edits (spliced octets position edits) := by
  induction edits generalizing position with
  | nil => exact .kept position _
  | cons edit rest inductionHypothesis =>
      obtain ⟨_, before, nonempty, first, _, remaining⟩ := follow
      have ordered := Nat.le_of_lt nonempty
      have within : edit.stop ≤ octets.length := remaining.boundary.1
      have whole : octets.drop position =
          (octets.drop position).take (edit.start - position) ++
            (octets.drop edit.start).take (edit.stop - edit.start) ++ octets.drop edit.stop := by
        rw [List.append_assoc, ← drop_eq_take_append_drop ordered, ← drop_eq_take_append_drop before]
      have starts : edit.start =
          position + ((octets.drop position).take (edit.start - position)).length := by
        rw [length_take_drop first.1, Nat.add_sub_cancel' before]
      have stops : edit.stop =
          edit.start + ((octets.drop edit.start).take (edit.stop - edit.start)).length := by
        rw [length_take_drop within, Nat.add_sub_cancel' ordered]
      have exchanged := Exchanged.edit starts stops (inductionHypothesis remaining)
      rwa [← whole] at exchanged

/-- Two edits of which the second begins where the first ends, as one. -/
def Edit.merge (first second : Edit) : Edit :=
  ⟨first.start, second.stop, first.replacement ++ second.replacement⟩

variable {first second : Edit} {rest : List Edit} (meets : second.start = first.stop)
include meets

theorem spliced_merge :
    spliced octets position (first :: second :: rest) =
      spliced octets position (first.merge second :: rest) := by
  rw [spliced, spliced, spliced, meets, Nat.sub_self, List.take_zero, List.nil_append, Edit.merge,
    List.append_assoc, List.append_assoc, List.append_assoc]

theorem Follow.merge (follow : Follow octets position (first :: second :: rest)) :
    Follow octets position (first.merge second :: rest) := by
  obtain ⟨boundary, before, nonempty, start, replacement, following⟩ := follow
  obtain ⟨_, _, alsoNonempty, _, alsoReplacement, remaining⟩ := following
  rw [meets] at alsoNonempty
  exact ⟨boundary, before, Nat.lt_trans nonempty alsoNonempty, start,
    replacement.append alsoReplacement, remaining⟩

end Edits

/-! ## Marked imports -/

/-- What redirecting makes of an import: everything from the start of its source to the end of its
attribute clause gives way to the specifier, between double quotes if the source begins with one and
between single quotes otherwise. -/
def Source.exchange (source : Source) (marked : MarkedImport) (specifier : String) : Edit :=
  let quote : UInt8 :=
    if source.octets[marked.sourceNode.start]? = some 0x22 then 0x22 else 0x27
  ⟨marked.sourceNode.start, marked.attributeNode.stop,
    quote :: Utf8.encode specifier ++ [quote]⟩

namespace Source

variable {source : Source}

/-- An import whose source is written in the octets, at its place. -/
structure Written (source : Source) (marked : MarkedImport) : Prop where
  placed : source.Placed marked
  nonempty : marked.sourceNode.start < marked.sourceNode.stop
  read : source.text marked.sourceNode = .ok marked.parts.source

theorem written_of_mem {imports : List MarkedImport} (found : source.markedImports = .ok imports)
    {marked : MarkedImport} (isImport : marked ∈ imports) (placed : source.Placed marked)
    (nonempty : marked.sourceNode.start < marked.sourceNode.stop) : source.Written marked := by
  obtain ⟨statement, _, isRead⟩ := exists_mem_of_mem_gather found isImport
  exact ⟨placed, nonempty, (reads_of_markedImport? isRead).text_sourceNode⟩

/-- The first octet of a source is the one that its text begins with. -/
theorem Written.head?_encode (encoded : Utf8.IsEncoded source.octets) {marked : MarkedImport}
    (written : source.Written marked) :
    (Utf8.encode marked.parts.source).head? = source.octets[marked.sourceNode.start]? := by
  obtain ⟨text, isText⟩ := encoded.slice written.placed.source_le written.placed.source_start
    written.placed.source_stop
  have slice : source.slice marked.sourceNode = Utf8.encode text := isText
  have read := written.read
  rw [Source.text, slice, Utf8.decode_encode] at read
  obtain rfl : text = marked.parts.source := Except.ok.inj read
  have within : 0 < marked.sourceNode.stop - marked.sourceNode.start :=
    Nat.sub_pos_of_lt written.nonempty
  rw [← isText, List.head?_eq_getElem?, List.getElem?_take_of_lt within, List.getElem?_drop,
    Nat.add_zero]

/-- The quote that is picked is the one that the octets show. -/
theorem Written.quoteOf_eq (encoded : Utf8.IsEncoded source.octets) {marked : MarkedImport}
    (written : source.Written marked) :
    quoteOf marked.parts.source =
      if source.octets[marked.sourceNode.start]? = some 0x22 then '"' else Text.singleQuote := by
  have isAscii : '"'.toNat < 0x80 := by decide
  have begins : source.octets[marked.sourceNode.start]? = some 0x22 ↔
      marked.parts.source.toList.head? = some '"' := by
    rw [← written.head?_encode encoded]
    exact Utf8.head?_encode_eq_some_iff isAscii
  unfold quoteOf
  cases isText : marked.parts.source.toList with
  | nil =>
      rw [isText, List.head?_nil] at begins
      rw [if_neg (begins.not.mpr nofun)]
  | cons first rest =>
      rw [isText, List.head?_cons, Option.some.injEq] at begins
      dsimp only
      by_cases isDouble : first = '"'
      · rw [if_pos (begins.mpr isDouble), if_pos (.inr isDouble), isDouble]
      · rw [if_neg (begins.not.mpr isDouble)]
        split
        · rename_i isQuote
          exact isQuote.resolve_right isDouble
        · rfl

theorem Written.exchange_eq (encoded : Utf8.IsEncoded source.octets) {marked : MarkedImport}
    (written : source.Written marked) (specifier : String) :
    source.exchange marked specifier =
      ⟨marked.sourceNode.start, marked.attributeNode.stop,
        Utf8.encode (Text.quoted (quoteOf marked.parts.source) specifier)⟩ := by
  have quoted : ∀ quote : Char, Utf8.encode (Text.quoted quote specifier) =
      String.utf8EncodeChar quote ++ Utf8.encode specifier ++ String.utf8EncodeChar quote := by
    intro quote
    simp [Utf8.encode, Text.quoted]
  rw [written.quoteOf_eq encoded, quoted]
  unfold exchange
  split <;> rfl

/-- The two edits of an import meet, and are its exchange. -/
theorem Written.editsTo_eq (encoded : Utf8.IsEncoded source.octets) {marked : MarkedImport}
    (written : source.Written marked) (specifier : String) :
    ∃ first second : Edit, marked.editsTo specifier = [first, second] ∧
      second.start = first.stop ∧ first.merge second = source.exchange marked specifier := by
  refine ⟨_, _, rfl, rfl, ?_⟩
  rw [written.exchange_eq encoded]
  exact congrArg (Edit.mk _ _) (List.append_nil _)

/-- The exchanges of some imports, each with its specifier. -/
def exchanges (source : Source) (replacements : List (MarkedImport × String)) : List Edit :=
  replacements.map fun (marked, specifier) => source.exchange marked specifier

section Exchanges

variable {octets : List UInt8} {position : Nat} {replacements : List (MarkedImport × String)}
  (encoded : Utf8.IsEncoded source.octets)
  (areWritten : ∀ replaced ∈ replacements, source.Written replaced.1)
include encoded areWritten

theorem spliced_exchanges :
    spliced octets position (editsOf replacements) =
      spliced octets position (source.exchanges replacements) := by
  induction replacements generalizing position with
  | nil => rfl
  | cons replaced rest inductionHypothesis =>
      obtain ⟨written, restWritten⟩ := List.forall_mem_cons.mp areWritten
      obtain ⟨first, second, areEdits, meets, merged⟩ := written.editsTo_eq encoded replaced.2
      show spliced octets position (replaced.1.editsTo replaced.2 ++ editsOf rest) = _
      rw [areEdits, List.cons_append, List.cons_append, List.nil_append, spliced_merge meets, merged,
        exchanges, List.map_cons, spliced, spliced, inductionHypothesis restWritten, exchanges]

theorem follow_exchanges (follow : Follow octets position (editsOf replacements)) :
    Follow octets position (source.exchanges replacements) := by
  induction replacements generalizing position with
  | nil => exact follow
  | cons replaced rest inductionHypothesis =>
      obtain ⟨written, restWritten⟩ := List.forall_mem_cons.mp areWritten
      obtain ⟨first, second, areEdits, meets, merged⟩ := written.editsTo_eq encoded replaced.2
      change Follow octets position (replaced.1.editsTo replaced.2 ++ editsOf rest) at follow
      rw [areEdits] at follow
      have whole := Follow.merge meets follow
      rw [merged] at whole
      obtain ⟨boundary, before, nonempty, start, replacement, remaining⟩ := whole
      exact ⟨boundary, before, nonempty, start, replacement,
        inductionHypothesis restWritten remaining⟩

/-- Imports whose edits follow one another are redirected, in whatever order they are given, by one
exchange for each of them, as long as their specifiers can be written. -/
theorem redirect_exchanges [StrayOctets] (writable : AreWritable replacements)
    (follow : Follow source.octets 0 (editsOf replacements)) :
    ∃ text, (∀ others, others.Perm replacements → source.redirect others = .ok text) ∧
      Exchanged 0 source.octets (source.exchanges replacements) (Utf8.encode text) := by
  obtain ⟨text, redirects, isText⟩ := redirect_of_follow encoded writable follow
  have exchanged := exchanged_spliced (follow_exchanges encoded areWritten follow)
  rw [← spliced_exchanges encoded areWritten, isText, List.drop_zero] at exchanged
  exact ⟨text, redirects, exchanged⟩

end Exchanges

/-- A selection of marked imports can be put into the order of their statements. -/
theorem exists_arranged {replacements : List (MarkedImport × String)}
    (placed : ∀ replaced ∈ replacements, source.Placed replaced.1)
    (apart : replacements.Pairwise fun left right =>
      left.1.node.stop ≤ right.1.node.start ∨ right.1.node.stop ≤ left.1.node.start) :
    ∃ arranged : List (MarkedImport × String), arranged.Perm replacements ∧
      arranged.Pairwise fun left right => left.1.node.stop ≤ right.1.node.start := by
  let firstFirst (left right : MarkedImport × String) : Bool :=
    decide (left.1.sourceNode.start ≤ right.1.sourceNode.start)
  have permuted : (replacements.mergeSort firstFirst).Perm replacements :=
    List.mergeSort_perm replacements firstFirst
  have sorted : (replacements.mergeSort firstFirst).Pairwise fun left right =>
      firstFirst left right = true := by
    apply List.pairwise_mergeSort
    · intro first second third
      simp only [firstFirst, decide_eq_true_eq]
      omega
    · intro first second
      simp only [firstFirst, Bool.or_eq_true, decide_eq_true_eq]
      omega
  have stillApart := (permuted.pairwise_iff fun {_ _} => Or.symm).mpr apart
  refine ⟨_, permuted, (sorted.and stillApart).imp_of_mem ?_⟩
  rintro left right isLeft isRight ⟨first, inOrder | turned⟩
  · exact inOrder
  · -- The other way around, the source of the left import would stand before itself.
    have ofLeft := placed left (permuted.mem_iff.mp isLeft)
    have ofRight := placed right (permuted.mem_iff.mp isRight)
    have leftStart := ofLeft.within_start
    have rightSource := ofRight.source_le
    have rightBefore := ofRight.source_before
    have rightStop := ofRight.within_stop
    have starts : left.1.sourceNode.start ≤ right.1.sourceNode.start := of_decide_eq_true first
    omega

/-- Redirecting any of the marked imports of a source, each once, makes one exchange for each of them
and nothing else, in whatever order they are given, and fails if and only if some specifier cannot be
written. -/
theorem redirect_exact [StrayOctets] (tree : source.root.WellFormed)
    (cuts : ∀ node ∈ source.root.walk,
      Utf8.IsCut source.octets node.start ∧ Utf8.IsCut source.octets node.stop)
    (importsApart : ∀ node ∈ source.root.walk, node.kind = "import_statement" →
      ∀ child ∈ node.children, ∀ inner ∈ child.walk, inner.kind ≠ "import_statement")
    {imports : List MarkedImport} (found : source.markedImports = .ok imports)
    {replacements : List (MarkedImport × String)}
    (selected : ∀ replaced ∈ replacements, replaced.1 ∈ imports)
    (once : (replacements.map Prod.fst).Nodup)
    (nonempty : ∀ replaced ∈ replacements,
      replaced.1.sourceNode.start < replaced.1.sourceNode.stop)
    (sourceFirst : ∀ replaced ∈ replacements,
      replaced.1.sourceNode.stop ≤ replaced.1.attributeNode.start) :
    (AreWritable replacements →
      ∃ text, (∀ others, others.Perm replacements → source.redirect others = .ok text) ∧
        ∃ arranged : List (MarkedImport × String), arranged.Perm replacements ∧
          Exchanged 0 source.octets (source.exchanges arranged) (Utf8.encode text)) ∧
      (¬ AreWritable replacements → ∀ others, others.Perm replacements →
        ∃ fault, source.redirect others = .error (.unwritable fault)) := by
  have encoded : Utf8.IsEncoded source.octets :=
    (Utf8.isCut_iff.mp (cuts source.root (Node.mem_walk_self source.root)).1).1
  have boundaries : ∀ node ∈ source.root.walk,
      Utf8.IsBoundary source.octets node.start ∧ Utf8.IsBoundary source.octets node.stop :=
    fun node inTree => ⟨(Utf8.isCut_iff.mp (cuts node inTree).1).2,
      (Utf8.isCut_iff.mp (cuts node inTree).2).2⟩
  have placed : ∀ replaced ∈ replacements, source.Placed replaced.1 := fun replaced member =>
    placed_of_sourceFirst tree boundaries found (selected replaced member)
      (sourceFirst replaced member)
  -- Two different imports stand one after the other, in one of the two orders.
  have apart : replacements.Pairwise fun left right =>
      left.1.node.stop ≤ right.1.node.start ∨ right.1.node.stop ≤ left.1.node.start := by
    let isApart (left right : MarkedImport) : Prop :=
      left.node.stop ≤ right.node.start ∨ right.node.stop ≤ left.node.start
    have symmetric : Std.Symm isApart := ⟨fun _ _ => Or.symm⟩
    have ofImports : imports.Pairwise isApart :=
      (pairwise_markedImports tree importsApart found).imp Or.inl
    refine (List.pairwise_map.mp once).imp_of_mem ?_
    intro left right isLeft isRight differs
    exact ofImports.forall (selected left isLeft) (selected right isRight) differs
  obtain ⟨arranged, permuted, ordered⟩ := exists_arranged placed apart
  have arrangedWritten : ∀ replaced ∈ arranged, source.Written replaced.1 := by
    intro replaced member
    have isReplaced := permuted.mem_iff.mp member
    exact written_of_mem found (selected replaced isReplaced) (placed replaced isReplaced)
      (nonempty replaced isReplaced)
  have follow := follow_edits encoded.boundary_zero (fun replaced member =>
    ⟨(arrangedWritten replaced member).placed, (arrangedWritten replaced member).nonempty,
      Nat.zero_le _⟩) ordered
  constructor
  · intro writable
    obtain ⟨text, redirects, exchanged⟩ := redirect_exchanges encoded arrangedWritten
      (fun replaced member => writable replaced (permuted.mem_iff.mp member)) follow
    refine ⟨text, ?_, arranged, permuted, exchanged⟩
    intro others alsoPermuted
    exact redirects others (alsoPermuted.trans permuted.symm)
  · intro stray others alsoPermuted
    apply source.redirect_of_unwritable
    intro writable
    exact stray fun replaced member => writable replaced (alsoPermuted.mem_iff.mpr member)

/-- A marked import of one default name, its statement at an offset and its source literal of some
width. -/
def defaultStatement (offset width : Nat) : Node :=
  let name : Node := ⟨"identifier", offset + 7, offset + 8, true, false, none, []⟩
  let clause : Node := ⟨"import_clause", offset + 7, offset + 8, true, false, none, [name]⟩
  let statement := markedStatement clause (offset + 14) (offset + 14 + width)
  { statement with
    start := offset
    children := ⟨"import", offset, offset + 6, false, false, none, []⟩ :: statement.children.tail }

/-- Two marked imports, with different quotes and a character of two octets. -/
def twoImports : Source :=
  let text := "import A from \x27é\x27 with \x7b use: \x27client\x27 \x7d;\n" ++
    "import B from \x22b\x22 with \x7b use: \x27client\x27 \x7d;"
  ⟨⟨.root, ["a.tsx"]⟩, Utf8.encode text, .tsx,
    ⟨"program", 0, 84, true, false, none, [defaultStatement 0 4, defaultStatement 43 3]⟩⟩

section Examples

attribute [local instance] StrayOctets.privateUse

private theorem wellFormed_twoImports : twoImports.WellFormed := by decide +kernel

private theorem encoded_twoImports : Utf8.IsEncoded twoImports.octets := Utf8.isEncoded_encode _

/-- The imports of the two statements with new specifiers, the last one first. -/
def twoReplacements (imports : List MarkedImport) : List (MarkedImport × String) :=
  (imports.zip ["./ß", "./longer.js"]).reverse

/-- The two statements with new specifiers and without attributes. Each keeps its quotes. -/
def twoRedirected : String :=
  "import A from \x27./ß\x27;\nimport B from \x22./longer.js\x22;"

private theorem redirect_twoReplacements {imports : List MarkedImport}
    (found : twoImports.markedImports = .ok imports) :
    twoImports.redirect (twoReplacements imports) = .ok twoRedirected := by
  have properties : ∀ imports, twoImports.markedImports = .ok imports →
      imports.length ≤ 2 ∧
      (∀ marked ∈ imports, marked.sourceNode.start < marked.sourceNode.stop) ∧
      (∀ replaced ∈ imports.zip ["./ß", "./longer.js"], Utf8.IsWritable replaced.2) ∧
      spliced twoImports.octets 0 (editsOf (imports.zip ["./ß", "./longer.js"])) =
        Utf8.encode twoRedirected := by
    decide +kernel
  obtain ⟨two, nonempty, writable, octets⟩ := properties imports found
  have pairs : (imports.zip ["./ß", "./longer.js"]).map Prod.fst = imports :=
    List.map_fst_zip two
  have follow := follow_of_wellFormed wellFormed_twoImports encoded_twoImports found nonempty pairs
  obtain ⟨text, redirects, isText⟩ := redirect_of_follow encoded_twoImports writable follow
  rw [octets] at isText
  rw [Utf8.encode_injective isText]
  exact redirects _ (List.reverse_perm _)

theorem redirect_exact_of_two :
    ∃ imports, twoImports.markedImports = .ok imports ∧ imports.length = 2 ∧
      (∀ others, others.Perm (twoReplacements imports) →
        twoImports.redirect others = .ok twoRedirected) ∧
      ∃ arranged : List (MarkedImport × String), arranged.Perm (twoReplacements imports) ∧
        Exchanged 0 twoImports.octets (twoImports.exchanges arranged)
          (Utf8.encode twoRedirected) := by
  obtain ⟨imports, found⟩ : ∃ imports, twoImports.markedImports = .ok imports :=
    exists_of_isOk (by decide +kernel)
  have properties : ∀ imports, twoImports.markedImports = .ok imports →
      imports.length = 2 ∧
      ((twoReplacements imports).map fun replaced => replaced.1.node.start).Nodup ∧
      ∀ replaced ∈ twoReplacements imports,
        replaced.1.sourceNode.start < replaced.1.sourceNode.stop ∧
          replaced.1.sourceNode.stop ≤ replaced.1.attributeNode.start ∧
          Utf8.IsWritable replaced.2 := by
    decide +kernel
  obtain ⟨two, starts, literals⟩ := properties imports found
  have cuts : ∀ node ∈ twoImports.root.walk,
      Utf8.IsCut twoImports.octets node.start ∧ Utf8.IsCut twoImports.octets node.stop :=
    fun node inTree =>
      ⟨Utf8.isCut_iff.mpr ⟨encoded_twoImports, (wellFormed_twoImports.boundaries node inTree).1⟩,
        Utf8.isCut_iff.mpr ⟨encoded_twoImports, (wellFormed_twoImports.boundaries node inTree).2⟩⟩
  have selected : ∀ replaced ∈ twoReplacements imports, replaced.1 ∈ imports :=
    fun replaced member => (List.of_mem_zip (List.mem_reverse.mp member)).1
  have once : ((twoReplacements imports).map Prod.fst).Nodup := by
    apply List.Nodup.of_map fun marked : MarkedImport => marked.node.start
    rw [List.map_map]
    exact starts
  obtain ⟨text, redirects, exchanged⟩ := (redirect_exact wellFormed_twoImports.tree cuts
    wellFormed_twoImports.importsApart found selected once
    (fun replaced member => (literals replaced member).1)
    (fun replaced member => (literals replaced member).2.1)).1
    (fun replaced member => (literals replaced member).2.2)
  have isText := redirects _ (List.Perm.refl _)
  rw [redirect_twoReplacements found] at isText
  obtain rfl := Except.ok.inj isText
  exact ⟨imports, found, two, redirects, exchanged⟩

/-- A specifier that cannot be written redirects nothing, although the source is well formed. -/
theorem redirect_fails_of_stray :
    twoImports.WellFormed ∧
      ∃ imports first, twoImports.markedImports = .ok imports ∧ first ∈ imports ∧
        first.sourceNode.start < first.sourceNode.stop ∧
        twoImports.redirect [(first, String.singleton Utf8.strayCharacter)] =
          .error (.unwritable ⟨0xff, 1, 1⟩) := by
  refine ⟨wellFormed_twoImports, ?_⟩
  obtain ⟨imports, found⟩ : ∃ imports, twoImports.markedImports = .ok imports :=
    exists_of_isOk (by decide +kernel)
  have properties : ∀ imports, twoImports.markedImports = .ok imports →
      ∃ first ∈ imports, first.sourceNode.start < first.sourceNode.stop ∧
        quoteOf first.parts.source = Text.singleQuote := by
    decide +kernel
  obtain ⟨first, isImport, nonempty, isSingle⟩ := properties imports found
  refine ⟨imports, first, found, isImport, nonempty, ?_⟩
  have refused : first.replacement (String.singleton Utf8.strayCharacter) =
      .error (.unwritable ⟨0xff, 1, 1⟩) := by
    rw [MarkedImport.replacement, isSingle]
    rfl
  rw [redirect, List.mapM_cons]
  simp only [refused]
  rfl

end Examples

end Source

end ImportBoundary
