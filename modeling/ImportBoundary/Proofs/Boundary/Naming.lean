import ImportBoundary.Boundary.Module

/-!
Contract: the files of boundary modules.

Owns that the ids of modules are ASCII and hold no slash, and `boundaryPath_injective`, by which modules
with different ids never share a file.
-/

namespace ImportBoundary

/-- Hexadecimal digits are ASCII, and none is a slash. -/
private theorem of_mem_hexOctet {octet : UInt8} {digit : Char} (isDigit : digit ∈ Utf8.hexOctet octet) :
    digit.toNat < 0x80 ∧ digit ≠ '/' := by
  have ofValue : ∀ value < 16, (Nat.digitChar value).toNat < 0x80 ∧ Nat.digitChar value ≠ '/' := by
    decide
  have small := octet.toNat_lt
  simp only [Utf8.hexOctet, List.mem_cons, List.not_mem_nil, or_false] at isDigit
  rcases isDigit with rfl | rfl
  · exact ofValue (octet.toNat / 16) (by omega)
  · exact ofValue (octet.toNat % 16) (by omega)

private theorem of_mem_boundaryId {normalized : String} {digit : Char}
    (member : digit ∈ (boundaryId normalized).toList) : digit.toNat < 0x80 ∧ digit ≠ '/' := by
  rw [boundaryId, String.toList_ofList] at member
  obtain ⟨octet, _, isDigit⟩ := List.mem_flatMap.mp (List.mem_of_mem_take member)
  exact of_mem_hexOctet isDigit

/-- The id of a module is ASCII. -/
theorem isAscii_boundaryId (normalized : String) :
    ∀ digit ∈ (boundaryId normalized).toList, digit.toNat < 0x80 :=
  fun _ member => (of_mem_boundaryId member).1

/-- No id of a module holds a slash. -/
theorem slash_notMem_boundaryId (normalized : String) : '/' ∉ (boundaryId normalized).toList :=
  fun member => (of_mem_boundaryId member).2 rfl

/-- A text without slashes that is more than a dot names a file of that name. -/
theorem ofText_of_slash_notMem {text : String} (noSlash : '/' ∉ text.toList) (notEmpty : text ≠ "")
    (notDot : text ≠ ".") : FilePath.ofText text = ⟨.none, [text]⟩ := by
  have names : FilePath.namesOf text.toList = [text] := by
    rw [FilePath.namesOf, Text.cutAt_of_notMem noSlash]
    simp [Text.Pieces.all, notEmpty, notDot]
  have anchor : FilePath.anchorOf text.toList = .none := by
    cases written : text.toList with
    | nil => rfl
    | cons first rest =>
        have notSlash : first ≠ '/' := by
          rintro rfl
          exact noSlash (written ▸ List.mem_cons_self)
        unfold FilePath.anchorOf
        split <;> simp_all
  rw [FilePath.ofText, names, anchor]

/-- The file of a module stands in the directory of boundary modules and is named after its id. -/
theorem boundaryPath_eq (root : FilePath) {id : String} (noSlash : '/' ∉ id.toList) :
    boundaryPath root id = (root.join boundaryDirectory).child (id ++ ".js") := by
  have fileName : FilePath.ofText (id ++ ".js") = ⟨.none, [id ++ ".js"]⟩ := by
    apply ofText_of_slash_notMem
    · simpa using noSlash
    · intro empty
      have ending := congrArg String.length empty
      simp at ending
    · intro dot
      have lengths := congrArg String.length dot
      rw [String.length_append, show ".js".length = 3 by decide,
        show ".".length = 1 by decide] at lengths
      omega
  rw [boundaryPath, FilePath.joinText, fileName]
  rfl

/-- Modules with different ids have different files. -/
theorem boundaryPath_injective (root : FilePath) {left right : String}
    (same : boundaryPath root (boundaryId left) = boundaryPath root (boundaryId right)) :
    boundaryId left = boundaryId right := by
  rw [boundaryPath_eq root (slash_notMem_boundaryId left),
    boundaryPath_eq root (slash_notMem_boundaryId right)] at same
  have names := congrArg FilePath.names same
  have fileNames := List.cons.inj (List.append_cancel_left names)
  have texts := congrArg String.toList fileNames.1
  rw [String.toList_append, String.toList_append] at texts
  exact String.toList_inj.mp (List.append_cancel_right texts)

end ImportBoundary
