import ImportBoundary.Text.Quoted
import ImportBoundary.Text.Stray

/-!
Contract: which texts can be written.

Owns `IsWritable`, the texts without stray octets, and that strict writing answers exactly those with
their encoding.

Main statement: `write_eq_ok_iff`.
-/

namespace ImportBoundary.Utf8

variable [StrayOctets]

/-- No character of a text stands for an octet. -/
def IsWritable (text : String) : Prop :=
  ∀ character ∈ text.toList, StrayOctets.octet? character = none

/-- Decided along the text: there is also an instance that goes through all characters there are. -/
instance (text : String) : Decidable (IsWritable text) :=
  List.decidableBAll _ _

/-! ## Writing -/

theorem unwritableFrom_eq_none_iff {characters : List Char} {position : Nat} :
    unwritableFrom position characters = none ↔
      ∀ character ∈ characters, StrayOctets.octet? character = none := by
  induction characters generalizing position with
  | nil => simp [unwritableFrom]
  | cons character rest inductionHypothesis =>
      rw [unwritableFrom, List.forall_mem_cons]
      cases stands : StrayOctets.octet? character with
      | none => simp [inductionHypothesis]
      | some octet => simp

theorem write_eq_ok_iff {text : String} {octets : List UInt8} :
    write text = .ok octets ↔ IsWritable text ∧ octets = encode text := by
  unfold write IsWritable
  cases strays : unwritableFrom 0 text.toList with
  | none =>
      dsimp only
      rw [and_iff_right (unwritableFrom_eq_none_iff.mp strays), Except.ok.injEq, eq_comm]
  | some fault =>
      have notAll : ¬ ∀ character ∈ text.toList, StrayOctets.octet? character = none := by
        rw [← unwritableFrom_eq_none_iff, strays]
        exact Option.some_ne_none fault
      simp [notAll]

/-! ## Writable texts -/

/-- All characters of a text are ASCII. -/
def IsAscii (text : String) : Prop :=
  ∀ character ∈ text.toList, character.toNat < 0x80

instance (text : String) : Decidable (IsAscii text) :=
  List.decidableBAll _ _

theorem isWritable_of_ascii {text : String} (ascii : IsAscii text) : IsWritable text :=
  fun character member => StrayOctets.ascii (ascii character member)

theorem isWritable_append_iff {left right : String} :
    IsWritable (left ++ right) ↔ IsWritable left ∧ IsWritable right := by
  simp only [IsWritable, String.toList_append, List.forall_mem_append]

/-- The quotes around a text can always be written. -/
theorem isWritable_quoted_iff {quote : Char} (isAscii : quote.toNat < 0x80) {text : String} :
    IsWritable (Text.quoted quote text) ↔ IsWritable text := by
  have isWritten := StrayOctets.ascii isAscii
  simp [IsWritable, Text.quoted, isWritten, or_imp, forall_and]

/-! ## A stray octet -/

/-- The last character of all, which stands for the octet 255 among those of `privateUse`. -/
def strayCharacter : Char := Char.ofNat 0x10ffff

end ImportBoundary.Utf8
