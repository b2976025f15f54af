import ImportBoundary.Proofs.Typing.Answers
import ImportBoundary.Props.Serializable
import Mathlib.Data.List.Infix

/-!
Contract: the verdict on a prop whose value has a type that was read off the syntax.

Owns what speaks against a value of a type, and what the three forms of answered types have in
common.

Main statement: `verdict_of_typeAt`. The tests of the verdict overlap, but on an answered type never
more than one of them applies: it has one flag, and only an object has a symbol or can be called.
-/

namespace ImportBoundary

/-! ## Flags -/

theorem TypeFlag.position_injective : Function.Injective TypeFlag.position := by
  have decoded : ∀ flag : TypeFlag, TypeFlag.ofNat flag.position = flag := by
    intro flag
    cases flag <;> rfl
  intro flag other same
  rw [← decoded flag, ← decoded other, same]

theorem TypeFlags.has_single (flag other : TypeFlag) :
    (TypeFlags.single flag).has other = decide (flag = other) := by
  rw [single, has, Nat.one_shiftLeft, Nat.testBit_two_pow]
  exact decide_eq_decide.mpr TypeFlag.position_injective.eq_iff

theorem TypeFlags.single_inj {flag other : TypeFlag} :
    TypeFlags.single flag = .single other ↔ flag = other := by
  constructor
  · intro same
    have told : (TypeFlags.single other).has flag = true := by rw [← same, has_single]; simp
    rw [has_single, decide_eq_true_iff] at told
    exact told.symm
  · rintro rfl
    rfl

namespace TypeInfo

/-- What holds of a type of any of the three forms. -/
structure WellShaped (info : TypeInfo) : Prop where
  oneFlag : ∃ flag, info.flags = .single flag
  calls_le_one : info.calls = 0 ∨ info.calls = 1
  of_calls : info.calls = 1 → info.flags = .single .object ∧ info.symbol = none
  of_symbol : ∀ name, info.symbol = some name → info.flags = .single .object

theorem Proper.wellShaped {info : TypeInfo} (proper : info.Proper) : info.WellShaped := by
  cases proper with
  | plain flag display =>
      exact ⟨⟨flag, rfl⟩, .inl rfl, fun once => absurd once Int.zero_ne_one,
        fun _ named => nomatch named⟩
  | object display symbol =>
      exact ⟨⟨.object, rfl⟩, .inl rfl, fun once => absurd once Int.zero_ne_one, fun _ _ => rfl⟩
  | callable display =>
      exact ⟨⟨.object, rfl⟩, .inr rfl, fun _ => ⟨rfl, rfl⟩, fun _ named => nomatch named⟩

end TypeInfo

/-! ## What speaks against a value -/

/-- The name of a prop that may be given a function. -/
def NamesAction (prop : String) : Prop :=
  prop = "action" ∨ "Action".toList <:+ prop.toList

/-- The text of a value shows that the value is a registered symbol. -/
def ShowsRegistration (text : String) : Prop :=
  "Symbol.for".toList <:+: text.toList

/-- The symbols of objects that may cross. -/
def allowedSymbols : List String :=
  allowedContainers ++ promiseSymbol :: plainObjectSymbols

/-- The flags of types of which no value may cross. -/
def unsupportedFlags : List TypeFlag :=
  [.any, .unknown, .void, .never, .union]

/-- What speaks against a prop of this name whose value has this type and this text. -/
def Objection (prop : String) (info : TypeInfo) (text : String) : RejectionReason → Prop
  | .nonConformingFunction => info.calls = 1 ∧ ¬ NamesAction prop
  | .unregisteredSymbol => info.flags = .single .uniqueSymbol ∧ ¬ ShowsRegistration text
  | .notAnAllowedContainer => info.flags = .single .object ∧
      ∃ name, info.symbol = some name ∧ name ∉ allowedSymbols ∧ name ∈ forbiddenContainers
  | .opaqueObject => info.flags = .single .object ∧
      ∃ name, info.symbol = some name ∧ name ∉ allowedSymbols ∧ name ∉ forbiddenContainers
  | .unsupportedType => ∃ flag ∈ unsupportedFlags, info.flags = .single flag

theorem isActionName_iff (prop : String) : isActionName prop = true ↔ NamesAction prop := by
  rw [isActionName, NamesAction, Bool.or_eq_true, beq_iff_eq, List.isSuffixOf_iff_suffix]

theorem occursIn_iff (part text : List Char) : occursIn part text = true ↔ part <:+: text := by
  induction text with
  | nil => simp [occursIn]
  | cons character rest inductionHypothesis =>
      rw [occursIn, Bool.or_eq_true, List.isPrefixOf_iff_prefix, inductionHypothesis,
        List.infix_cons_iff]

/-! ## The verdict on each form -/

section Forms

variable (prop text display symbol : String) (flag : TypeFlag)

private theorem rejection?_callable :
    rejection? prop (.callable display) text =
      if isActionName prop then none else some .nonConformingFunction :=
  if_pos Int.one_ne_zero

private theorem rejection?_object :
    rejection? prop (.object display symbol) text =
      if symbol ∈ allowedSymbols then none
      else if symbol ∈ forbiddenContainers then some .notAnAllowedContainer
      else some .opaqueObject := by
  have isAllowed : symbol ∈ allowedSymbols ↔
      (symbol ∈ allowedContainers ∨ symbol = promiseSymbol) ∨ symbol ∈ plainObjectSymbols := by
    simp [allowedSymbols, or_assoc]
  by_cases transfers : symbol ∈ allowedContainers ∨ symbol = promiseSymbol
  · simp [rejection?, TypeInfo.object, TypeFlags.hasAny, TypeFlags.has_single, primitiveFlags,
      isAllowed, transfers]
  · simp [rejection?, TypeInfo.object, TypeFlags.hasAny, TypeFlags.has_single, primitiveFlags,
      isAllowed, transfers, objectRejection?]

private theorem rejection?_plain :
    rejection? prop (.plain flag display) text =
      if flag = .uniqueSymbol then
        if occursIn symbolRegistration.toList text.toList then none else some .unregisteredSymbol
      else if flag ∈ unsupportedFlags then some .unsupportedType
      else none := by
  cases flag <;>
    simp [rejection?, TypeInfo.plain, TypeFlags.hasAny, TypeFlags.has_single, primitiveFlags,
      unsupportedFlags, objectRejection?]

end Forms

/-- A prop is rejected for a reason exactly if this is what speaks against it. -/
theorem rejection?_eq_some_iff {info : TypeInfo} (proper : info.Proper) (prop text : String)
    (reason : RejectionReason) :
    rejection? prop info text = some reason ↔ Objection prop info text reason := by
  cases proper with
  | callable display =>
      rw [rejection?_callable]
      cases reason <;>
        simp [Objection, TypeInfo.callable, TypeFlags.single_inj, unsupportedFlags, isActionName_iff]
  | object display symbol =>
      rw [rejection?_object]
      by_cases isAllowed : symbol ∈ allowedSymbols
      · cases reason <;>
          simp [Objection, TypeInfo.object, TypeFlags.single_inj, unsupportedFlags, isAllowed]
      · by_cases isForbidden : symbol ∈ forbiddenContainers <;> cases reason <;>
          simp [Objection, TypeInfo.object, TypeFlags.single_inj, unsupportedFlags, isAllowed,
            isForbidden]
  | plain flag display =>
      rw [rejection?_plain]
      by_cases isSymbol : flag = .uniqueSymbol
      · have registered : occursIn symbolRegistration.toList text.toList = true ↔
          ShowsRegistration text := occursIn_iff _ _
        subst isSymbol
        cases reason <;>
          simp [Objection, TypeInfo.plain, TypeFlags.single_inj, unsupportedFlags, registered]
      · by_cases isUnsupported : flag ∈ unsupportedFlags <;> cases reason <;>
          simp [Objection, TypeInfo.plain, TypeFlags.single_inj, isSymbol, isUnsupported]

/-- The expression `new WeakMap()`. -/
def constructorCall : Node :=
  ⟨"new_expression", 0, 13, true, false, none, [
    ⟨"new", 0, 3, false, false, none, []⟩,
    ⟨"identifier", 4, 11, true, false, some "constructor", []⟩,
    ⟨"arguments", 11, 13, true, false, some "arguments", [
      ⟨"(", 11, 12, false, false, none, []⟩,
      ⟨")", 12, 13, false, false, none, []⟩]⟩]⟩

end ImportBoundary
