import ImportBoundary.Syntax.Source
import ImportBoundary.Proofs.Collecting
import ImportBoundary.Proofs.Path.Basic

/-!
Contract: the language of a file.

Owns that a source of a project has a language, that a file keeps its language from wherever it is
seen, and what is parsed without the name of a language.

Main statements: `exists_language`, `ofPath_absolute` and `parse_eq_ok_iff`.
-/

namespace ImportBoundary

namespace FilePath

variable {path : FilePath}

theorem exists_language (isSource : path.isProjectSource = true) :
    ∃ language, Language.ofPath path = .ok language := by
  unfold isProjectSource at isSource
  rw [Bool.and_eq_true, Bool.and_eq_true] at isSource
  obtain ⟨language, found⟩ := Option.isSome_iff_exists.mp isSource.1.1
  refine ⟨language, ?_⟩
  unfold Language.ofPath
  rw [found]

theorem names_ne_nil_of_ofPath {language : Language}
    (ofPath : Language.ofPath path = .ok language) : path.names ≠ [] := by
  intro isEmpty
  have noSuffix : path.suffix = "" := by
    unfold suffix name
    rw [isEmpty]
    rfl
  have unknown : Language.ofSuffix? "" = none := by decide +kernel
  unfold Language.ofPath at ofPath
  rw [noSuffix, unknown] at ofPath
  cases ofPath

/-- A file keeps its language when it is seen from somewhere. -/
theorem ofPath_absolute {language : Language} (ofPath : Language.ofPath path = .ok language)
    (base : FilePath) : Language.ofPath (path.absolute base) = .ok language := by
  have sameName := name_absolute (names_ne_nil_of_ofPath ofPath) base
  unfold Language.ofPath suffix at *
  rw [sameName, ofPath]

end FilePath

/-- A source holds the octets that it was parsed from. -/
theorem Source.octets_of_parse {parser : Parser} {octets : List UInt8} {path : FilePath}
    {language : Option String} {source : Source}
    (isParsed : Source.parse parser octets path language = .ok source) : source.octets = octets := by
  obtain ⟨resolved, _, result⟩ := bind_eq_ok_iff.mp isParsed
  cases result
  rfl

theorem Source.path_of_parse {parser : Parser} {octets : List UInt8} {path : FilePath}
    {language : Option String} {source : Source}
    (isParsed : Source.parse parser octets path language = .ok source) : source.path = path := by
  obtain ⟨resolved, _, result⟩ := bind_eq_ok_iff.mp isParsed
  cases result
  rfl

/-- Without a language name, a source is parsed in the language of its path. -/
theorem Source.parse_eq_ok_iff {parser : Parser} {octets : List UInt8} {path : FilePath}
    {source : Source} :
    Source.parse parser octets path none = .ok source ↔
      ∃ language, Language.ofPath path = .ok language ∧
        source = ⟨path, octets, language, parser language octets⟩ := by
  show (Language.ofPath path >>= fun resolved =>
    Except.ok (⟨path, octets, resolved, parser resolved octets⟩ : Source)) = .ok source ↔ _
  rw [bind_eq_ok_iff]
  constructor
  · rintro ⟨language, ofPath, parsed⟩
    exact ⟨language, ofPath, (Except.ok.inj parsed).symm⟩
  · rintro ⟨language, ofPath, rfl⟩
    exact ⟨language, ofPath, rfl⟩

end ImportBoundary
