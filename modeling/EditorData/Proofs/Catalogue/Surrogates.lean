import EditorData.Catalogue.ConfigFile
import Mathlib.Data.List.Basic

/-!
# Surrogates in options

The Zig file is the same whether its options are rendered as texts or as code points
(`renderConfigFile_codes`). Blanks are characters, so no surrogate is taken off with them: the file
has bytes exactly if all options are of texts (`utf8OfCodes?_renderConfigFile_eq_none_iff`).
-/

namespace EditorData

/-- A list of which each item is to give a value gives none if one of them gives none. -/
theorem mapM_eq_none_iff {α β : Type} {compute : α -> Option β} {list : List α} :
    list.mapM compute = none ↔ ∃ item ∈ list, compute item = none := by
  induction list with
  | nil => exact iff_of_false nofun nofun
  | cons item rest inductionHypothesis =>
      rw [List.mapM_cons, List.exists_mem_cons_iff, ← inductionHypothesis]
      cases compute item with
      | none => simp
      | some value => cases rest.mapM compute <;> simp

namespace Text

/-- Code points are those of no text exactly if there is a surrogate among them. -/
theorem ofCodes?_eq_none_iff {points : Codes} :
    ofCodes? points = none ↔ ∃ index, CodePoint.surrogate index ∈ points := by
  rw [ofCodes?, mapM_eq_none_iff]
  constructor
  · rintro ⟨point, member, isNone⟩
    cases point with
    | char value => cases isNone
    | surrogate index => exact ⟨index, member⟩
  · rintro ⟨index, member⟩
    exact ⟨_, member, rfl⟩

/-- There is no surrogate among the code points of a text. -/
theorem surrogate_not_mem_codes (text : Text) {index : Fin 0x800} :
    CodePoint.surrogate index ∉ codes text := by
  intro member
  have none := ofCodes?_eq_none_iff.mpr ⟨index, member⟩
  cases none.symm.trans (ofCodes?_codes text)

variable {α β : Type} {blank : α -> Bool}

/-- Only what is blank is trimmed at the start. -/
theorem mem_trimStart {letter : α} (kept : blank letter = false) {letters : List α} :
    letter ∈ trimStart blank letters ↔ letter ∈ letters := by
  induction letters with
  | nil => rfl
  | cons first rest inductionHypothesis =>
      rw [trimStart] at inductionHypothesis ⊢
      rw [List.dropWhile_cons]
      split
      · next isBlank =>
          have other : letter ≠ first := fun same => by simp [same, isBlank] at kept
          rw [inductionHypothesis, List.mem_cons, or_iff_right other]
      · rfl

/-- Only what is blank is trimmed at the end. -/
theorem mem_trimEnd {letter : α} (kept : blank letter = false) {letters : List α} :
    letter ∈ trimEnd blank letters ↔ letter ∈ letters := by
  induction letters with
  | nil => rfl
  | cons first rest inductionHypothesis =>
      rw [List.mem_cons, ← inductionHypothesis, trimEnd]
      split
      · next nothing =>
          rw [nothing]
          split
          · next isBlank =>
              have other : letter ≠ first := fun same => by simp [same, isBlank] at kept
              simp [other]
          · simp
      · rw [List.mem_cons]

/-- Letters that are written in another way are trimmed as before. -/
theorem trim_map {change : α -> β} {blankThen : β -> Bool}
    (same : ∀ letter, blankThen (change letter) = blank letter) (letters : List α) :
    trim blankThen (letters.map change) = (trim blank letters).map change := by
  have atEnd (letters : List α) :
      trimEnd blankThen (letters.map change) = (trimEnd blank letters).map change := by
    induction letters with
    | nil => rfl
    | cons first rest inductionHypothesis =>
        rw [List.map_cons, trimEnd, trimEnd, inductionHypothesis, same]
        cases trimEnd blank rest with
        | nil => cases blank first <;> rfl
        | cons => rfl
  have atStart : trimStart blankThen (letters.map change) =
      (trimStart blank letters).map change := by
    rw [trimStart, List.dropWhile_map, trimStart]
    congr 1
    exact congrArg (List.dropWhile · letters) (funext same)
  rw [trim, atStart, atEnd, trim]

end Text

namespace Catalogue

/-- The Zig file of options of texts is made up of the same code points when it is rendered from
theirs. -/
theorem renderConfigFile_codes (entries : List Entry) :
    renderConfigFile (entries.map Entry.codes) = Text.codes (renderConfigFile entries) := by
  have blanks (text : Text) : withoutBlanks (Text.codes text) = Text.codes (withoutBlanks text) :=
    Text.trim_map (fun _ => rfl) text
  have fields (entry : Entry) : renderField entry.codes = Text.codes (renderField entry) := by
    simp only [renderField, Entry.codes, blanks, Text.codes_append]
    rfl
  have each (entries : List Entry) : (entries.map Entry.codes).flatMap renderField =
      Text.codes (entries.flatMap renderField) := by
    rw [List.flatMap_map, Text.codes, List.map_flatMap]
    exact congrArg (List.flatMap · entries) (funext fields)
  rw [renderConfigFile_eq, Text.codes_append, Text.codes_append, ← each]
  rfl

/-- Options of code points are some of texts exactly if they are their code points. -/
theorem ofCodes?_eq_some_iff {options : List (Entry CodePoint)} {entries : List Entry} :
    ofCodes? options = some entries ↔ options = entries.map Entry.codes := by
  unfold ofCodes?
  induction options generalizing entries with
  | nil => cases entries <;> simp
  | cons option rest inductionHypothesis =>
      rw [List.mapM_cons]
      simp only [Option.bind_eq_bind, Option.bind_eq_some_iff, Option.pure_def, Option.some.injEq,
        Entry.ofCodes?_eq_some_iff, inductionHypothesis]
      constructor
      · rintro ⟨_, rfl, _, rfl, rfl⟩
        rfl
      · intro same
        cases entries with
        | nil => cases same
        | cons entry later =>
            obtain ⟨rfl, rfl⟩ := List.cons.inj same
            exact ⟨entry, rfl, later, rfl, rfl⟩

/-- Options of texts are told apart by their code points. -/
theorem map_codes_injective :
    Function.Injective (List.map Entry.codes : List Entry -> List (Entry CodePoint)) :=
  fun _ _ same => Option.some.inj ((ofCodes?_eq_some_iff.mpr rfl).symm.trans
    (ofCodes?_eq_some_iff.mpr same))

/-- An option is one of texts unless there is a surrogate in it. -/
theorem Entry.ofCodes?_eq_none_iff {option : Entry CodePoint} :
    Entry.ofCodes? option = none ↔ ∃ index, CodePoint.surrogate index ∈ option.name ∨
      CodePoint.surrogate index ∈ option.description ∨
      CodePoint.surrogate index ∈ option.zigType ∨
      CodePoint.surrogate index ∈ option.initializer := by
  simp only [exists_or, ← Text.ofCodes?_eq_none_iff]
  unfold Entry.ofCodes?
  cases Text.ofCodes? option.name <;> cases Text.ofCodes? option.description <;>
    cases Text.ofCodes? option.zigType <;> cases Text.ofCodes? option.initializer <;> simp

/-- The field of an option has the surrogates that are in its texts. -/
theorem surrogate_mem_renderField_iff {option : Entry CodePoint} {index : Fin 0x800} :
    CodePoint.surrogate index ∈ renderField option ↔
      CodePoint.surrogate index ∈ option.name ∨ CodePoint.surrogate index ∈ option.description ∨
        CodePoint.surrogate index ∈ option.zigType ∨
        CodePoint.surrogate index ∈ option.initializer := by
  have kept (codes : Codes) : CodePoint.surrogate index ∈ withoutBlanks codes ↔
      CodePoint.surrogate index ∈ codes :=
    (Text.mem_trimEnd rfl).trans (Text.mem_trimStart rfl)
  have none (text : Text) : CodePoint.surrogate index ∉ (Letter.ofText text : Codes) :=
    Text.surrogate_not_mem_codes text
  simp only [renderField, List.mem_append, kept, none, false_or, or_false]
  tauto

/-- The Zig file has no bytes exactly if not all options are of texts. -/
theorem utf8OfCodes?_renderConfigFile_eq_none_iff {options : List (Entry CodePoint)} :
    Text.utf8OfCodes? (renderConfigFile options) = none ↔ ofCodes? options = none := by
  have none (text : Text) (index : Fin 0x800) :
      CodePoint.surrogate index ∉ (Letter.ofText text : Codes) :=
    Text.surrogate_not_mem_codes text
  rw [Text.utf8OfCodes?_eq_none_iff, Text.ofCodes?_eq_none_iff, ofCodes?, mapM_eq_none_iff]
  simp only [renderConfigFile, List.mem_append, none, false_or, or_false, List.mem_flatMap,
    surrogate_mem_renderField_iff, Entry.ofCodes?_eq_none_iff]
  exact ⟨fun ⟨index, option, member, held⟩ => ⟨option, member, index, held⟩,
    fun ⟨option, member, index, held⟩ => ⟨index, option, member, held⟩⟩

end Catalogue

end EditorData
