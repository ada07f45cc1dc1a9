import EditorData.Catalogue.ConfigFile
import EditorData.Catalogue.Table
import EditorData.Proofs.Catalogue.EditorProperties
import EditorData.Proofs.Catalogue.Schema
import EditorData.Proofs.Text.Trimming

/-!
# Blanks around names and types

The Zig file and the table take the blanks off the texts of an option, and the schema and the
configuration properties do not. So blanks around names and types make no difference to the first
two, and to the others only if nothing is rendered anyway (`agrees_iff`).
-/

namespace EditorData.Catalogue

/-- An option with blanks around its name and its type. -/
structure Padded (entry padded : Entry) : Prop where
  name : Text.Surrounded Text.isBlank entry.name padded.name
  zigType : Text.Surrounded Text.isBlank entry.zigType padded.zigType
  description : padded.description = entry.description
  initializer : padded.initializer = entry.initializer

/-- The option without blanks around its name and its type. -/
def unpadded (entry : Entry) : Entry :=
  { entry with name := Text.trimmed entry.name, zigType := Text.trimmed entry.zigType }

/-- Properties name options: there is one for each name, in the order in which the names first
occur, and it has the JSON type of the last option of the name. -/
structure NamesOptions (options : List Entry) (key : Text -> Text)
    (properties : List (Text × Json)) : Prop where
  names : properties.map Prod.fst = (options.map Entry.name).eraseDups.map key
  types : ∀ entry, IsLast options entry → ∃ type members, jsonType entry.zigType = .ok type ∧
    Dictionary.find? (key entry.name) properties = some (.record members) ∧
    Dictionary.find? "type".toList members = some (.text type)

/-- The files about options agree on padded options: the Zig file and the table are as without the
padding, and the schema and the configuration properties name the same options, without blanks
around them, or they end in the same fault as without the padding. -/
structure Agrees [Limits] (entries padded : List Entry) : Prop where
  configFile : renderConfigFile padded = renderConfigFile entries
  table : renderTable padded = renderTable entries
  schema : (∃ properties, schemaProperties padded = .ok properties ∧
      NamesOptions (entries.map unpadded) id (Dictionary.ofList properties)) ∨
    ∃ fault, renderSchema padded = .error fault ∧ renderSchema entries = .error fault
  editor : (∃ properties own, editorProperties padded = .ok properties ∧
      Dictionary.ofList (extensionProperties ++ properties) = extensionProperties ++ own ∧
      renderEditorProperties padded =
        .ok (Json.print (.record (extensionProperties ++ own))) ∧
      NamesOptions (entries.map unpadded) ("zls.".toList ++ ·) own) ∨
    ∃ fault, renderEditorProperties padded = .error fault ∧
      renderEditorProperties entries = .error fault

/-- The first type that is not supported. -/
def FirstUnsupported (zigType : Text) : List Entry -> Prop :=
  First (fun entry => Supported entry.zigType)
    fun entry => ¬ Supported entry.zigType ∧ entry.zigType = zigType

/-- The first option that is refused is refused for a fault. -/
def FirstRefused [Limits] (fault : Fault) : List Entry -> Prop :=
  First Accepted fun entry => Refused entry fault

/-- Options that are rendered as they are: their names have no blanks around them, and their types
are supported. -/
def Clean (entries : List Entry) : Prop :=
  ∀ entry ∈ entries, Supported entry.zigType ∧ Text.IsTrimmed Text.isBlank entry.name

/-- Neither the schema nor the configuration properties are rendered, for the same faults with and
without the padding. -/
structure SameFaults [Limits] (entries padded : List Entry) : Prop where
  unsupported : ∃ zigType, FirstUnsupported zigType padded ∧ FirstUnsupported zigType entries
  refused : ∃ fault, FirstRefused fault padded ∧ FirstRefused fault entries

variable {entries paddedEntries : List Entry} {entry padded : Entry} {zigType : Text}
  {fault : Fault} {key : Text -> Text}

/-- Supported types have no blanks around them. -/
theorem isTrimmed_of_supported (supported : Supported zigType) :
    Text.IsTrimmed Text.isBlank zigType := by
  have all : ∀ zigType ∈ Dictionary.keys jsonTypes, Text.IsTrimmed Text.isBlank zigType := by decide
  exact all zigType supported

namespace Padded

/-- Padding is taken off with all other blanks. -/
theorem unpadded_eq (padding : Padded entry padded) : unpadded padded = unpadded entry := by
  unfold unpadded Text.trimmed
  rw [padding.name.trim_eq, padding.zigType.trim_eq, padding.description, padding.initializer]

/-- Padding makes no difference to the field of an option. -/
theorem renderField_eq (padding : Padded entry padded) :
    renderField padded = renderField entry := by
  rw [Catalogue.renderField_eq, Catalogue.renderField_eq]
  unfold Text.trimmed
  rw [padding.name.trim_eq, padding.zigType.trim_eq, padding.description, padding.initializer]

/-- Padding makes no difference to the row of an option. -/
theorem renderRow_eq (padding : Padded entry padded) : renderRow padded = renderRow entry := by
  unfold renderRow Text.trimmed
  rw [padding.name.trim_eq, padding.zigType.trim_eq, padding.description, padding.initializer]

/-- An option without blanks around its name and its type is not padded. -/
theorem eq_of_isTrimmed (padding : Padded entry padded)
    (name : Text.IsTrimmed Text.isBlank padded.name)
    (zigType : Text.IsTrimmed Text.isBlank padded.zigType) : padded = entry := by
  obtain ⟨paddedName, description, paddedType, initializer⟩ := padded
  obtain rfl := padding.name.eq_of_isTrimmed name
  obtain rfl := padding.zigType.eq_of_isTrimmed zigType
  obtain rfl := padding.description
  obtain rfl := padding.initializer
  rfl

end Padded

/-- What is the same for padded options is the same for lists of them. -/
theorem map_eq_of_padded {α : Type} {render : Entry -> α}
    (same : ∀ {entry padded}, Padded entry padded → render padded = render entry)
    (padding : List.Forall₂ Padded entries paddedEntries) :
    paddedEntries.map render = entries.map render := by
  induction padding with
  | nil => rfl
  | cons first later inductionHypothesis =>
      rw [List.map_cons, List.map_cons, same first, inductionHypothesis]

/-- Padding makes no difference to the Zig file. -/
theorem renderConfigFile_padded (padding : List.Forall₂ Padded entries paddedEntries) :
    renderConfigFile paddedEntries = renderConfigFile entries := by
  rw [renderConfigFile_eq, renderConfigFile_eq, List.flatMap_def, List.flatMap_def,
    map_eq_of_padded Padded.renderField_eq padding]

/-- Padding makes no difference to the table. -/
theorem renderTable_padded (padding : List.Forall₂ Padded entries paddedEntries) :
    renderTable paddedEntries = renderTable entries := by
  rw [renderTable, renderTable, List.flatMap_def, List.flatMap_def,
    map_eq_of_padded Padded.renderRow_eq padding]

/-- Properties that are made of options one by one name them, if each has the name of its option and
the JSON type of it. -/
theorem namesOptions_ofList {render : Entry -> Except Fault (Text × Json)}
    {properties : List (Text × Json)} (apart : Function.Injective key)
    (made : ∀ entry property, render entry = .ok property → ∃ type members,
      jsonType entry.zigType = .ok type ∧ property = (key entry.name, .record members) ∧
      Dictionary.find? "type".toList members = some (.text type))
    (done : entries.mapM render = .ok properties) :
    NamesOptions entries key (Dictionary.ofList properties) := by
  have named : ∀ entry property, render entry = .ok property → property.1 = key entry.name := by
    intro entry property here
    obtain ⟨type, members, -, rfl, -⟩ := made entry property here
    rfl
  refine ⟨keys_properties apart named done, fun entry last => ?_⟩
  obtain ⟨value, here, found⟩ := find?_properties apart named done last
  obtain ⟨type, members, known, same, typed⟩ := made entry _ here
  exact ⟨type, members, known, found.trans (congrArg some (Prod.mk.inj same).2), typed⟩

/-- The schema names the options that it is rendered for. -/
theorem namesOptions_schema {properties : List (Text × Json)}
    (done : schemaProperties entries = .ok properties) :
    NamesOptions entries id (Dictionary.ofList properties) := by
  rw [schemaProperties_eq] at done
  refine namesOptions_ofList Function.injective_id (fun entry property here => ?_) done
  obtain ⟨type, known, rfl⟩ := schemaProperty_eq_ok_iff.mp here
  exact ⟨type, _, known, rfl, rfl⟩

/-- The configuration properties name the options that they are rendered for, behind those of the
extension. -/
theorem namesOptions_editor [Limits] {properties : List (Text × Json)}
    (done : editorProperties entries = .ok properties) :
    Dictionary.ofList (extensionProperties ++ properties) =
        extensionProperties ++ Dictionary.ofList properties ∧
      NamesOptions entries ("zls.".toList ++ ·) (Dictionary.ofList properties) := by
  rw [editorProperties_eq] at done
  have made : ∀ entry property, editorProperty entry = .ok property → ∃ type members,
      jsonType entry.zigType = .ok type ∧
      property = ("zls.".toList ++ entry.name, .record members) ∧
      Dictionary.find? "type".toList members = some (.text type) := by
    intro entry property here
    obtain ⟨type, initial, known, -, rfl⟩ := editorProperty_eq_ok_iff.mp here
    exact ⟨type, _, known, rfl, rfl⟩
  exact ⟨ofList_append_properties done, namesOptions_ofList optionKey_injective made done⟩

/-- Options without blanks around their names and with supported types are their own unpadded
form. -/
theorem Clean.map_unpadded (clean : Clean entries) : entries.map unpadded = entries := by
  have own : ∀ entry ∈ entries, unpadded entry = id entry := by
    intro entry member
    obtain ⟨supported, name⟩ := clean entry member
    rw [unpadded, Text.trimmed, Text.trimmed, name.trim_eq,
      (isTrimmed_of_supported supported).trim_eq, id]
  rw [List.map_congr_left own, List.map_id]

/-- The schema accepts padded options and names them without blanks exactly if they are clean. -/
theorem schema_names_iff (padding : List.Forall₂ Padded entries paddedEntries) :
    (∃ properties, schemaProperties paddedEntries = .ok properties ∧
        NamesOptions (entries.map unpadded) id (Dictionary.ofList properties)) ↔
      Clean paddedEntries := by
  have same : paddedEntries.map unpadded = entries.map unpadded :=
    map_eq_of_padded Padded.unpadded_eq padding
  rw [← same]
  constructor
  · rintro ⟨properties, done, names⟩ padded member
    have supported := renderSchema_isOk_iff.mp (map_isOk_iff.mpr ⟨properties, done⟩)
    refine ⟨supported padded member, ?_⟩
    -- Its name is a key of the schema, and those are names without blanks.
    have keys := names.names
    rw [(namesOptions_schema done).names, List.map_id, List.map_id, List.map_map] at keys
    have held : padded.name ∈ (paddedEntries.map Entry.name).eraseDups :=
      List.mem_eraseDups.mpr (List.mem_map_of_mem member)
    rw [keys, List.mem_eraseDups] at held
    obtain ⟨other, -, trimmed⟩ := List.mem_map.mp held
    rw [← trimmed]
    exact Text.isTrimmed_trim Text.isBlank other.name
  · intro clean
    obtain ⟨properties, done⟩ := map_isOk_iff.mp
      (renderSchema_isOk_iff.mpr fun padded member => (clean padded member).1)
    rw [clean.map_unpadded]
    exact ⟨properties, done, namesOptions_schema done⟩

/-- A schema ends in a fault exactly if there is a first type that is not supported. -/
theorem renderSchema_fault_iff :
    renderSchema entries = .error fault ↔
      ∃ zigType, fault = .unsupportedType zigType ∧ FirstUnsupported zigType entries := by
  rw [renderSchema_eq_error_iff]
  constructor
  · rintro ⟨before, entry, after, whole, earlier, unsupported, rfl⟩
    exact ⟨entry.zigType, rfl, before, entry, after, whole, earlier, unsupported, rfl⟩
  · rintro ⟨_, rfl, before, entry, after, whole, earlier, unsupported, rfl⟩
    exact ⟨before, entry, after, whole, earlier, unsupported, rfl⟩

/-- Clean options are not padded. -/
theorem Clean.eq_of_padded (clean : Clean paddedEntries)
    (padding : List.Forall₂ Padded entries paddedEntries) : paddedEntries = entries := by
  induction padding with
  | nil => rfl
  | cons first later inductionHypothesis =>
      obtain ⟨⟨supported, name⟩, others⟩ := List.forall_mem_cons.mp clean
      rw [first.eq_of_isTrimmed name (isTrimmed_of_supported supported),
        inductionHypothesis others]

section Machine

variable [Limits]

/-- A first type that is not supported and has no blanks around it is first without the padding too,
and then the same option is refused first for the same fault. -/
theorem sameFaults_of_padded (padding : List.Forall₂ Padded entries paddedEntries)
    (first : FirstUnsupported zigType paddedEntries)
    (trimmed : Text.IsTrimmed Text.isBlank zigType) : SameFaults entries paddedEntries := by
  suffices both : FirstUnsupported zigType entries ∧
      ∃ fault, FirstRefused fault paddedEntries ∧ FirstRefused fault entries from
    ⟨⟨zigType, first, both.1⟩, both.2⟩
  induction padding with
  | nil =>
      obtain ⟨before, entry, after, whole, -⟩ := first
      exact absurd whole (by simp)
  | @cons entry padded entries paddedEntries here later inductionHypothesis =>
      rcases first_cons_iff.mp first with ⟨unsupported, rfl⟩ | ⟨supported, behind⟩
      · have same := here.zigType.eq_of_isTrimmed trimmed
        refine ⟨first_cons_iff.mpr (.inl ⟨same ▸ unsupported, same.symm⟩),
          .unsupportedType padded.zigType, first_cons_iff.mpr (.inl (.inl ⟨unsupported, rfl⟩)),
          first_cons_iff.mpr (.inl (.inl ⟨same ▸ unsupported, by rw [same]⟩))⟩
      · have same := here.zigType.eq_of_isTrimmed (isTrimmed_of_supported supported)
        obtain ⟨firstThen, fault, refused, refusedThen⟩ := inductionHypothesis behind
        refine ⟨first_cons_iff.mpr (.inr ⟨same ▸ supported, firstThen⟩), ?_⟩
        cases read : Json.read Limits.initializerRoom entry.initializer with
        | error reason =>
            refine ⟨.invalidInitializer entry.initializer reason,
              first_cons_iff.mpr (.inl (.inr ⟨supported, reason, ?_, ?_⟩)),
              first_cons_iff.mpr (.inl (.inr ⟨same ▸ supported, reason, read, rfl⟩))⟩
            · rw [here.initializer, read]
            · rw [here.initializer]
        | ok initial =>
            refine ⟨fault, first_cons_iff.mpr (.inr ⟨⟨supported, initial, ?_⟩, refused⟩),
              first_cons_iff.mpr (.inr ⟨⟨same ▸ supported, initial, read⟩, refusedThen⟩)⟩
            rw [here.initializer, read]

/-- The files agree on clean options, which are not padded. -/
theorem Clean.agrees (clean : Clean paddedEntries)
    (padding : List.Forall₂ Padded entries paddedEntries) : Agrees entries paddedEntries where
  configFile := renderConfigFile_padded padding
  table := renderTable_padded padding
  schema := .inl ((schema_names_iff padding).mpr clean)
  editor := by
    obtain rfl := clean.eq_of_padded padding
    cases rendered : renderEditorProperties paddedEntries with
    | ok text =>
        obtain ⟨properties, made⟩ :=
          editorProperties_isOk_iff.mpr (renderEditorProperties_isOk_iff.mp ⟨text, rendered⟩).1
        rw [← editorProperties_eq] at made
        obtain ⟨split, names⟩ := namesOptions_editor made
        rw [clean.map_unpadded]
        refine .inl ⟨properties, _, made, split, ?_, names⟩
        rw [editorProperties_eq] at made
        obtain ⟨-, done⟩ | ⟨-, failed⟩ := renderEditorProperties_eq made
        · exact rendered.symm.trans done
        · cases rendered.symm.trans failed
    | error fault => exact .inr ⟨fault, rfl, rfl⟩

/-- The files agree where the faults are the same. -/
theorem SameFaults.agrees (faults : SameFaults entries paddedEntries)
    (padding : List.Forall₂ Padded entries paddedEntries) : Agrees entries paddedEntries := by
  obtain ⟨zigType, first, firstThen⟩ := faults.unsupported
  obtain ⟨fault, refused, refusedThen⟩ := faults.refused
  exact
    { configFile := renderConfigFile_padded padding
      table := renderTable_padded padding
      schema := .inr ⟨_, renderSchema_fault_iff.mpr ⟨zigType, rfl, first⟩,
        renderSchema_fault_iff.mpr ⟨zigType, rfl, firstThen⟩⟩
      editor := .inr ⟨fault, renderEditorProperties_eq_error_iff.mpr (.inl refused),
        renderEditorProperties_eq_error_iff.mpr (.inl refusedThen)⟩ }

/-- What the schema does not accept, the configuration properties do not accept either. -/
theorem not_accepted_of_firstUnsupported (first : FirstUnsupported zigType entries) :
    ¬ ∀ entry ∈ entries, Accepted entry := by
  obtain ⟨before, entry, after, rfl, -, unsupported, -⟩ := first
  exact fun accepted => unsupported (accepted entry (by simp)).1

/-- The fault of the configuration properties is then a refusal. -/
theorem firstRefused_of_fault (first : FirstUnsupported zigType entries)
    (failed : renderEditorProperties entries = .error fault) : FirstRefused fault entries :=
  (renderEditorProperties_eq_error_iff.mp failed).resolve_right fun deep =>
    not_accepted_of_firstUnsupported first deep.1

/-- On other options the files do not agree. -/
theorem Agrees.clean_or_faults (agrees : Agrees entries paddedEntries)
    (padding : List.Forall₂ Padded entries paddedEntries) :
    Clean paddedEntries ∨ SameFaults entries paddedEntries := by
  rcases agrees.schema with named | ⟨fault, failed, failedThen⟩
  · exact .inl ((schema_names_iff padding).mp named)
  · obtain ⟨zigType, rfl, first⟩ := renderSchema_fault_iff.mp failed
    obtain ⟨_, ⟨⟩, firstThen⟩ := renderSchema_fault_iff.mp failedThen
    rcases agrees.editor with ⟨properties, own, -, -, done, -⟩ | ⟨fault, refused, refusedThen⟩
    · have accepted := (renderEditorProperties_isOk_iff.mp ⟨_, done⟩).1
      exact absurd accepted (not_accepted_of_firstUnsupported first)
    · exact .inr ⟨⟨zigType, first, firstThen⟩, fault,
        firstRefused_of_fault first refused, firstRefused_of_fault firstThen refusedThen⟩

/-- So they agree on options that can be rendered only if nothing has been padded. -/
theorem Agrees.clean (agrees : Agrees entries paddedEntries)
    (padding : List.Forall₂ Padded entries paddedEntries)
    (supported : ∀ entry ∈ entries, Supported entry.zigType) : Clean paddedEntries := by
  refine (agrees.clean_or_faults padding).resolve_right fun faults => ?_
  obtain ⟨zigType, -, before, entry, after, rfl, -, unsupported, -⟩ := faults.unsupported
  exact unsupported (supported entry (by simp))

/-- Blanks around names and types make no difference to the Zig file and to the table. All files
agree exactly if there are no blanks around names and every type is supported, so that nothing has
been padded, or if the schema and the configuration properties end in the same faults as without the
padding. If the types have no blanks of their own, the faults are the same exactly if the first type
that is not supported has none around it. -/
theorem agrees_iff (padding : List.Forall₂ Padded entries paddedEntries) :
    renderConfigFile paddedEntries = renderConfigFile entries ∧
      renderTable paddedEntries = renderTable entries ∧
      (Agrees entries paddedEntries ↔
        Clean paddedEntries ∨ SameFaults entries paddedEntries) ∧
      ((∀ entry ∈ entries, Text.IsTrimmed Text.isBlank entry.zigType) →
        (SameFaults entries paddedEntries ↔
          ∃ zigType, FirstUnsupported zigType paddedEntries ∧
            Text.IsTrimmed Text.isBlank zigType)) := by
  refine ⟨renderConfigFile_padded padding, renderTable_padded padding, ⟨?_, ?_⟩,
    fun plain => ⟨fun faults => ?_, ?_⟩⟩
  · exact fun agrees => agrees.clean_or_faults padding
  · rintro (clean | faults)
    · exact clean.agrees padding
    · exact faults.agrees padding
  · obtain ⟨zigType, first, before, entry, after, rfl, -, -, rfl⟩ := faults.unsupported
    exact ⟨entry.zigType, first, plain entry (by simp)⟩
  · rintro ⟨zigType, first, trimmed⟩
    exact sameFaults_of_padded padding first trimmed

end Machine

/-- A type that is not supported, with padded options behind it. -/
def unsupportedOptions : List Entry :=
  [⟨"a".toList, "A".toList, "bool".toList, "true".toList⟩,
    ⟨"b".toList, "B".toList, "u8".toList, "0".toList⟩,
    ⟨"c".toList, "C".toList, "usize".toList, "1".toList⟩]

/-- The options with blanks around a name and around the last type. -/
def paddedOptions : List Entry :=
  [⟨"\ta".toList, "A".toList, "bool".toList, "true".toList⟩,
    ⟨"b".toList, "B".toList, "u8".toList, "0".toList⟩,
    ⟨"c \n".toList, "C".toList, " usize ".toList, "1".toList⟩]

/-- Padding makes no difference where the first type that is not supported has none. -/
theorem agrees_paddedOptions :
    List.Forall₂ Padded unsupportedOptions paddedOptions ∧
      @Agrees .usual unsupportedOptions paddedOptions := by
  let machine : Limits := .usual
  have blanks (text : Text) (all : text.all Text.isBlank = true) :
      ∀ c ∈ text, Text.isBlank c = true := List.all_eq_true.mp all
  have none (text : Text) : Text.Surrounded Text.isBlank text text :=
    ⟨[], [], by simp, nofun, nofun⟩
  have padding : List.Forall₂ Padded unsupportedOptions paddedOptions :=
    .cons ⟨⟨['\t'], [], rfl, blanks _ rfl, nofun⟩, none _, rfl, rfl⟩ <|
    .cons ⟨none _, none _, rfl, rfl⟩ <|
    .cons ⟨⟨[], " \n".toList, rfl, nofun, blanks _ rfl⟩,
      ⟨[' '], [' '], rfl, blanks _ rfl, blanks _ rfl⟩, rfl, rfl⟩ .nil
  have plain : ∀ entry ∈ unsupportedOptions, Text.IsTrimmed Text.isBlank entry.zigType := by decide
  have first : FirstUnsupported "u8".toList paddedOptions := by
    refine ⟨paddedOptions.take 1, paddedOptions[1], paddedOptions.drop 2, rfl, ?_, ?_, rfl⟩ <;>
    · unfold Supported
      decide
  obtain ⟨-, -, agrees, faults⟩ := agrees_iff padding
  exact ⟨padding, agrees.mpr (.inr ((faults plain).mpr ⟨_, first, by decide⟩))⟩

/-- An option. -/
def plainOption : List Entry :=
  [⟨"a".toList, "A".toList, "bool".toList, "true".toList⟩]

/-- The option with blanks around its name, and a type. -/
def spacedOption (zigType : Text) : List Entry :=
  [⟨" a ".toList, "A".toList, zigType, "true".toList⟩]

/-- Blanks around a supported type make it a fault of the schema, and those around a name stay in
the schema, where the Zig file has neither. -/
theorem not_agrees_spacedOption :
    List.Forall₂ Padded plainOption (spacedOption " bool".toList) ∧
      renderSchema (spacedOption " bool".toList) = .error (.unsupportedType " bool".toList) ∧
      ¬ @Agrees .usual plainOption (spacedOption " bool".toList) ∧
      List.Forall₂ Padded plainOption (spacedOption "bool".toList) ∧
      (schemaProperties (spacedOption "bool".toList)).map (·.map Prod.fst) =
        .ok [" a ".toList] ∧
      ¬ @Agrees .usual plainOption (spacedOption "bool".toList) := by
  let machine : Limits := .usual
  have space : ∀ c ∈ [' '], Text.isBlank c = true := List.forall_mem_singleton.mpr rfl
  have name : Text.Surrounded Text.isBlank "a".toList " a ".toList :=
    ⟨[' '], [' '], rfl, space, space⟩
  have supported : ∀ entry ∈ plainOption, Supported entry.zigType := by
    unfold Supported
    decide
  have bothPadded : List.Forall₂ Padded plainOption (spacedOption " bool".toList) :=
    .cons ⟨name, ⟨[' '], [], rfl, space, nofun⟩, rfl, rfl⟩ .nil
  have namePadded : List.Forall₂ Padded plainOption (spacedOption "bool".toList) :=
    .cons ⟨name, ⟨[], [], rfl, nofun, nofun⟩, rfl, rfl⟩ .nil
  refine ⟨bothPadded, rfl, fun agrees => ?_, namePadded, rfl, fun agrees => ?_⟩
  · have clean := agrees.clean bothPadded supported
    exact absurd (clean _ List.mem_cons_self).2 (by decide)
  · have clean := agrees.clean namePadded supported
    exact absurd (clean _ List.mem_cons_self).2 (by decide)

end EditorData.Catalogue
