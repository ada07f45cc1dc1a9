import EditorData.Catalogue.Entry
import EditorData.Proofs.Dictionary
import EditorData.Proofs.Results
import Mathlib.Data.List.Nodup

/-!
# Options by their names

What is written about options under their names has an entry for each name, in the order in which
the names first occur, and the entry is that of the last option of the name (`keys_properties`,
`find?_properties`). An option has a JSON type exactly if its Zig type is one of three.
-/

namespace EditorData

/-- Names that are told apart when they are changed are distinct in the same places. -/
theorem eraseDups_map {α β : Type} [BEq α] [LawfulBEq α] [BEq β] [LawfulBEq β]
    {change : α -> β} (apart : Function.Injective change) (list : List α) :
    (list.map change).eraseDups = list.eraseDups.map change := by
  induction list using List.reverseRecOn with
  | nil => rfl
  | append_singleton list last inductionHypothesis =>
      have held : change last ∈ list.map change ↔ last ∈ list :=
        ⟨fun member => by
          obtain ⟨other, within, same⟩ := List.mem_map.mp member
          exact apart same ▸ within, List.mem_map_of_mem⟩
      rw [List.map_append, List.eraseDups_append, List.eraseDups_append, List.map_append,
        inductionHypothesis]
      simp only [List.removeAll, List.map_cons, List.map_nil, List.filter_cons, List.filter_nil,
        List.elem_eq_mem, held]
      by_cases member : last ∈ list <;> simp [member, List.eraseDups_cons]

namespace Catalogue

/-- Whether a Zig type has a JSON type. -/
def Supported (zigType : Text) : Prop :=
  zigType ∈ Dictionary.keys jsonTypes

/-- An option is the last one of its name. -/
def IsLast (entries : List Entry) (entry : Entry) : Prop :=
  ∃ before after, entries = before ++ entry :: after ∧
    ∀ later ∈ after, later.name ≠ entry.name

/-- Every name has a last option. -/
theorem exists_isLast {entries : List Entry} {name : Text}
    (held : name ∈ entries.map Entry.name) : ∃ entry, IsLast entries entry ∧ entry.name = name := by
  induction entries with
  | nil => cases held
  | cons first rest inductionHypothesis =>
      by_cases later : name ∈ rest.map Entry.name
      · obtain ⟨entry, ⟨before, after, rfl, others⟩, named⟩ := inductionHypothesis later
        exact ⟨entry, ⟨first :: before, after, rfl, others⟩, named⟩
      · rw [List.map_cons, List.mem_cons] at held
        obtain rfl := held.resolve_right later
        exact ⟨first, ⟨[], rest, rfl, fun other member same =>
          later (List.mem_map.mpr ⟨other, member, same⟩)⟩, rfl⟩

variable {zigType : Text} {fault : Fault}

/-- A supported type has a JSON type. -/
theorem jsonType_isOk_iff : (∃ type, jsonType zigType = .ok type) ↔ Supported zigType := by
  rw [Supported, ← Dictionary.isSome_find?_iff]
  unfold jsonType
  cases Dictionary.find? zigType jsonTypes with
  | none => exact iff_of_false nofun nofun
  | some name => exact iff_of_true ⟨name, rfl⟩ rfl

/-- A type that is not supported is a fault. -/
theorem jsonType_eq_error_iff :
    jsonType zigType = .error fault ↔ ¬ Supported zigType ∧ fault = .unsupportedType zigType := by
  rw [Supported, ← Dictionary.isSome_find?_iff]
  unfold jsonType
  cases Dictionary.find? zigType jsonTypes with
  | none =>
      exact ⟨fun failed => ⟨nofun, (Except.error.inj failed).symm⟩, fun named => named.2 ▸ rfl⟩
  | some name => exact iff_of_false nofun fun held => held.1 rfl

section Properties

variable {render : Entry -> Except Fault (Text × Json)} {key : Text -> Text}
  {entries : List Entry} {properties : List (Text × Json)}

/-- The properties of options are in their order, each under the name of its option. -/
theorem keys_of_forall₂
    (named : ∀ entry property, render entry = .ok property → property.1 = key entry.name)
    (each : List.Forall₂ (fun entry property => render entry = .ok property) entries properties) :
    properties.map Prod.fst = entries.map fun entry => key entry.name := by
  induction each with
  | nil => rfl
  | cons first later inductionHypothesis =>
      rw [List.map_cons, List.map_cons, inductionHypothesis, named _ _ first]

/-- Every name has its property, in the order in which the names first occur. -/
theorem keys_properties (apart : Function.Injective key)
    (named : ∀ entry property, render entry = .ok property → property.1 = key entry.name)
    (done : entries.mapM render = .ok properties) :
    (Dictionary.ofList properties).map Prod.fst =
      (entries.map Entry.name).eraseDups.map key := by
  rw [← eraseDups_map apart, List.map_map]
  have same := keys_of_forall₂ named (mapM_eq_ok_iff.mp done)
  exact (Dictionary.keys_ofList properties).trans (congrArg List.eraseDups same)

/-- The property of a name is that of the last option of the name. -/
theorem find?_properties (apart : Function.Injective key)
    (named : ∀ entry property, render entry = .ok property → property.1 = key entry.name)
    (done : entries.mapM render = .ok properties) {entry : Entry} (last : IsLast entries entry) :
    ∃ value, render entry = .ok (key entry.name, value) ∧
      Dictionary.find? (key entry.name) (Dictionary.ofList properties) = some value := by
  obtain ⟨before, after, rfl, others⟩ := last
  have each := mapM_eq_ok_iff.mp done
  obtain ⟨earlier, ⟨name, value⟩, later, rfl, here, following⟩ := exists_split_of_forall₂ each
  obtain rfl := named entry _ here
  refine ⟨value, here, Dictionary.find?_ofList fun member => ?_⟩
  have same := keys_of_forall₂ named following
  rw [Dictionary.keys, same, List.mem_map] at member
  obtain ⟨other, within, equal⟩ := member
  exact others other within (apart equal)

/-- There are no properties but those of the last options of their names. -/
theorem isLast_of_mem_properties (apart : Function.Injective key)
    (named : ∀ entry property, render entry = .ok property → property.1 = key entry.name)
    (done : entries.mapM render = .ok properties) {property : Text × Json}
    (member : property ∈ Dictionary.ofList properties) :
    ∃ entry, IsLast entries entry ∧ render entry = .ok property := by
  have held : property.1 ∈ (entries.map Entry.name).eraseDups.map key :=
    keys_properties apart named done ▸ List.mem_map_of_mem member
  obtain ⟨name, within, same⟩ := List.mem_map.mp held
  obtain ⟨entry, last, rfl⟩ := exists_isLast (List.mem_eraseDups.mp within)
  obtain ⟨value, made, found⟩ := find?_properties apart named done last
  have equal : (key entry.name, value) = property :=
    List.inj_on_of_nodup_map (Dictionary.nodup_keys_ofList properties)
      (Dictionary.mem_of_find? found) member same
  exact ⟨entry, last, equal ▸ made⟩

end Properties

end Catalogue

end EditorData
