import EditorData.Catalogue.EditorProperties
import EditorData.Proofs.Catalogue.Naming
import EditorData.Proofs.Json.Limits
import EditorData.Proofs.Json.Reading
import EditorData.Proofs.Text.Cutting

/-!
# The configuration properties read back

The properties are rendered exactly if every option has a supported type and an initializer that is
read as a JSON value, and what is printed of the last option of every name does not go too deep. The
first option without is the fault, its type before its initializer, and else the depth is. What is
printed is read as an object with the properties of the extension in front, whatever the options are
called, and behind them a property for every name, that of the last option of the name
(`renderEditorProperties_read_back`). An initializer is put two objects deep, so there has to be
room for it where it is read again.
-/

namespace EditorData.Catalogue

variable {entries : List Entry} {entry : Entry} {fault : Fault} {type : Text} {initial : Json}
  {room : Nat}

section Requirements

variable [Limits]

/-- An option can be made into a property. -/
def Accepted (entry : Entry) : Prop :=
  Supported entry.zigType ∧
    ∃ initial, Json.read Limits.initializerRoom entry.initializer = .ok initial

/-- An option cannot be made into a property. A type without JSON type counts first. -/
def Refused (entry : Entry) (fault : Fault) : Prop :=
  ¬ Supported entry.zigType ∧ fault = .unsupportedType entry.zigType ∨
    Supported entry.zigType ∧ ∃ reason,
      Json.read Limits.initializerRoom entry.initializer = .error reason ∧
      fault = .invalidInitializer entry.initializer reason

/-- Nothing that is printed goes too deep: neither the properties of the extension nor, inside the
object with all of them, the property of the last option of any name. -/
def Printable (entries : List Entry) : Prop :=
  (Json.record extensionProperties).depth Limits.printingDepth ≤ Limits.printingRoom ∧
    ∀ entry, IsLast entries entry → ∀ type initial, jsonType entry.zigType = .ok type →
      Json.read Limits.initializerRoom entry.initializer = .ok initial →
      (Json.record (propertyMembers entry type initial)).depth Limits.printingDepth <
        Limits.printingRoom

end Requirements

/-- What the members of a property say about an option: its type and description, that it is a path
if its name mentions one, and its initial value unless that is null. -/
structure Describes (entry : Entry) (type : Text) (initial : Json)
    (members : List (Text × Json)) : Prop where
  scope : Dictionary.find? "scope".toList members = some (.text "resource".toList)
  type : Dictionary.find? "type".toList members = some (.text type)
  description : Dictionary.find? "description".toList members = some (.text entry.description)
  format : ∀ value, Dictionary.find? "format".toList members = some value ↔
    value = .text "path".toList ∧ "path".toList <:+: entry.name
  initial : ∀ value, Dictionary.find? "default".toList members = some value ↔
    value = initial ∧ initial ≠ .null
  others : ∀ key ∈ members.map Prod.fst, key ∈ ["scope".toList, "type".toList,
    "description".toList, "format".toList, "default".toList]

/-- The name of an option mentions a path exactly if `path` stands in it. -/
theorem mentionsPath_iff {name : Text} : mentionsPath name = true ↔ "path".toList <:+: name := by
  unfold mentionsPath
  cases found : Text.cut? "path".toList name with
  | none => exact iff_of_false nofun (Text.cut?_eq_none_iff.mp found)
  | some sides =>
      exact iff_of_true rfl ⟨sides.1, sides.2, (Text.eq_append_of_cut? found).symm⟩

/-- The member that says that an option is a path, if it is one. -/
def formatMember (name : Text) : List (Text × Json) :=
  if mentionsPath name then [("format".toList, .text "path".toList)] else []

/-- The member for the initial value of an option, if there is one. -/
def initialMember : Json -> List (Text × Json)
  | .null => []
  | value => [("default".toList, value)]

/-- An option has the member for a path exactly if its name mentions one. -/
theorem formatMember_cases (name : Text) :
    "path".toList <:+: name ∧ formatMember name = [("format".toList, .text "path".toList)] ∨
      ¬ "path".toList <:+: name ∧ formatMember name = [] := by
  rw [← mentionsPath_iff]
  unfold formatMember
  split
  · next mentions => exact .inl ⟨mentions, rfl⟩
  · next other => exact .inr ⟨other, rfl⟩

/-- There is no member for null, and one for every other value. -/
theorem initialMember_cases (initial : Json) :
    initial ≠ .null ∧ initialMember initial = [("default".toList, initial)] ∨
      initial = .null ∧ initialMember initial = [] := by
  cases initial with
  | null => exact .inr ⟨rfl, rfl⟩
  | _ => exact .inl ⟨nofun, rfl⟩

/-- The members of a property: three that every option has, and two that it may have. -/
theorem propertyMembers_eq (entry : Entry) (type : Text) (initial : Json) :
    propertyMembers entry type initial =
      [("scope".toList, .text "resource".toList), ("type".toList, .text type),
        ("description".toList, .text entry.description)] ++
      formatMember entry.name ++ initialMember initial :=
  rfl

/-- The keys of a property, of which the last two may be missing. -/
def propertyKeys : List Text :=
  ["scope".toList, "type".toList, "description".toList, "format".toList, "default".toList]

/-- The keys of the members of a property are among five, in their order. -/
theorem keys_propertyMembers_sublist (entry : Entry) (type : Text) (initial : Json) :
    ((propertyMembers entry type initial).map Prod.fst).Sublist propertyKeys := by
  have format : ((formatMember entry.name).map Prod.fst).Sublist ["format".toList] := by
    rcases formatMember_cases entry.name with ⟨-, member⟩ | ⟨-, member⟩ <;> rw [member] <;> simp
  have last : ((initialMember initial).map Prod.fst).Sublist ["default".toList] := by
    rcases initialMember_cases initial with ⟨-, member⟩ | ⟨-, member⟩ <;> rw [member] <;> simp
  rw [propertyMembers_eq, List.map_append, List.map_append]
  exact ((List.Sublist.refl ["scope".toList, "type".toList, "description".toList]).append
    format).append last

/-- The members of a property describe the option. -/
theorem describes_propertyMembers (entry : Entry) (type : Text) (initial : Json) :
    Describes entry type initial (propertyMembers entry type initial) where
  scope := rfl
  type := rfl
  description := rfl
  format value := by
    have behind : Dictionary.find? "format".toList (initialMember initial) = none := by
      rcases initialMember_cases initial with ⟨-, member⟩ | ⟨-, member⟩ <;> rw [member] <;> rfl
    rw [propertyMembers_eq, Dictionary.find?_append, behind, Option.or_none]
    rcases formatMember_cases entry.name with ⟨path, member⟩ | ⟨other, member⟩
    · rw [member]
      exact ⟨fun found => ⟨(Option.some.inj found).symm, path⟩,
        fun held => congrArg some held.1.symm⟩
    · rw [member]
      exact iff_of_false nofun fun held => other held.2
  initial value := by
    have front : Dictionary.find? "default".toList (formatMember entry.name) = none := by
      rcases formatMember_cases entry.name with ⟨-, member⟩ | ⟨-, member⟩ <;> rw [member] <;> rfl
    rw [propertyMembers_eq, Dictionary.find?_append, Dictionary.find?_append, front,
      Option.or_none]
    rcases initialMember_cases initial with ⟨present, member⟩ | ⟨null, member⟩
    · rw [member]
      exact ⟨fun found => ⟨(Option.some.inj found).symm, present⟩,
        fun held => congrArg some held.1.symm⟩
    · rw [member]
      exact iff_of_false nofun fun held => held.2 null
  others := (keys_propertyMembers_sublist entry type initial).subset

/-- The extension has no key for an option. -/
theorem optionKey_not_mem_extensionProperties (name : Text) :
    "zls.".toList ++ name ∉ Dictionary.keys extensionProperties := by
  have others : ∀ key ∈ Dictionary.keys extensionProperties, key.head? ≠ some 'z' := by decide
  exact fun member => others _ member rfl

/-- The properties of the extension stay in front of those of the options. -/
theorem ofList_extensionProperties {properties : List (Text × Json)}
    (named : ∀ property ∈ properties, ∃ name, property.1 = "zls.".toList ++ name) :
    Dictionary.ofList (extensionProperties ++ properties) =
      extensionProperties ++ Dictionary.ofList properties := by
  refine Dictionary.ofList_append (by decide) fun key member => ?_
  obtain ⟨property, held, rfl⟩ := List.mem_map.mp member
  obtain ⟨name, same⟩ := named property held
  rw [same]
  exact optionKey_not_mem_extensionProperties name

/-- The names of options stay apart in front of which the same stands. -/
theorem optionKey_injective : Function.Injective ("zls.".toList ++ · : Text -> Text) :=
  List.append_right_injective _

section Rendering

variable [Limits]

/-- The property of an option is had from its type and its initializer. -/
theorem editorProperty_eq_ok_iff {property : Text × Json} :
    editorProperty entry = .ok property ↔
      ∃ type initial, jsonType entry.zigType = .ok type ∧
        Json.read Limits.initializerRoom entry.initializer = .ok initial ∧
        property = ("zls.".toList ++ entry.name, .record (propertyMembers entry type initial)) := by
  unfold editorProperty
  cases jsonType entry.zigType with
  | error other => exact iff_of_false nofun (by simp)
  | ok type =>
      cases Json.read Limits.initializerRoom entry.initializer with
      | error other => exact iff_of_false nofun (by simp)
      | ok initial =>
          refine ⟨fun done => ⟨type, initial, rfl, rfl, (Except.ok.inj done).symm⟩, ?_⟩
          rintro ⟨_, _, ⟨⟩, ⟨⟩, rfl⟩
          rfl

/-- A property is called after its option. -/
theorem name_of_editorProperty {entry : Entry} {property : Text × Json}
    (made : editorProperty entry = .ok property) : property.1 = "zls.".toList ++ entry.name := by
  obtain ⟨type, initial, -, -, rfl⟩ := editorProperty_eq_ok_iff.mp made
  rfl

/-- An option has a property exactly if it is accepted. -/
theorem editorProperty_isOk_iff :
    (∃ property, editorProperty entry = .ok property) ↔ Accepted entry := by
  simp only [editorProperty_eq_ok_iff, Accepted, ← jsonType_isOk_iff]
  constructor
  · rintro ⟨_, type, initial, known, read, -⟩
    exact ⟨⟨type, known⟩, initial, read⟩
  · rintro ⟨⟨type, known⟩, initial, read⟩
    exact ⟨_, type, initial, known, read, rfl⟩

/-- An option has no property exactly if it is refused. -/
theorem editorProperty_eq_error_iff :
    editorProperty entry = .error fault ↔ Refused entry fault := by
  unfold Refused editorProperty
  rw [← jsonType_eq_error_iff]
  rw [← jsonType_isOk_iff]
  cases jsonType entry.zigType with
  | error other => simp
  | ok type =>
      cases Json.read Limits.initializerRoom entry.initializer with
      | error reason => simp [eq_comm]
      | ok initial => simp

/-- The properties of options are had one after the other. -/
theorem editorProperties_eq (entries : List Entry) :
    editorProperties entries = entries.mapM editorProperty := by
  have next (entry : Entry) (rest : List Entry) : editorProperties (entry :: rest) =
      editorProperty entry >>= fun property => (editorProperties rest).map (property :: ·) := by
    rw [editorProperties]
    cases editorProperty entry <;> rfl
  have none : editorProperties [] = .ok [] := rfl
  exact eq_mapM none next entries

/-- All options have properties exactly if every one is accepted. -/
theorem editorProperties_isOk_iff :
    (∃ properties, entries.mapM editorProperty = .ok properties) ↔
      ∀ entry ∈ entries, Accepted entry := by
  rw [mapM_isOk_iff]
  simp only [editorProperty_isOk_iff]

/-- The fault of options without properties is that of the first one that is refused. -/
theorem editorProperties_eq_error_iff :
    entries.mapM editorProperty = .error fault ↔
      ∃ before entry after, entries = before ++ entry :: after ∧
        (∀ earlier ∈ before, Accepted earlier) ∧ Refused entry fault := by
  rw [mapM_eq_error_iff]
  simp only [editorProperty_isOk_iff, editorProperty_eq_error_iff]

variable {properties : List (Text × Json)}

/-- The properties that are printed go no deeper than they may exactly if they are printable. -/
theorem printable_iff (made : entries.mapM editorProperty = .ok properties) :
    (Json.record (extensionProperties ++ Dictionary.ofList properties)).depth Limits.printingDepth ≤
      Limits.printingRoom ↔ Printable entries := by
  rw [Printable, Json.depth_record_le_iff, Json.depth_record_le_iff, List.forall_mem_append,
    ← and_assoc]
  refine and_congr_right fun _ => ⟨fun low entry last type initial known read => ?_,
    fun low property member => ?_⟩
  · obtain ⟨value, here, found⟩ :=
      find?_properties optionKey_injective (fun _ _ => name_of_editorProperty) made last
    have same := here.symm.trans (editorProperty_eq_ok_iff.mpr ⟨type, initial, known, read, rfl⟩)
    rw [← (Prod.mk.inj (Except.ok.inj same)).2]
    exact low _ (Dictionary.mem_of_find? found)
  · obtain ⟨entry, last, here⟩ :=
      isLast_of_mem_properties optionKey_injective (fun _ _ => name_of_editorProperty) made member
    obtain ⟨type, initial, known, read, rfl⟩ := editorProperty_eq_ok_iff.mp here
    exact low entry last type initial known read

/-- The properties of the extension stay in front of those that are made of options. -/
theorem ofList_append_properties (made : entries.mapM editorProperty = .ok properties) :
    Dictionary.ofList (extensionProperties ++ properties) =
      extensionProperties ++ Dictionary.ofList properties :=
  ofList_extensionProperties fun property member => by
    obtain ⟨entry, -, here⟩ := exists_of_mem_forall₂ (mapM_eq_ok_iff.mp made) member
    exact ⟨entry.name, name_of_editorProperty here⟩

/-- Options with properties are rendered, unless the properties go too deep to be printed. -/
theorem renderEditorProperties_eq (made : entries.mapM editorProperty = .ok properties) :
    Printable entries ∧ renderEditorProperties entries =
        .ok (Json.print (.record (extensionProperties ++ Dictionary.ofList properties))) ∨
      ¬ Printable entries ∧ renderEditorProperties entries = .error .tooDeep := by
  rw [renderEditorProperties, editorProperties_eq, made, ← printable_iff made,
    ← ofList_append_properties made]
  dsimp only [printProperties]
  split
  · next low => exact .inl ⟨low, rfl⟩
  · next deep => exact .inr ⟨deep, rfl⟩

/-- The properties are rendered exactly if every option is accepted and they are printable. -/
theorem renderEditorProperties_isOk_iff :
    (∃ text, renderEditorProperties entries = .ok text) ↔
      (∀ entry ∈ entries, Accepted entry) ∧ Printable entries := by
  rw [← editorProperties_isOk_iff]
  cases made : entries.mapM editorProperty with
  | error fault =>
      rw [renderEditorProperties, editorProperties_eq, made]
      exact iff_of_false nofun nofun
  | ok properties =>
      rcases renderEditorProperties_eq made with ⟨low, done⟩ | ⟨deep, failed⟩
      · exact iff_of_true ⟨_, done⟩ ⟨⟨_, rfl⟩, low⟩
      · rw [failed]
        exact iff_of_false nofun fun held => deep held.2

/-- The fault of the properties is that of the first option that is refused, or that they go too
deep to be printed if none is. -/
theorem renderEditorProperties_eq_error_iff :
    renderEditorProperties entries = .error fault ↔
      (∃ before entry after, entries = before ++ entry :: after ∧
        (∀ earlier ∈ before, Accepted earlier) ∧ Refused entry fault) ∨
      (∀ entry ∈ entries, Accepted entry) ∧ ¬ Printable entries ∧ fault = .tooDeep := by
  rw [← editorProperties_eq_error_iff, ← editorProperties_isOk_iff]
  cases made : entries.mapM editorProperty with
  | error other =>
      rw [renderEditorProperties, editorProperties_eq, made]
      simp
  | ok properties =>
      rcases renderEditorProperties_eq made with ⟨low, done⟩ | ⟨deep, failed⟩
      · rw [done]
        exact iff_of_false nofun (by rintro (⟨⟨⟩⟩ | ⟨-, deep, -⟩); exact deep low)
      · rw [failed]
        simp [deep, eq_comm]

end Rendering

section Fitting

/-- The members of a property are texts, and the initial value. -/
theorem value_of_mem_propertyMembers {member : Text × Json}
    (held : member ∈ propertyMembers entry type initial) :
    (∃ value, member.2 = .text value) ∨ member.2 = initial := by
  rw [propertyMembers_eq, List.mem_append, List.mem_append] at held
  rcases held with (front | format) | last
  · simp only [List.mem_cons, List.not_mem_nil, or_false] at front
    rcases front with rfl | rfl | rfl <;> exact .inl ⟨_, rfl⟩
  · rcases formatMember_cases entry.name with ⟨-, same⟩ | ⟨-, same⟩ <;> rw [same] at format
    · exact .inl ⟨_, congrArg Prod.snd (List.mem_singleton.mp format)⟩
    · cases format
  · rcases initialMember_cases initial with ⟨-, same⟩ | ⟨-, same⟩ <;> rw [same] at last
    · exact .inr (congrArg Prod.snd (List.mem_singleton.mp last))
    · cases last

/-- What is under a key goes less deep than the whole. -/
theorem depth_lt_of_find? {leaf : Json -> Nat} {members : List (Text × Json)} {key : Text}
    {value : Json} (low : (Json.record members).depth leaf ≤ room)
    (found : Dictionary.find? key members = some value) : value.depth leaf < room :=
  (Json.depth_record_le_iff.mp low).2 _ (Dictionary.mem_of_find? found)

/-- A property goes one deeper than its initial value, or than the texts in it. -/
theorem depth_propertyMembers_le {leaf : Json -> Nat}
    (texts : ∀ value, leaf (.text value) < room) (low : initial.depth leaf < room) :
    (Json.record (propertyMembers entry type initial)).depth leaf ≤ room := by
  refine Json.depth_record_le_iff.mpr ⟨Nat.zero_lt_of_lt low, fun member held => ?_⟩
  rcases value_of_mem_propertyMembers held with ⟨value, same⟩ | same <;> rw [same]
  · exact texts value
  · exact low

/-- A property can be read back if there is room for the initial value in it. -/
theorem propertyMembers_fits (fits : Json.Fits Json.namedDepth room 2 initial)
    (exact : initial.all Json.isExact = true) :
    Json.Fits Json.namedDepth room 1 (.record (propertyMembers entry type initial)) ∧
      (Json.record (propertyMembers entry type initial)).all Json.isExact = true := by
  have low := fits.low
  have inside : ∀ member ∈ propertyMembers entry type initial,
      Json.Fits Json.namedDepth room 2 member.2 ∧ member.2.all Json.isExact = true := by
    intro member held
    rcases value_of_mem_propertyMembers held with ⟨value, same⟩ | same <;> rw [same]
    · exact ⟨.text value (show 2 + 0 ≤ room by omega), rfl⟩
    · exact ⟨fits, exact⟩
  have distinct : propertyKeys.Nodup := by decide
  exact ⟨.record (by omega) (distinct.sublist (keys_propertyMembers_sublist entry type initial))
      fun member held => (inside member held).1,
    Json.all_object_iff.mpr
      ⟨rfl, List.forall_mem_map.mpr fun member held => (inside member held).2⟩⟩

/-- The properties of the extension are not deep, and can be read back. -/
theorem extensionProperties_fit (enough : 3 ≤ room) :
    ∀ property ∈ extensionProperties, Json.Fits Json.namedDepth room 1 property.2 ∧
      property.2.all Json.isExact = true := by
  have checked : ∀ property ∈ extensionProperties, property.2.all Json.isRegular = true ∧
      1 + property.2.depth Json.namedDepth ≤ 3 ∧ property.2.all Json.isExact = true := by
    decide
  intro property member
  obtain ⟨regular, low, exact⟩ := checked property member
  exact ⟨⟨regular, low.trans enough⟩, exact⟩

/-- Properties that can be read back can be read back together. -/
theorem properties_fit {properties : List (Text × Json)} (enough : 3 ≤ room)
    (distinct : (properties.map Prod.fst).Nodup)
    (each : ∀ property ∈ properties, Json.Fits Json.namedDepth room 1 property.2 ∧
      property.2.all Json.isExact = true) :
    Json.Fits Json.namedDepth room 0 (.record properties) ∧
      (Json.record properties).all Json.isExact = true :=
  ⟨.record (by omega) distinct fun property member => (each property member).1,
    Json.all_object_iff.mpr
      ⟨rfl, List.forall_mem_map.mpr fun property member => (each property member).2⟩⟩

end Fitting

/-- Every option is among the configuration properties, in a form in which it is read back. They are
rendered exactly if every option is accepted and nothing that is printed goes too deep. Otherwise
the fault is that of the first option that is refused, or the depth if none is. They are read as an
object with the properties of the extension in front, and behind them every name has its property,
in the order in which the names first occur, which describes the last option of the name. For this
no initial value may have a finite binary number, and where the properties are read there has to be
room for three objects, and for the initial values two objects deep. -/
theorem renderEditorProperties_read_back [Limits] (entries : List Entry) :
    (∀ fault, renderEditorProperties entries = .error fault ↔
      (∃ before entry after, entries = before ++ entry :: after ∧
        (∀ earlier ∈ before, Accepted earlier) ∧ Refused entry fault) ∨
      (∀ entry ∈ entries, Accepted entry) ∧ ¬ Printable entries ∧ fault = .tooDeep) ∧
    ((∃ text, renderEditorProperties entries = .ok text) ↔
      (∀ entry ∈ entries, Accepted entry) ∧ Printable entries) ∧
    ∀ text, renderEditorProperties entries = .ok text →
      ∃ own, own.map Prod.fst = (entries.map Entry.name).eraseDups.map ("zls.".toList ++ ·) ∧
        (∀ entry, IsLast entries entry → ∃ type initial members,
          jsonType entry.zigType = .ok type ∧
          Json.read Limits.initializerRoom entry.initializer = .ok initial ∧
          Dictionary.find? ("zls.".toList ++ entry.name) (extensionProperties ++ own) =
            some (.record members) ∧
          Describes entry type initial members) ∧
        ∀ room, 3 ≤ room →
          (∀ entry, IsLast entries entry → ∀ initial,
            Json.read Limits.initializerRoom entry.initializer = .ok initial →
            initial.all Json.isExact = true ∧ initial.depth Json.namedDepth + 2 ≤ room) →
          Json.read room text = .ok (.record (extensionProperties ++ own)) := by
  refine ⟨fun _ => renderEditorProperties_eq_error_iff, renderEditorProperties_isOk_iff,
    fun text done => ?_⟩
  obtain ⟨properties, made⟩ :=
    editorProperties_isOk_iff.mpr (renderEditorProperties_isOk_iff.mp ⟨text, done⟩).1
  obtain ⟨-, printed⟩ | ⟨-, failed⟩ := renderEditorProperties_eq made
  · obtain rfl := Except.ok.inj (printed.symm.trans done)
    have named : ∀ entry property, editorProperty entry = .ok property →
        property.1 = "zls.".toList ++ entry.name := fun _ _ => name_of_editorProperty
    refine ⟨Dictionary.ofList properties, keys_properties optionKey_injective named made, ?_,
      fun room enough within => ?_⟩
    · intro entry last
      obtain ⟨value, here, found⟩ := find?_properties optionKey_injective named made last
      obtain ⟨type, initial, known, read, same⟩ := editorProperty_eq_ok_iff.mp here
      rw [(Prod.mk.inj same).2] at found
      refine ⟨type, initial, propertyMembers entry type initial, known, read, ?_,
        describes_propertyMembers entry type initial⟩
      rw [Dictionary.find?_append_of_not_mem (optionKey_not_mem_extensionProperties entry.name)]
      exact found
    · have each : ∀ property ∈ extensionProperties ++ Dictionary.ofList properties,
          Json.Fits Json.namedDepth room 1 property.2 ∧ property.2.all Json.isExact = true := by
        refine List.forall_mem_append.mpr
          ⟨extensionProperties_fit enough, fun property member => ?_⟩
        obtain ⟨entry, last, here⟩ :=
          isLast_of_mem_properties optionKey_injective named made member
        obtain ⟨type, initial, -, read, rfl⟩ := editorProperty_eq_ok_iff.mp here
        obtain ⟨exact, low⟩ := within entry last initial read
        exact propertyMembers_fits ⟨(Json.fits_of_read read).regular, by omega⟩ exact
      have distinct :
          (Dictionary.keys (extensionProperties ++ Dictionary.ofList properties)).Nodup :=
        ofList_append_properties made ▸ Dictionary.nodup_keys_ofList _
      obtain ⟨fits, exact⟩ := properties_fit enough distinct each
      rw [← List.append_nil (Json.print _)]
      exact Json.read_print fits exact (List.forall_mem_nil _)
  · cases failed.symm.trans done

/-- Options of which two have the same name, one that mentions a path. -/
def relocatedOptions : List Entry :=
  [⟨"zig_path".toList, "one".toList, "?[]const u8".toList, "null".toList⟩,
    ⟨"limit".toList, "\"😀".toList, "usize".toList, "\x7b\"a\":[1],\"a\":-2\x7d".toList⟩,
    ⟨"zig_path".toList, "two\n".toList, "bool".toList, "[]".toList⟩]

/-- Behind the properties of the extension, options of the same name have one property, and of
members of the same key the last one is the initial value. -/
theorem renderEditorProperties_relocatedOptions :
    ∃ text own members, @renderEditorProperties .usual relocatedOptions = .ok text ∧
      Json.read 3 text = .ok (.record (extensionProperties ++ own)) ∧
      (extensionProperties ++ own).map Prod.fst = ["trace.server".toList,
        "check_for_update".toList, "path".toList, "zls.zig_path".toList, "zls.limit".toList] ∧
      Dictionary.find? "check_for_update".toList (extensionProperties ++ own) =
        some (.record [("scope".toList, .text "resource".toList),
          ("type".toList, .text "boolean".toList),
          ("description".toList, .text "Whether to automatically check for new updates".toList),
          ("default".toList, .boolean true)]) ∧
      Dictionary.find? "zls.limit".toList (extensionProperties ++ own) = some (.record members) ∧
      Dictionary.find? "default".toList members =
        some (.record [("a".toList, .integer (-2))]) := by
  let machine : Limits := .usual
  obtain ⟨-, accepts, readBack⟩ := renderEditorProperties_read_back relocatedOptions
  have first : Json.read 991 "null".toList = .ok .null :=
    Eq.trans (Json.Reading.run_token rfl rfl) (Json.Reading.run_complete (List.forall_mem_nil _) _)
  have second : Json.read 991 "\x7b\"a\":[1],\"a\":-2\x7d".toList =
      .ok (.record [("a".toList, .integer (-2))]) := by
    unfold Json.read
    iterate 11 refine Eq.trans (Json.Reading.run_token rfl rfl) ?_
    exact Json.Reading.run_complete (List.forall_mem_nil _) _
  have third : Json.read 991 "[]".toList = .ok (.array []) := by
    unfold Json.read
    iterate 2 refine Eq.trans (Json.Reading.run_token rfl rfl) ?_
    exact Json.Reading.run_complete (List.forall_mem_nil _) _
  have supported : ∀ entry ∈ relocatedOptions, Supported entry.zigType := by
    unfold Supported
    decide
  have accepted : ∀ entry ∈ relocatedOptions, Accepted entry := by
    intro entry member
    refine ⟨supported entry member, ?_⟩
    simp only [relocatedOptions, List.mem_cons, List.not_mem_nil, or_false] at member
    rcases member with rfl | rfl | rfl
    exacts [⟨_, first⟩, ⟨_, second⟩, ⟨_, third⟩]
  have initials : ∀ entry, IsLast relocatedOptions entry → ∀ initial,
      Json.read 991 entry.initializer = .ok initial →
      initial.all Json.isExact = true ∧ initial.depth Json.namedDepth + 2 ≤ 3 ∧
        initial.depth Limits.printingDepth < 991 := by
    intro entry last initial read
    obtain ⟨before, after, whole, -⟩ := last
    have member : entry ∈ relocatedOptions := by simp [whole]
    simp only [relocatedOptions, List.mem_cons, List.not_mem_nil, or_false] at member
    rcases member with rfl | rfl | rfl
    · cases first.symm.trans read
      decide
    · cases second.symm.trans read
      decide
    · cases third.symm.trans read
      decide
  have printable : Printable relocatedOptions := by
    refine ⟨by decide, fun entry last type initial _ read => Nat.lt_succ_of_le ?_⟩
    exact depth_propertyMembers_le (fun _ => (by decide : 1 < 991))
      (initials entry last initial read).2.2
  obtain ⟨text, rendered⟩ := accepts.mpr ⟨accepted, printable⟩
  obtain ⟨own, names, last, again⟩ := readBack text rendered
  have final : IsLast relocatedOptions
      ⟨"limit".toList, "\"😀".toList, "usize".toList, "\x7b\"a\":[1],\"a\":-2\x7d".toList⟩ :=
    ⟨relocatedOptions.take 1, relocatedOptions.drop 2, rfl, by decide⟩
  obtain ⟨type, initial, members, -, initialRead, found, describes⟩ := last _ final
  cases second.symm.trans initialRead
  refine ⟨text, own, members, rendered, again 3 le_rfl fun entry last initial read => ?_,
    ?_, by rfl, found, (describes.initial _).mpr ⟨rfl, nofun⟩⟩
  · exact ⟨(initials entry last initial read).1, (initials entry last initial read).2.1⟩
  · rw [List.map_append, names]
    decide

/-- The option with the name `a` and an initial value. -/
def optionOf (zigType : Text) (initial : Json) : Entry :=
  ⟨"a".toList, [], zigType, Json.print initial⟩

/-- Initial values are refused for an integer of more than 4300 digits and for thousands of arrays
in one another. On a usual machine an initial value is read with 991 of them, and not printed two
objects deep. With 990 of them it is printed, and not read back from the properties. -/
theorem renderEditorProperties_limits :
    (∃ initializer,
      @renderEditorProperties .usual [optionOf "usize".toList (Json.powerOfTen 4300)] =
        .error (.invalidInitializer initializer (.tooManyDigits 4301))) ∧
    (∃ initializer, @renderEditorProperties .usual [optionOf "bool".toList (Json.nested 2999)] =
      .error (.invalidInitializer initializer .tooDeep)) ∧
    Json.read Limits.usual.initializerRoom (Json.print (Json.nested 990)) = .ok (Json.nested 990) ∧
    @renderEditorProperties .usual [optionOf "bool".toList (Json.nested 990)] = .error .tooDeep ∧
    (∃ text, @renderEditorProperties .usual [optionOf "bool".toList (Json.nested 989)] = .ok text) ∧
    ¬ ∃ text own members,
      @renderEditorProperties .usual [optionOf "bool".toList (Json.nested 989)] = .ok text ∧
        Json.read Limits.usual.initializerRoom text = .ok (.record (extensionProperties ++ own)) ∧
        Dictionary.find? "zls.a".toList (extensionProperties ++ own) = some (.record members) ∧
        Dictionary.find? "default".toList members = some (Json.nested 989) := by
  let machine : Limits := .usual
  have isLast {option entry : Entry} (last : IsLast [option] entry) : entry = option := by
    obtain ⟨before, after, whole, -⟩ := last
    exact List.mem_singleton.mp (whole ▸ List.mem_append_right before List.mem_cons_self)
  have refused {zigType : Text} {initial : Json} {reason : Json.Fault}
      (supported : Supported zigType)
      (fails : Json.read Limits.initializerRoom (Json.print initial) = .error reason) :
      ∃ initializer, renderEditorProperties [optionOf zigType initial] =
        .error (.invalidInitializer initializer reason) :=
    ⟨_, renderEditorProperties_eq_error_iff.mpr
      (.inl ⟨[], optionOf zigType initial, [], rfl, nofun, .inr ⟨supported, reason, fails, rfl⟩⟩)⟩
  have long : Json.read 991 (Json.print (Json.powerOfTen 4300)) = .error (.tooManyDigits 4301) :=
    Json.read_print_powerOfTen (by decide)
  have deep : Json.read 991 (Json.print (Json.nested 2999)) = .error .tooDeep :=
    (Json.read_print_nested 2999).trans (if_pos (by decide))
  have read990 : Json.read 991 (Json.print (Json.nested 990)) = .ok (Json.nested 990) :=
    (Json.read_print_nested 990).trans (if_neg (by decide))
  have read989 : Json.read 991 (Json.print (Json.nested 989)) = .ok (Json.nested 989) :=
    (Json.read_print_nested 989).trans (if_neg (by decide))
  have boolean : Supported "bool".toList := by unfold Supported; decide
  have accepted {count : Nat}
      (read : Json.read 991 (Json.print (Json.nested count)) = .ok (Json.nested count)) :
      ∀ entry ∈ [optionOf "bool".toList (Json.nested count)], Accepted entry :=
    List.forall_mem_singleton.mpr ⟨boolean, _, read⟩
  refine ⟨refused (by unfold Supported; decide) long, refused boolean deep, read990, ?_, ?_, ?_⟩
  · refine renderEditorProperties_eq_error_iff.mpr
      (.inr ⟨accepted read990, fun printable => ?_, rfl⟩)
    have low := printable.2 _ ⟨[], [], rfl, nofun⟩ _ _ rfl read990
    have innermost := depth_lt_of_find? (Nat.le_of_lt_succ low)
      (((describes_propertyMembers _ _ _).initial _).mpr ⟨rfl, nofun⟩)
    rw [Json.depth_nested] at innermost
    exact absurd innermost (by decide)
  · refine renderEditorProperties_isOk_iff.mpr ⟨accepted read989, by decide, ?_⟩
    intro entry last type initial _ read
    cases isLast last
    cases read.symm.trans read989
    refine Nat.lt_succ_of_le (depth_propertyMembers_le (fun _ => (by decide : 1 < 991)) ?_)
    rw [Json.depth_nested]
    decide
  · rintro ⟨text, own, members, -, read, property, initial⟩
    have low : (Json.record (extensionProperties ++ own)).depth (fun _ => 0) ≤ 991 := by
      rw [← Nat.zero_add (Json.depth _ _)]
      exact (Json.fits_of_read read).low
    have inner := depth_lt_of_find? low property
    have innermost := depth_lt_of_find? (Nat.le_of_lt_succ inner) initial
    rw [Json.depth_nested] at innermost
    exact absurd innermost (by decide)

end EditorData.Catalogue
