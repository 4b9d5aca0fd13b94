import Newsroom.Proofs.Vocabulary.Item
import Newsroom.Proofs.Vocabulary.Schema
import Newsroom.Vocabulary.Codec

/-!
# Documents that read back

A document is well-formed when its items and its schema are and its free-form values are in normal
form. Documents that are read are well-formed (`Vocabulary.wellFormed_of_ofJson?`), and a
well-formed document reads back from its stored form (`Vocabulary.ofJson?_toJson`). Both go through
`Vocabulary.ReadFrom`, which says field by field how a document was read from the members of a
record.
-/

namespace Newsroom

namespace Vocabulary

/-- The document was read field by field from the members of a record. -/
structure ReadFrom (ms : List (String × Json)) (v : Vocabulary) : Prop where
  id : Json.required? "_id" Json.asString? ms = some v.id
  displayName : Json.required? "display_name" Json.asString? ms = some v.displayName
  description : Json.optional? "description" Json.asString? ms = some v.description
  helperText : Json.optional? "helper_text" Json.asString? ms = some v.helperText
  tags : Json.optional? "tags" (Json.asList? Tag.ofJson?) ms = some v.tags
  popupWidth : Json.optional? "popup_width" Json.asInt? ms = some v.popupWidth
  kind : Json.required? "type" VocabularyKind.ofJson? ms = some v.kind
  items : Json.defaulted? "items" [] (Json.asList? Item.ofJson?) ms = some v.items
  selection : Json.optional? "selection_type" SelectionKind.ofJson? ms = some v.selection
  readOnly : Json.optional? "read_only" Json.asBool? ms = some v.readOnly
  schemaField : Json.optional? "schema_field" Json.asString? ms = some v.schemaField
  dependent : Json.optional? "dependent" Json.asBool? ms = some v.dependent
  service : Json.optional? "service" (Json.asMap? Json.asInt?) ms = some v.service
  priority : Json.optional? "priority" Json.asInt? ms = some v.priority
  uniqueField : Json.optional? "unique_field" Json.asString? ms = some v.uniqueField
  schema : Json.defaulted? "schema" ∅ Schema.ofJson? ms = some v.schema
  fieldType : Json.optional? "field_type" Json.asString? ms = some v.fieldType
  fieldOptions : Json.optional? "field_options" Json.asFreeMap? ms = some v.fieldOptions
  initVersion : Json.optional? "init_version" Json.asInt? ms = some v.initVersion
  preferredItems : Json.optional? "preffered_items" Json.asBool? ms = some v.preferredItems
  disableEntireCategory :
    Json.defaulted? "disable_entire_category_selection" false Json.asBool? ms =
      some v.disableEntireCategory
  dateShortcuts :
    Json.optional? "date_shortcuts" (Json.asList? DateShortcut.ofJson?) ms = some v.dateShortcuts
  customFieldType :
    Json.optional? "custom_field_type" Json.asString? ms = some v.customFieldType
  customFieldConfig :
    Json.optional? "custom_field_config" Json.asFreeMap? ms = some v.customFieldConfig
  translations :
    Json.optional? "translations" NameTranslations.ofJson? ms = some v.translations
  deleted : Json.defaulted? "_deleted" false Json.asBool? ms = some v.deleted
  created : Json.optional? "_created" Json.asInt? ms = some v.created
  updated : Json.optional? "_updated" Json.asInt? ms = some v.updated

theorem ofJson?_eq_some_iff {j : Json} {v : Vocabulary} :
    ofJson? j = some v ↔ ∃ ms, Json.record? knownFields j = some ms ∧ v.ReadFrom ms := by
  constructor
  · intro h
    obtain ⟨ms, hms, h⟩ := Option.bind_eq_some_iff.1 h
    obtain ⟨_, h1, h⟩ := Option.bind_eq_some_iff.1 h
    obtain ⟨_, h2, h⟩ := Option.bind_eq_some_iff.1 h
    obtain ⟨_, h3, h⟩ := Option.bind_eq_some_iff.1 h
    obtain ⟨_, h4, h⟩ := Option.bind_eq_some_iff.1 h
    obtain ⟨_, h5, h⟩ := Option.bind_eq_some_iff.1 h
    obtain ⟨_, h6, h⟩ := Option.bind_eq_some_iff.1 h
    obtain ⟨_, h7, h⟩ := Option.bind_eq_some_iff.1 h
    obtain ⟨_, h8, h⟩ := Option.bind_eq_some_iff.1 h
    obtain ⟨_, h9, h⟩ := Option.bind_eq_some_iff.1 h
    obtain ⟨_, h10, h⟩ := Option.bind_eq_some_iff.1 h
    obtain ⟨_, h11, h⟩ := Option.bind_eq_some_iff.1 h
    obtain ⟨_, h12, h⟩ := Option.bind_eq_some_iff.1 h
    obtain ⟨_, h13, h⟩ := Option.bind_eq_some_iff.1 h
    obtain ⟨_, h14, h⟩ := Option.bind_eq_some_iff.1 h
    obtain ⟨_, h15, h⟩ := Option.bind_eq_some_iff.1 h
    obtain ⟨_, h16, h⟩ := Option.bind_eq_some_iff.1 h
    obtain ⟨_, h17, h⟩ := Option.bind_eq_some_iff.1 h
    obtain ⟨_, h18, h⟩ := Option.bind_eq_some_iff.1 h
    obtain ⟨_, h19, h⟩ := Option.bind_eq_some_iff.1 h
    obtain ⟨_, h20, h⟩ := Option.bind_eq_some_iff.1 h
    obtain ⟨_, h21, h⟩ := Option.bind_eq_some_iff.1 h
    obtain ⟨_, h22, h⟩ := Option.bind_eq_some_iff.1 h
    obtain ⟨_, h23, h⟩ := Option.bind_eq_some_iff.1 h
    obtain ⟨_, h24, h⟩ := Option.bind_eq_some_iff.1 h
    obtain ⟨_, h25, h⟩ := Option.bind_eq_some_iff.1 h
    obtain ⟨_, h26, h⟩ := Option.bind_eq_some_iff.1 h
    obtain ⟨_, h27, h⟩ := Option.bind_eq_some_iff.1 h
    obtain ⟨_, h28, h⟩ := Option.bind_eq_some_iff.1 h
    cases h
    exact ⟨ms, hms, ⟨h1, h2, h3, h4, h5, h6, h7, h8, h9, h10, h11, h12, h13, h14, h15, h16, h17,
      h18, h19, h20, h21, h22, h23, h24, h25, h26, h27, h28⟩⟩
  · rintro ⟨ms, hms, h⟩
    refine Option.bind_eq_some_iff.2 ⟨ms, hms, ?_⟩
    refine Option.bind_eq_some_iff.2 ⟨v.id, h.id, ?_⟩
    refine Option.bind_eq_some_iff.2 ⟨v.displayName, h.displayName, ?_⟩
    refine Option.bind_eq_some_iff.2 ⟨v.description, h.description, ?_⟩
    refine Option.bind_eq_some_iff.2 ⟨v.helperText, h.helperText, ?_⟩
    refine Option.bind_eq_some_iff.2 ⟨v.tags, h.tags, ?_⟩
    refine Option.bind_eq_some_iff.2 ⟨v.popupWidth, h.popupWidth, ?_⟩
    refine Option.bind_eq_some_iff.2 ⟨v.kind, h.kind, ?_⟩
    refine Option.bind_eq_some_iff.2 ⟨v.items, h.items, ?_⟩
    refine Option.bind_eq_some_iff.2 ⟨v.selection, h.selection, ?_⟩
    refine Option.bind_eq_some_iff.2 ⟨v.readOnly, h.readOnly, ?_⟩
    refine Option.bind_eq_some_iff.2 ⟨v.schemaField, h.schemaField, ?_⟩
    refine Option.bind_eq_some_iff.2 ⟨v.dependent, h.dependent, ?_⟩
    refine Option.bind_eq_some_iff.2 ⟨v.service, h.service, ?_⟩
    refine Option.bind_eq_some_iff.2 ⟨v.priority, h.priority, ?_⟩
    refine Option.bind_eq_some_iff.2 ⟨v.uniqueField, h.uniqueField, ?_⟩
    refine Option.bind_eq_some_iff.2 ⟨v.schema, h.schema, ?_⟩
    refine Option.bind_eq_some_iff.2 ⟨v.fieldType, h.fieldType, ?_⟩
    refine Option.bind_eq_some_iff.2 ⟨v.fieldOptions, h.fieldOptions, ?_⟩
    refine Option.bind_eq_some_iff.2 ⟨v.initVersion, h.initVersion, ?_⟩
    refine Option.bind_eq_some_iff.2 ⟨v.preferredItems, h.preferredItems, ?_⟩
    refine Option.bind_eq_some_iff.2 ⟨v.disableEntireCategory, h.disableEntireCategory, ?_⟩
    refine Option.bind_eq_some_iff.2 ⟨v.dateShortcuts, h.dateShortcuts, ?_⟩
    refine Option.bind_eq_some_iff.2 ⟨v.customFieldType, h.customFieldType, ?_⟩
    refine Option.bind_eq_some_iff.2 ⟨v.customFieldConfig, h.customFieldConfig, ?_⟩
    refine Option.bind_eq_some_iff.2 ⟨v.translations, h.translations, ?_⟩
    refine Option.bind_eq_some_iff.2 ⟨v.deleted, h.deleted, ?_⟩
    refine Option.bind_eq_some_iff.2 ⟨v.created, h.created, ?_⟩
    refine Option.bind_eq_some_iff.2 ⟨v.updated, h.updated, ?_⟩
    rfl

/-! ### Cells -/

/-- The cells of the stored form. -/
def cells (v : Vocabulary) : List (String × Option Json) :=
  [("_id", some (.string v.id)), ("display_name", some (.string v.displayName)),
    ("description", v.description.map .string), ("helper_text", v.helperText.map .string),
    ("tags", v.tags.map (Json.ofList Tag.toJson)), ("popup_width", v.popupWidth.map Json.ofInt),
    ("type", some v.kind.toJson), ("items", some (Json.ofList Item.toJson v.items)),
    ("selection_type", v.selection.map SelectionKind.toJson),
    ("read_only", v.readOnly.map .bool), ("schema_field", v.schemaField.map .string),
    ("dependent", v.dependent.map .bool), ("service", v.service.map (Json.ofMap Json.ofInt)),
    ("priority", v.priority.map Json.ofInt), ("unique_field", v.uniqueField.map .string),
    ("schema", if v.schema.fields.isEmpty then none else some v.schema.toJson),
    ("field_type", v.fieldType.map .string),
    ("field_options", v.fieldOptions.map Json.ofFreeMap),
    ("init_version", v.initVersion.map Json.ofInt),
    ("preffered_items", v.preferredItems.map .bool),
    ("disable_entire_category_selection", some (.bool v.disableEntireCategory)),
    ("date_shortcuts", v.dateShortcuts.map (Json.ofList DateShortcut.toJson)),
    ("custom_field_type", v.customFieldType.map .string),
    ("custom_field_config", v.customFieldConfig.map Json.ofFreeMap),
    ("translations", v.translations.map NameTranslations.toJson),
    ("_deleted", if v.deleted then some (.bool true) else none),
    ("_created", v.created.map Json.ofInt), ("_updated", v.updated.map Json.ofInt)]

theorem keys_cells (v : Vocabulary) : v.cells.map Prod.fst = knownFields := rfl

theorem nodup_cells (v : Vocabulary) : (v.cells.map Prod.fst).Nodup := by
  rw [keys_cells]
  decide

theorem members_eq (v : Vocabulary) : v.members = Json.filled v.cells := by
  delta members cells
  simp only [Json.filled_cons, Json.filled_nil, Json.optionalMember_map,
    Json.optionalMember_some, Json.optionalMember_flag, Json.optionalMember_unless,
    List.append_assoc, List.append_nil]

theorem record?_toJson (v : Vocabulary) :
    Json.record? knownFields v.toJson = some v.members := by
  refine Json.record?_object ?_
  rw [members_eq]
  exact Json.distinct_filled v.nodup_cells _

theorem find?_members (v : Vocabulary) : ∀ c ∈ v.cells, Entries.find? c.1 v.members = c.2 := by
  rw [members_eq]
  exact Json.find?_filled v.nodup_cells

theorem find?_of_mem_cells {v : Vocabulary} {key : String} {o : Option Json}
    (h : (key, o) ∈ v.cells) : Entries.find? key v.members = o :=
  v.find?_members (key, o) h

/-! ### Well-formed documents -/

/-- The parts of a document that may hold any JSON values are as they should be: its items, its
schema and its free-form maps. -/
structure ConsistsOf (I : Item → Prop) (S : Schema → Prop) (M : TextMap Json → Prop)
    (v : Vocabulary) : Prop where
  items : ∀ i ∈ v.items, I i
  schema : S v.schema
  fieldOptions : ∀ m, v.fieldOptions = some m → M m
  customFieldConfig : ∀ m, v.customFieldConfig = some m → M m

/-- The items and the schema are well-formed, and free-form values are in normal form. -/
abbrev WellFormed : Vocabulary → Prop :=
  ConsistsOf Item.WellFormed Schema.WellFormed Json.NormalMap

end Vocabulary

theorem Tag.ofJson?_toJson (t : Tag) : ofJson? t.toJson = some t := rfl

theorem DateShortcut.ofJson?_toJson (d : DateShortcut) : ofJson? d.toJson = some d := by
  have hmembers : Json.record? knownFields d.toJson = some [("value", .ofInt d.value),
      ("term", .string d.term), ("label", .string d.label)] := rfl
  have hvalue : Json.required? "value" Json.asInt? [("value", .ofInt d.value),
      ("term", .string d.term), ("label", .string d.label)] = some d.value :=
    Json.asInt?_ofInt d.value
  simp only [ofJson?, hmembers, hvalue, Option.bind_eq_bind, Option.bind_some]
  rfl

theorem NameTranslations.ofJson?_toJson (t : NameTranslations) : ofJson? t.toJson = some t := by
  obtain ⟨names⟩ := t
  cases hempty : names.isEmpty with
  | true =>
    have hnames : names = ∅ := TextMap.ext_entries (List.isEmpty_iff.1 hempty)
    rw [hnames]
    rfl
  | false =>
    have hread : Json.asMap? Json.asString? (Json.ofMap .string names) = some names :=
      Json.asMap?_ofMap fun _ _ => rfl
    have hmembers : Json.record? knownFields (toJson ⟨names⟩) =
        some [("display_name", Json.ofMap .string names)] := by
      rw [toJson, hempty]
      rfl
    have hnames : Json.defaulted? "display_name" ∅ (Json.asMap? Json.asString?)
        [("display_name", Json.ofMap .string names)] = some names := hread
    simp only [ofJson?, hmembers, hnames, Option.bind_eq_bind, Option.bind_some, Option.pure_def]

theorem VocabularyKind.ofJson?_toJson (k : VocabularyKind) : ofJson? k.toJson = some k :=
  ofName?_name k

theorem SelectionKind.ofJson?_toJson (k : SelectionKind) : ofJson? k.toJson = some k :=
  ofName?_name k

namespace Vocabulary

/-- A document is read from members that answer as its cells do. Its schema may stand there in
another form, as an empty one that is written out. -/
theorem readFrom_of_cells {v : Vocabulary} (h : v.WellFormed) {ms : List (String × Json)}
    (hcells : ∀ c ∈ v.cells, c.1 ≠ "schema" → Entries.find? c.1 ms = c.2)
    (hschema : Json.defaulted? "schema" ∅ Schema.ofJson? ms = some v.schema) : v.ReadFrom ms := by
  simp only [cells, List.forall_mem_cons, ne_eq, String.reduceEq, not_false_eq_true,
    true_implies] at hcells
  obtain ⟨h1, h2, h3, h4, h5, h6, h7, h8, h9, h10, h11, h12, h13, h14, h15, -, h17, h18, h19, h20,
    h21, h22, h23, h24, h25, h26, h27, h28, -⟩ := hcells
  exact {
    id := Json.required?_eq h1
    displayName := Json.required?_eq h2
    description := Json.optional?_eq h3 (fun _ _ => rfl) (by simp)
    helperText := Json.optional?_eq h4 (fun _ _ => rfl) (by simp)
    tags := Json.optional?_eq h5 (fun _ _ => Json.asList?_map fun t _ => t.ofJson?_toJson)
      (by simp [Json.ofList])
    popupWidth := Json.optional?_eq h6 (fun n _ => Json.asInt?_ofInt n) (by simp [Json.ofInt])
    kind := (Json.required?_eq h7).trans v.kind.ofJson?_toJson
    items := (Json.defaulted?_eq h8).trans
      (Json.asList?_map fun i hi => Item.ofJson?_toJson (h.items i hi))
    selection := Json.optional?_eq h9 (fun k _ => k.ofJson?_toJson)
      (by simp [SelectionKind.toJson])
    readOnly := Json.optional?_eq h10 (fun _ _ => rfl) (by simp)
    schemaField := Json.optional?_eq h11 (fun _ _ => rfl) (by simp)
    dependent := Json.optional?_eq h12 (fun _ _ => rfl) (by simp)
    service := Json.optional?_eq h13
      (fun m _ => Json.asMap?_ofMap fun e _ => Json.asInt?_ofInt e.2) (by simp [Json.ofMap])
    priority := Json.optional?_eq h14 (fun n _ => Json.asInt?_ofInt n) (by simp [Json.ofInt])
    uniqueField := Json.optional?_eq h15 (fun _ _ => rfl) (by simp)
    schema := hschema
    fieldType := Json.optional?_eq h17 (fun _ _ => rfl) (by simp)
    fieldOptions := Json.optional?_eq h18
      (fun m hm => Json.asFreeMap?_object (h.fieldOptions m hm)) (by simp [Json.ofFreeMap])
    initVersion := Json.optional?_eq h19 (fun n _ => Json.asInt?_ofInt n) (by simp [Json.ofInt])
    preferredItems := Json.optional?_eq h20 (fun _ _ => rfl) (by simp)
    disableEntireCategory := Json.defaulted?_eq h21
    dateShortcuts := Json.optional?_eq h22
      (fun ds _ => Json.asList?_map fun d _ => d.ofJson?_toJson) (by simp [Json.ofList])
    customFieldType := Json.optional?_eq h23 (fun _ _ => rfl) (by simp)
    customFieldConfig := Json.optional?_eq h24
      (fun m hm => Json.asFreeMap?_object (h.customFieldConfig m hm)) (by simp [Json.ofFreeMap])
    translations := Json.optional?_eq h25 (fun t _ => t.ofJson?_toJson)
      (by simp [NameTranslations.toJson])
    deleted := Json.defaulted?_flag h26
    created := Json.optional?_eq h27 (fun n _ => Json.asInt?_ofInt n) (by simp [Json.ofInt])
    updated := Json.optional?_eq h28 (fun n _ => Json.asInt?_ofInt n) (by simp [Json.ofInt]) }

/-- A schema is read from its cell, which is empty when it declares nothing. -/
theorem schema_of_cell {s : Schema} (h : s.WellFormed) {ms : List (String × Json)}
    (hcell : Entries.find? "schema" ms = if s.fields.isEmpty then none else some s.toJson) :
    Json.defaulted? "schema" ∅ Schema.ofJson? ms = some s := by
  cases hempty : s.fields.isEmpty with
  | true =>
    have hschema : s = ∅ := Schema.ext_fields (List.isEmpty_iff.1 hempty)
    rw [hempty] at hcell
    rw [hschema]
    exact Json.defaulted?_missing hcell
  | false =>
    rw [hempty] at hcell
    exact (Json.defaulted?_eq hcell).trans (Schema.ofJson?_toJson h)

/-- A document is read from the members that it writes. -/
theorem readFrom_members {v : Vocabulary} (h : v.WellFormed) : v.ReadFrom v.members := by
  refine readFrom_of_cells h (fun c hc _ => v.find?_members c hc) (schema_of_cell h.schema ?_)
  exact find?_of_mem_cells (List.mem_of_getElem? (i := 15) rfl)

/-- A well-formed document reads back from its stored form. -/
theorem ofJson?_toJson {v : Vocabulary} (h : v.WellFormed) : ofJson? v.toJson = some v :=
  ofJson?_eq_some_iff.2 ⟨v.members, v.record?_toJson, readFrom_members h⟩

/-- Documents that are read are well-formed. -/
theorem wellFormed_of_ofJson? {j : Json} {v : Vocabulary} (h : ofJson? j = some v) :
    v.WellFormed := by
  obtain ⟨ms, -, hread⟩ := ofJson?_eq_some_iff.1 h
  exact {
    items := by
      intro i hi
      rcases Json.of_defaulted? hread.items with hnone | ⟨j, -, hj⟩
      · rw [hnone] at hi
        cases hi
      · obtain ⟨x, hx⟩ := Json.exists_of_mem_asList? hj i hi
        exact Item.wellFormed_of_ofJson? hx
    schema := by
      rcases Json.of_defaulted? hread.schema with hnone | ⟨j, -, hj⟩
      · rw [hnone]
        intro e he
        cases he
      · exact Schema.wellFormed_of_ofJson? hj
    fieldOptions := Json.normalMap_of_optional? hread.fieldOptions
    customFieldConfig := Json.normalMap_of_optional? hread.customFieldConfig }

end Vocabulary

end Newsroom
