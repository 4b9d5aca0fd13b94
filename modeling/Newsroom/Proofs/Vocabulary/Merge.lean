import Newsroom.Proofs.Vocabulary.Update

/-!
# Updates as merged objects

An update says which members of the stored form of a document it replaces or adds. Its own stored
form is the object of these members, and laying it over that of the document, member by member, is
the same as applying the update (`Vocabulary.ofJson?_merged`). A member that an update does not
know is never replaced; every member that it knows can be (`Vocabulary.exists_changes`).

The merged object is in general not the stored form of the updated document: members stand in
another order, and a schema without fields is written out where the update sets it.
-/

namespace Newsroom

namespace Entries

variable {α : Type}

/-- Replaces the value under `key` where it stands, or adds an entry at the end. -/
def set (key : String) (value : α) : List (String × α) → List (String × α)
  | [] => [(key, value)]
  | (k, v) :: rest => if k = key then (k, value) :: rest else (k, v) :: set key value rest

/-- The entries with those of `top` laid over them, one after the other. -/
def overlay (entries top : List (String × α)) : List (String × α) :=
  top.foldl (fun es e => set e.1 e.2 es) entries

theorem find?_set (key : String) (value : α) (entries : List (String × α)) (other : String) :
    find? other (set key value entries) =
      if key = other then some value else find? other entries := by
  induction entries with
  | nil => rfl
  | cons e rest ih =>
    obtain ⟨k, v⟩ := e
    rw [set]
    by_cases hk : k = key
    · subst hk
      rw [if_pos rfl, find?_cons, find?_cons]
      split <;> rfl
    · rw [if_neg hk, find?_cons, find?_cons, ih]
      by_cases hother : k = other
      · subst hother
        rw [if_pos rfl, if_pos rfl, if_neg (Ne.symm hk)]
      · rw [if_neg hother, if_neg hother]

theorem mem_keys_set {key : String} {value : α} {entries : List (String × α)} {k : String} :
    k ∈ (set key value entries).map Prod.fst ↔ k = key ∨ k ∈ entries.map Prod.fst := by
  induction entries with
  | nil => simp [set]
  | cons e rest ih =>
    obtain ⟨l, v⟩ := e
    rw [set]
    by_cases hl : l = key
    · subst hl
      simp
    · rw [if_neg hl, List.map_cons, List.mem_cons, ih, List.map_cons, List.mem_cons]
      exact or_left_comm

theorem nodup_set {key : String} {value : α} {entries : List (String × α)}
    (h : (entries.map Prod.fst).Nodup) : ((set key value entries).map Prod.fst).Nodup := by
  induction entries with
  | nil => simp [set]
  | cons e rest ih =>
    obtain ⟨k, v⟩ := e
    obtain ⟨hk, hrest⟩ := List.nodup_cons.1 (show (k :: rest.map Prod.fst).Nodup from h)
    rw [set]
    by_cases hkey : k = key
    · rw [if_pos hkey]
      exact h
    · rw [if_neg hkey]
      refine List.nodup_cons.2 ⟨fun hmem => ?_, ih hrest⟩
      exact (mem_keys_set.1 hmem).elim hkey hk

theorem nodup_overlay {entries : List (String × α)} (h : (entries.map Prod.fst).Nodup)
    (top : List (String × α)) : ((overlay entries top).map Prod.fst).Nodup := by
  induction top generalizing entries with
  | nil => exact h
  | cons e rest ih => exact ih (nodup_set h)

/-- What is laid over counts, and where there is nothing, what was there before. -/
theorem find?_overlay {top : List (String × α)} (h : (top.map Prod.fst).Nodup)
    (entries : List (String × α)) (key : String) :
    find? key (overlay entries top) = (find? key top).or (find? key entries) := by
  induction top generalizing entries with
  | nil => rfl
  | cons e rest ih =>
    obtain ⟨k, v⟩ := e
    obtain ⟨hk, hrest⟩ := List.nodup_cons.1 (show (k :: rest.map Prod.fst).Nodup from h)
    show find? key (overlay (set k v entries) rest) = _
    rw [ih hrest, find?_set, find?_cons]
    by_cases hkey : k = key
    · subst hkey
      have hnone : find? k rest = none :=
        find?_eq_none_iff.2 fun e he heq => hk (List.mem_map.2 ⟨e, he, heq⟩)
      rw [hnone, if_pos rfl, if_pos rfl]
      rfl
    · rw [if_neg hkey, if_neg hkey]

end Entries

/-- An object with the members of another laid over its own, key by key at the top level. -/
def Json.merged : Json → Json → Json
  | .object members, .object top => .object (Entries.overlay members top)
  | _, top => top

namespace VocabularyUpdate

/-! ### Cells -/

/-- The cells of the stored form. -/
def cells (u : VocabularyUpdate) : List (String × Option Json) :=
  [("display_name", u.displayName.map .string), ("description", u.description.map .string),
    ("helper_text", u.helperText.map .string), ("tags", u.tags.map (Json.ofList Tag.toJson)),
    ("popup_width", u.popupWidth.map Json.ofInt), ("type", u.kind.map VocabularyKind.toJson),
    ("items", u.items.map (Json.ofList Item.toJson)),
    ("selection_type", u.selection.map SelectionKind.toJson),
    ("read_only", u.readOnly.map .bool), ("schema_field", u.schemaField.map .string),
    ("dependent", u.dependent.map .bool), ("service", u.service.map (Json.ofMap Json.ofInt)),
    ("priority", u.priority.map Json.ofInt), ("unique_field", u.uniqueField.map .string),
    ("schema", u.schema.map Schema.toJson), ("field_type", u.fieldType.map .string),
    ("field_options", u.fieldOptions.map Json.ofFreeMap),
    ("init_version", u.initVersion.map Json.ofInt),
    ("preffered_items", u.preferredItems.map .bool),
    ("disable_entire_category_selection", u.disableEntireCategory.map .bool),
    ("date_shortcuts", u.dateShortcuts.map (Json.ofList DateShortcut.toJson)),
    ("custom_field_type", u.customFieldType.map .string),
    ("custom_field_config", u.customFieldConfig.map Json.ofFreeMap),
    ("translations", u.translations.map NameTranslations.toJson)]

theorem keys_cells (u : VocabularyUpdate) : u.cells.map Prod.fst = knownFields := rfl

theorem nodup_cells (u : VocabularyUpdate) : (u.cells.map Prod.fst).Nodup := by
  rw [keys_cells]
  decide

theorem members_eq (u : VocabularyUpdate) : u.members = Json.filled u.cells := by
  delta members cells
  simp only [Json.filled_cons, Json.filled_nil, Json.optionalMember_map, List.append_assoc,
    List.append_nil]

theorem nodup_members (u : VocabularyUpdate) : (u.members.map Prod.fst).Nodup := by
  rw [members_eq]
  exact Json.nodup_filled u.nodup_cells

theorem find?_members (u : VocabularyUpdate) :
    ∀ c ∈ u.cells, Entries.find? c.1 u.members = c.2 := by
  rw [members_eq]
  exact Json.find?_filled u.nodup_cells

theorem find?_schema (u : VocabularyUpdate) :
    Entries.find? "schema" u.members = u.schema.map Schema.toJson :=
  u.find?_members ("schema", _) (List.mem_of_getElem? (i := 14) rfl)

/-- Whatever updates know documents know. -/
theorem subset_knownFields : knownFields ⊆ Vocabulary.knownFields := by decide

/-- A field that updates do not know is no member of one. -/
theorem find?_members_of_not_known {u : VocabularyUpdate} {key : String} (h : key ∉ knownFields) :
    Entries.find? key u.members = none := by
  rw [members_eq]
  exact Json.find?_filled_of_not_mem (by rwa [keys_cells])

end VocabularyUpdate

namespace Vocabulary

variable {v : Vocabulary} {u : VocabularyUpdate}

/-! ### Members of the merged object -/

section Members

variable {α : Type} {key : String} {f : α → Json}

/-- A field that updates do not know stays. -/
theorem find?_overlay_kept (v : Vocabulary) (u : VocabularyUpdate)
    (h : key ∉ VocabularyUpdate.knownFields) :
    Entries.find? key (Entries.overlay v.members u.members) = Entries.find? key v.members := by
  rw [Entries.find?_overlay u.nodup_members, VocabularyUpdate.find?_members_of_not_known h,
    Option.none_or]

/-- A field that a document may lack is set or stays. -/
theorem find?_overlay_optional {a b : Option α} (hu : Entries.find? key u.members = a.map f)
    (hv : Entries.find? key v.members = b.map f) :
    Entries.find? key (Entries.overlay v.members u.members) = (a.or b).map f := by
  rw [Entries.find?_overlay u.nodup_members, hu, hv, Option.map_or]

/-- A field that every document has is set or stays. -/
theorem find?_overlay_always {a : Option α} {b : α} (hu : Entries.find? key u.members = a.map f)
    (hv : Entries.find? key v.members = some (f b)) :
    Entries.find? key (Entries.overlay v.members u.members) = some (f (a.getD b)) := by
  rw [Entries.find?_overlay u.nodup_members, hu, hv, Option.or_some, Option.getD_map]

end Members

/-- The merged members answer as the cells of the updated document do. -/
theorem find?_overlay_of_mem_cells (v : Vocabulary) (u : VocabularyUpdate) :
    ∀ c ∈ (v.applyUpdate u).cells, c.1 ≠ "schema" →
      Entries.find? c.1 (Entries.overlay v.members u.members) = c.2 := by
  have hv := v.find?_members
  have hu := u.find?_members
  simp only [cells, VocabularyUpdate.cells, List.forall_mem_cons] at hv hu ⊢
  obtain ⟨v1, v2, v3, v4, v5, v6, v7, v8, v9, v10, v11, v12, v13, v14, v15, -, v17, v18, v19, v20,
    v21, v22, v23, v24, v25, v26, v27, v28, -⟩ := hv
  obtain ⟨u2, u3, u4, u5, u6, u7, u8, u9, u10, u11, u12, u13, u14, u15, -, u17, u18, u19, u20,
    u21, u22, u23, u24, u25, -⟩ := hu
  exact ⟨fun _ => (find?_overlay_kept v u (by decide)).trans v1,
    fun _ => find?_overlay_always u2 v2, fun _ => find?_overlay_optional u3 v3,
    fun _ => find?_overlay_optional u4 v4, fun _ => find?_overlay_optional u5 v5,
    fun _ => find?_overlay_optional u6 v6, fun _ => find?_overlay_always u7 v7,
    fun _ => find?_overlay_always u8 v8, fun _ => find?_overlay_optional u9 v9,
    fun _ => find?_overlay_optional u10 v10, fun _ => find?_overlay_optional u11 v11,
    fun _ => find?_overlay_optional u12 v12, fun _ => find?_overlay_optional u13 v13,
    fun _ => find?_overlay_optional u14 v14, fun _ => find?_overlay_optional u15 v15,
    fun h => absurd rfl h, fun _ => find?_overlay_optional u17 v17,
    fun _ => find?_overlay_optional u18 v18, fun _ => find?_overlay_optional u19 v19,
    fun _ => find?_overlay_optional u20 v20, fun _ => find?_overlay_always u21 v21,
    fun _ => find?_overlay_optional u22 v22, fun _ => find?_overlay_optional u23 v23,
    fun _ => find?_overlay_optional u24 v24, fun _ => find?_overlay_optional u25 v25,
    fun _ => (find?_overlay_kept v u (by decide)).trans v26,
    fun _ => (find?_overlay_kept v u (by decide)).trans v27,
    fun _ => (find?_overlay_kept v u (by decide)).trans v28, List.forall_mem_nil _⟩

/-- The schema is set or stays; an empty one that is set is read as such. -/
theorem schema_overlay (hv : v.WellFormed) (hu : u.WellFormed) :
    Json.defaulted? "schema" ∅ Schema.ofJson? (Entries.overlay v.members u.members) =
      some (v.applyUpdate u).schema := by
  have hkept := v.find?_of_mem_cells (List.mem_of_getElem? (i := 15) rfl)
  have hmerged := Entries.find?_overlay u.nodup_members v.members "schema"
  rw [u.find?_schema] at hmerged
  rw [applyUpdate]
  cases hschema : u.schema with
  | some s =>
    rw [hschema, Option.map_some, Option.some_or] at hmerged
    exact (Json.defaulted?_eq hmerged).trans (Schema.ofJson?_toJson (hu.schema s hschema))
  | none =>
    rw [hschema, Option.map_none, Option.none_or, hkept] at hmerged
    exact schema_of_cell hv.schema hmerged

/-- The merged object reads as the updated document. -/
theorem ofJson?_merged (hv : v.WellFormed) (hu : u.WellFormed) :
    ofJson? (v.toJson.merged u.toJson) = some (v.applyUpdate u) := by
  have hkeys : (v.members.map Prod.fst).Nodup := by
    rw [members_eq]
    exact Json.nodup_filled v.nodup_cells
  have hrecord : Json.record? knownFields (v.toJson.merged u.toJson) =
      some (Entries.overlay v.members u.members) :=
    Json.record?_object (Json.distinct_of_nodup (Entries.nodup_overlay hkeys u.members) _)
  exact ofJson?_eq_some_iff.2 ⟨_, hrecord,
    readFrom_of_cells (hv.applyUpdate hu) (find?_overlay_of_mem_cells v u) (schema_overlay hv hu)⟩

/-! ### Members of the updated document -/

theorem get?_toJson (v : Vocabulary) (key : String) :
    v.toJson.get? key = Entries.find? key v.members := rfl

theorem find?_members_of_not_known {key : String} (h : key ∉ knownFields) :
    Entries.find? key v.members = none := by
  rw [members_eq]
  exact Json.find?_filled_of_not_mem (by rwa [keys_cells])

/-- But for its schema the updated document has the merged members. -/
theorem find?_members_applyUpdate {key : String} (hkey : key ≠ "schema") :
    Entries.find? key (v.applyUpdate u).members =
      (Entries.find? key u.members).or (Entries.find? key v.members) := by
  rw [← Entries.find?_overlay u.nodup_members]
  by_cases hknown : key ∈ knownFields
  · rw [← (v.applyUpdate u).keys_cells] at hknown
    obtain ⟨c, hc, rfl⟩ := List.mem_map.1 hknown
    rw [(v.applyUpdate u).find?_members c hc, find?_overlay_of_mem_cells v u c hc hkey]
  · have hupdate : key ∉ VocabularyUpdate.knownFields := fun h =>
      hknown (VocabularyUpdate.subset_knownFields h)
    rw [find?_overlay_kept v u hupdate, find?_members_of_not_known hknown,
      find?_members_of_not_known hknown]

/-- The schema of the updated document, which is no member when it declares nothing. -/
theorem find?_schema_applyUpdate : Entries.find? "schema" (v.applyUpdate u).members =
    if (u.schema.getD v.schema).fields.isEmpty then none
    else some (u.schema.getD v.schema).toJson :=
  (v.applyUpdate u).find?_of_mem_cells (List.mem_of_getElem? (i := 15) rfl)

/-- What an update does not set stays. -/
theorem find?_members_of_not_set {key : String} (h : Entries.find? key u.members = none) :
    Entries.find? key (v.applyUpdate u).members = Entries.find? key v.members := by
  by_cases hkey : key = "schema"
  · subst hkey
    rw [u.find?_schema, Option.map_eq_none_iff] at h
    rw [find?_schema_applyUpdate, h, Option.getD_none]
    exact (v.find?_of_mem_cells (List.mem_of_getElem? (i := 15) rfl)).symm
  · rw [find?_members_applyUpdate hkey, h, Option.none_or]

/-- What an update sets is there, unless it is a schema without fields. -/
theorem find?_members_of_set {key : String} {x : Json} (h : Entries.find? key u.members = some x)
    (hx : x ≠ .object []) : Entries.find? key (v.applyUpdate u).members = some x := by
  by_cases hkey : key = "schema"
  · subst hkey
    rw [u.find?_schema, Option.map_eq_some_iff] at h
    obtain ⟨s, hs, rfl⟩ := h
    have hfields : s.fields.isEmpty = false := by
      rw [List.isEmpty_eq_false_iff]
      intro hnil
      exact hx (by rw [Schema.toJson, hnil]; rfl)
    rw [find?_schema_applyUpdate, hs, Option.getD_some, hfields]
    rfl
  · rw [find?_members_applyUpdate hkey, h, Option.some_or]

end Vocabulary

/-! ### Every field can be changed -/

namespace VocabularyUpdate

/-- Two values for every field of an update. -/
def twoValues : List (String × Json × Json) :=
  let texts : Json × Json := (.string "a", .string "b")
  let flags : Json × Json := (.bool true, .bool false)
  let numbers : Json × Json := (.ofInt 0, .ofInt 1)
  let maps (v : Json) : Json × Json := (.object [("a", v)], .object [("b", v)])
  let shortcut : Json :=
    .object [("value", .ofInt 0), ("term", .string "a"), ("label", .string "a")]
  [("display_name", texts), ("description", texts), ("helper_text", texts),
    ("tags", .array [], .array [.object [("text", .string "a")]]), ("popup_width", numbers),
    ("type", .string "manageable", .string "unmanageable"),
    ("items", .array [], .array [.object []]),
    ("selection_type", .string "single selection", .string "do not show"), ("read_only", flags),
    ("schema_field", texts), ("dependent", flags), ("service", maps (.ofInt 0)),
    ("priority", numbers), ("unique_field", texts), ("schema", maps (.object [])),
    ("field_type", texts), ("field_options", maps .null), ("init_version", numbers),
    ("preffered_items", flags), ("disable_entire_category_selection", flags),
    ("date_shortcuts", .array [], .array [shortcut]), ("custom_field_type", texts),
    ("custom_field_config", maps .null),
    ("translations", .object [("display_name", .object [("a", .string "a")])],
      .object [("display_name", .object [("b", .string "a")])])]

theorem keys_twoValues : twoValues.map Prod.fst = knownFields := rfl

/-- An update that sets nothing but one field. -/
def SetsOnly (u : VocabularyUpdate) (key : String) (x : Json) : Prop :=
  (∃ j, ofJson? j = some u) ∧ u.members = [(key, x)]

/-- Each of the two values can be set on its own, and they differ. -/
theorem setsOnly_twoValues : ∀ e ∈ twoValues, e.2.1 ≠ e.2.2 ∧
    ∀ x ∈ [e.2.1, e.2.2], x ≠ .object [] ∧ ∃ u : VocabularyUpdate, u.SetsOnly e.1 x := by
  have hread : ∀ e ∈ twoValues, e.2.1 ≠ e.2.2 ∧ ∀ x ∈ [e.2.1, e.2.2], x ≠ .object [] ∧
      (ofJson? (.object [(e.1, x)])).map members = some [(e.1, x)] := by decide
  intro e he
  obtain ⟨hne, hvalues⟩ := hread e he
  refine ⟨hne, fun x hx => ?_⟩
  obtain ⟨hnonempty, hmembers⟩ := hvalues x hx
  obtain ⟨u, hu, hmembers⟩ := Option.map_eq_some_iff.1 hmembers
  exact ⟨hnonempty, u, ⟨_, hu⟩, hmembers⟩

end VocabularyUpdate

namespace Vocabulary

/-- Every field of an update can be changed, and nothing else with it. -/
theorem exists_changes (v : Vocabulary) {key : String} (hkey : key ∈ VocabularyUpdate.knownFields) :
    ∃ u : VocabularyUpdate, (∃ j, VocabularyUpdate.ofJson? j = some u) ∧
      (v.applyUpdate u).toJson.get? key ≠ v.toJson.get? key ∧
      ∀ other, other ≠ key → (v.applyUpdate u).toJson.get? other = v.toJson.get? other := by
  rw [← VocabularyUpdate.keys_twoValues] at hkey
  obtain ⟨⟨key, a, b⟩, he, rfl⟩ := List.mem_map.1 hkey
  obtain ⟨hne, hvalues⟩ := VocabularyUpdate.setsOnly_twoValues _ he
  -- one of the two values is not the one that is there
  obtain ⟨x, hx, hother⟩ : ∃ x ∈ [a, b], Entries.find? key v.members ≠ some x := by
    by_cases ha : Entries.find? key v.members = some a
    · refine ⟨b, by simp, fun hb => hne ?_⟩
      exact Option.some.inj (ha.symm.trans hb)
    · exact ⟨a, by simp, ha⟩
  obtain ⟨hnonempty, u, hu, hmembers⟩ := hvalues x hx
  have hset : Entries.find? key u.members = some x := by
    rw [hmembers, Entries.find?_cons, if_pos rfl]
  refine ⟨u, hu, ?_, fun other hne => ?_⟩
  · rw [get?_toJson, get?_toJson, find?_members_of_set hset hnonempty]
    exact hother.symm
  · rw [get?_toJson, get?_toJson]
    refine find?_members_of_not_set ?_
    rw [hmembers, Entries.find?_cons, if_neg (Ne.symm hne), Entries.find?_nil]

/-- **Updates are merges**: laying the members of an update over those of a document, key by key at
the top level, gives an object that reads as the updated document, if both were read from JSON. No
update changes the key, the deletion flag or the timestamps; every field that updates know can be
changed by an update that was read from JSON, and nothing else with it. -/
theorem merge_reads_as_updated (v : Vocabulary) (hv : ∃ j, ofJson? j = some v) :
    (∀ u : VocabularyUpdate, (∃ j, VocabularyUpdate.ofJson? j = some u) →
      ofJson? (v.toJson.merged u.toJson) = some (v.applyUpdate u) ∧
      (v.applyUpdate u).id = v.id ∧ (v.applyUpdate u).deleted = v.deleted ∧
      (v.applyUpdate u).created = v.created ∧ (v.applyUpdate u).updated = v.updated) ∧
    ∀ key ∈ VocabularyUpdate.knownFields, ∃ u : VocabularyUpdate,
      (∃ j, VocabularyUpdate.ofJson? j = some u) ∧
      (v.applyUpdate u).toJson.get? key ≠ v.toJson.get? key ∧
      ∀ other, other ≠ key → (v.applyUpdate u).toJson.get? other = v.toJson.get? other := by
  obtain ⟨j, hj⟩ := hv
  refine ⟨?_, fun key hkey => v.exists_changes hkey⟩
  rintro u ⟨i, hi⟩
  exact ⟨ofJson?_merged (wellFormed_of_ofJson? hj) (VocabularyUpdate.wellFormed_of_ofJson? hi),
    rfl, rfl, rfl, rfl⟩

/-- Updates know all fields of documents but four. -/
example : VocabularyUpdate.knownFields.length = 24 ∧ Vocabulary.knownFields.filter
    (fun key => !VocabularyUpdate.knownFields.contains key) =
      ["_id", "_deleted", "_created", "_updated"] := by decide

/-- Charts with a declared field and options. -/
def charts : Vocabulary :=
  { Vocabulary.new "charts" "Charts" .manageable with
    items := [{ Item.blank with extra := TextMap.ofList [("name", .array [.null])] }]
    schema := Schema.ofList [("qcode", .blank), ("kind", .ofLink "kinds" "name")]
    fieldOptions := some (TextMap.ofList [("wide", .bool true)])
    deleted := true
    created := some 3 }

/-- The update that describes the charts and leaves them without declared fields and options. -/
def emptied : VocabularyUpdate :=
  { VocabularyUpdate.blank with
    description := some ""
    schema := some ∅
    fieldOptions := some ∅ }

/-- The charts lose their declared fields and options, and get a description at the end. -/
theorem charts_emptied :
    charts.toJson.merged emptied.toJson = .object
      [("_id", .string "charts"), ("display_name", .string "Charts"),
        ("type", .string "manageable"), ("items", .array [.object [("name", .array [.null])]]),
        ("schema", .object []), ("field_options", .object []),
        ("disable_entire_category_selection", .bool false), ("_deleted", .bool true),
        ("_created", .ofInt 3), ("description", .string "")] ∧
    ofJson? (charts.toJson.merged emptied.toJson) = some { charts with
      description := some "", schema := ∅, fieldOptions := some ∅ } := by
  have hcharts : ∃ j, ofJson? j = some charts := ⟨charts.toJson, by decide⟩
  have hemptied : ∃ j, VocabularyUpdate.ofJson? j = some emptied :=
    ⟨emptied.toJson, by decide⟩
  refine ⟨by decide, ?_⟩
  exact ((merge_reads_as_updated charts hcharts).1 emptied hemptied).1

end Vocabulary

end Newsroom
