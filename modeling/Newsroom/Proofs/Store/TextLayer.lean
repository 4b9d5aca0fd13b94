import Newsroom.Proofs.Json.Reader
import Newsroom.Proofs.Store.Rows

/-!
# Documents as compact JSON

Compact JSON does not read back every document: a double can come back changed in its last bit, and
texts that nest too deep are refused. It reads back exactly the documents whose items, schema and
free-form maps are free of both (`TextLayer.keeps_json_iff`). The other documents are refused or
come back with other doubles, but what the checks of a write rest on stays: the field type, the
display name, the unique field and the declared fields (`TextLayer.keepsFieldTypes_json` and the
lemmas after it).
-/

namespace Newsroom

/-! ### Documents that are read back -/

/-- The depth that is left to the items of a document. -/
def itemDepth : Nat := Json.maxDepth - 2

/-- The text of the item is read back inside that of a document. -/
def Item.Legible (i : Item) : Prop := i.toJson.legible itemDepth = true

/-- The text of the schema is read back inside that of a document. -/
def Schema.Legible (s : Schema) : Prop := s.toJson.legible (itemDepth + 1) = true

/-- The text of the free-form map is read back inside that of a document. -/
def Json.LegibleMap (m : TextMap Json) : Prop := (ofFreeMap m).legible (itemDepth + 1) = true

/-- The parts of the document that may hold any JSON values are read back from its text. -/
abbrev Vocabulary.Legible : Vocabulary → Prop :=
  ConsistsOf Item.Legible Schema.Legible Json.LegibleMap

/-- What the update sets is read back from the text of a document. -/
abbrev VocabularyUpdate.Legible : VocabularyUpdate → Prop :=
  ConsistsOf Item.Legible Schema.Legible Json.LegibleMap

namespace Vocabulary

/-- A cell is read back when its value is, if it has one. -/
def CellLegible (o : Option Json) : Prop := ∀ j ∈ o, j.legible (itemDepth + 1) = true

theorem cellLegible_some {j : Json} : CellLegible (some j) ↔ j.legible (itemDepth + 1) = true := by
  simp [CellLegible]

theorem cellLegible_map {α : Type} {f : α → Json} {o : Option α} :
    CellLegible (o.map f) ↔ ∀ a, o = some a → (f a).legible (itemDepth + 1) = true := by
  simp [CellLegible]

theorem legible_toJson_iff_cells {v : Vocabulary} :
    v.toJson.legible Json.maxDepth = true ↔ ∀ c ∈ v.cells, CellLegible c.2 := by
  rw [toJson, show Json.maxDepth = itemDepth + 1 + 1 from rfl, Json.legible_object, members_eq]
  constructor
  · rintro h ⟨key, o⟩ hc j hj
    obtain rfl : o = some j := hj
    exact h (key, j) (Json.mem_filled.2 hc)
  · rintro h ⟨key, j⟩ he
    exact h (key, some j) (Json.mem_filled.1 he) j rfl

theorem legible_ofMap {α : Type} {f : α → Json} {m : TextMap α} {depth : Nat}
    (h : ∀ a, (f a).legible depth = true) : (Json.ofMap f m).legible (depth + 1) = true := by
  rw [Json.ofMap, Json.legible_object]
  intro e he
  obtain ⟨d, -, rfl⟩ := List.mem_map.1 he
  exact h d.2

theorem legible_ofList {α : Type} {f : α → Json} {xs : List α} {depth : Nat} :
    (Json.ofList f xs).legible (depth + 1) = true ↔ ∀ x ∈ xs, (f x).legible depth = true := by
  rw [Json.ofList, Json.legible_array, List.forall_mem_map]

theorem legible_schema {s : Schema} :
    CellLegible (if s.fields.isEmpty then none else some s.toJson) ↔ s.Legible := by
  cases hempty : s.fields.isEmpty with
  | true =>
    refine iff_of_true (by simp [CellLegible]) ?_
    rw [Schema.Legible, Schema.toJson, List.isEmpty_iff.1 hempty, List.map_nil]
    rfl
  | false => exact cellLegible_some

theorem legible_translations (t : NameTranslations) {depth : Nat} :
    t.toJson.legible (depth + 1 + 1) = true := by
  rw [NameTranslations.toJson, Json.legible_object]
  split
  case isTrue => simp
  case isFalse => exact List.forall_mem_singleton.2 (legible_ofMap fun _ => rfl)

/-- A document is read back when the parts of it that may hold any JSON values are. -/
theorem legible_toJson_iff {v : Vocabulary} :
    v.toJson.legible Json.maxDepth = true ↔ v.Legible := by
  have hstring : ∀ s, (Json.string s).legible (itemDepth + 1) = true := fun _ => rfl
  have hbool : ∀ b, (Json.bool b).legible (itemDepth + 1) = true := fun _ => rfl
  have hint : ∀ n, (Json.ofInt n).legible (itemDepth + 1) = true := fun _ => rfl
  have hkind : ∀ k : VocabularyKind, k.toJson.legible (itemDepth + 1) = true := fun _ => rfl
  have hselection : ∀ k : SelectionKind, k.toJson.legible (itemDepth + 1) = true := fun _ => rfl
  have htag : ∀ t : Tag, t.toJson.legible itemDepth = true := fun _ => rfl
  have hshortcut : ∀ d : DateShortcut, d.toJson.legible itemDepth = true := fun _ => rfl
  have hservice : ∀ m, (Json.ofMap Json.ofInt m).legible (itemDepth + 1) = true :=
    fun _ => legible_ofMap fun _ => rfl
  have hflag : ∀ b : Bool, CellLegible (if b = true then some (.bool true) else none) := by
    rintro (_ | _)
    · simp [CellLegible]
    · exact cellLegible_some.2 rfl
  have htranslations : ∀ t : NameTranslations, t.toJson.legible (itemDepth + 1) = true :=
    fun t => legible_translations t
  rw [legible_toJson_iff_cells]
  simp only [cells, List.forall_mem_cons, cellLegible_some, cellLegible_map, legible_schema,
    legible_ofList, hstring, hbool, hint, hkind, hselection, htag, hshortcut, hservice, hflag,
    htranslations, implies_true, true_and]
  constructor
  · rintro ⟨hitems, hschema, hoptions, hconfig, -⟩
    exact ⟨hitems, hschema, hoptions, hconfig⟩
  · rintro ⟨hitems, hschema, hoptions, hconfig⟩
    exact ⟨hitems, hschema, hoptions, hconfig, List.forall_mem_nil _⟩

/-! ### What a stored text is read as -/

theorem read_json : TextLayer.json.read = Json.read? shape := rfl

theorem print_json : TextLayer.json.print = Json.print := rfl

/-- Records whose fields are read as they are. -/
theorem fits_fields {keys : List String} {members : List (String × Json)}
    (h : ∀ e ∈ members, e.1 ∈ keys) :
    (Shape.record (keys.map (·, .whole))).fits (.object members) = true :=
  Shape.fits_record keys (fun _ => .whole) fun e he => ⟨h e he, Shape.fits_whole e.2⟩

theorem eq_of_mem_cells {v : Vocabulary} {key : String} {o o' : Option Json}
    (h : (key, o) ∈ v.cells) (h' : (key, o') ∈ v.cells) : o = o' :=
  (find?_of_mem_cells h).symm.trans (find?_of_mem_cells h')

/-- Nothing of a cell is dropped when its text is read. -/
theorem fits_fieldShape {v : Vocabulary} {key : String} {j : Json} (h : (key, some j) ∈ v.cells) :
    (fieldShape key).fits j = true := by
  rw [fieldShape]
  split
  case isTrue htags =>
    subst htags
    obtain ⟨ts, -, rfl⟩ := Option.map_eq_some_iff.1
      (eq_of_mem_cells (List.mem_of_getElem? (i := 4) rfl) h)
    refine Shape.fits_list.2 fun x hx => ?_
    obtain ⟨t, -, rfl⟩ := List.mem_map.1 hx
    exact fits_fields (by simp [Json.member, Tag.knownFields])
  case isFalse =>
    split
    case isTrue hshortcuts =>
      subst hshortcuts
      obtain ⟨ds, -, rfl⟩ := Option.map_eq_some_iff.1
        (eq_of_mem_cells (List.mem_of_getElem? (i := 21) rfl) h)
      refine Shape.fits_list.2 fun x hx => ?_
      obtain ⟨d, -, rfl⟩ := List.mem_map.1 hx
      exact fits_fields (by simp [Json.member, DateShortcut.knownFields])
    case isFalse =>
      split
      case isTrue htranslations =>
        subst htranslations
        obtain ⟨t, -, rfl⟩ := Option.map_eq_some_iff.1
          (eq_of_mem_cells (List.mem_of_getElem? (i := 24) rfl) h)
        refine fits_fields ?_
        split <;> simp [Json.member, NameTranslations.knownFields]
      case isFalse => exact Shape.fits_whole j

/-- Nothing of a stored document is dropped when its text is read. -/
theorem fits_shape (v : Vocabulary) : shape.fits v.toJson = true := by
  have hcells : ∀ e ∈ Json.filled v.cells,
      e.1 ∈ knownFields ∧ (fieldShape e.1).fits e.2 = true := by
    rintro ⟨key, j⟩ he
    have hcell : (key, some j) ∈ v.cells := Json.mem_filled.1 he
    exact ⟨keys_cells v ▸ List.mem_map_of_mem hcell, fits_fieldShape hcell⟩
  rw [toJson, members_eq, shape]
  exact Shape.fits_record knownFields fieldShape hcells

/-- What is read from the text of a document. -/
theorem read_print_json (v : Vocabulary) :
    TextLayer.json.read (TextLayer.json.print v.toJson) = v.toJson.reread? Json.maxDepth := by
  rw [read_json, print_json, Json.read?_print v.fits_shape]

/-- Whatever document is found in the text of another was read from the members of that other one,
each as it is read back. -/
theorem exists_readFrom {v w : Vocabulary}
    (h : (TextLayer.json.read (TextLayer.json.print v.toJson)).bind ofJson? = some w) :
    ∃ ms, w.ReadFrom ms ∧ ∀ key o, (key, o) ∈ v.cells →
      Entries.find? key ms = o.bind (Json.reread? (itemDepth + 1)) ∧
        ∀ j ∈ o, ∃ j', j.reread? (itemDepth + 1) = some j' := by
  rw [read_print_json] at h
  obtain ⟨j, hj, hw⟩ := Option.bind_eq_some_iff.1 h
  obtain ⟨ms, hms, rfl⟩ := Json.reread?_object.1 hj
  obtain ⟨ms', hms', hread⟩ := ofJson?_eq_some_iff.1 hw
  have hdistinct : (ms.map Prod.fst).Nodup := by
    rw [Json.keys_rereadMembers? hms, members_eq]
    exact Json.nodup_filled v.nodup_cells
  rw [Json.record?_object (Json.distinct_of_nodup hdistinct _)] at hms'
  obtain rfl : ms = ms' := Option.some.inj hms'
  refine ⟨ms, hread, fun key o hcell => ⟨?_, ?_⟩⟩
  · exact (Json.find?_rereadMembers? hms key).trans (by rw [find?_of_mem_cells hcell]; rfl)
  · rintro j rfl
    exact Json.exists_reread?_of_find? hms (find?_of_mem_cells hcell)

theorem bind_reread?_strings (o : Option String) (depth : Nat) :
    (o.map Json.string).bind (Json.reread? depth) = o.map .string := by
  cases o <;> rfl

/-- The schema that is found declares the fields of the schema in the text. -/
theorem declares_of_cell {s t : Schema} {ms : List (String × Json)} {o : Option Json}
    (h : Json.defaulted? "schema" ∅ Schema.ofJson? ms = some t)
    (ho : o = if s.fields.isEmpty then none else some s.toJson)
    (hcell : Entries.find? "schema" ms = o.bind (Json.reread? (itemDepth + 1)) ∧
      ∀ j ∈ o, ∃ j', j.reread? (itemDepth + 1) = some j') (field : String) :
    t.declares field = s.declares field := by
  obtain ⟨hfind, hread⟩ := hcell
  cases hempty : s.fields.isEmpty with
  | true =>
    obtain rfl : o = none := by rw [ho, hempty, if_pos rfl]
    rw [Json.defaulted?_missing hfind] at h
    rw [← Option.some.inj h, Schema.declares, Schema.declares, List.isEmpty_iff.1 hempty]
    rfl
  | false =>
    obtain rfl : o = some s.toJson := by rw [ho, hempty, if_neg Bool.false_ne_true]
    obtain ⟨j, hj⟩ := hread s.toJson rfl
    rw [Option.bind_some, hj] at hfind
    rw [Json.defaulted?_eq hfind] at h
    obtain ⟨others, hothers, rfl⟩ := Json.reread?_object.1 hj
    refine Schema.declares_of_ofJson? ?_ h field
    rw [Json.keys_rereadMembers? hothers, List.map_map]
    rfl

end Vocabulary

namespace TextLayer

variable {v w : Vocabulary}

/-- **Compact JSON** reads back exactly the documents whose parts are legible. -/
theorem keeps_json_iff : json.Keeps v ↔ v.Legible := by
  rw [Keeps, Vocabulary.read_json, Vocabulary.print_json, Json.read?_print_eq_self_iff v.fits_shape]
  exact Vocabulary.legible_toJson_iff

/-! ### What stays of every document -/

/-- Whatever is found in the compact text of a document has its display name. -/
theorem keepsDisplayNames_json : json.KeepsDisplayNames := by
  intro v w h
  obtain ⟨ms, hread, hcells⟩ := Vocabulary.exists_readFrom h
  obtain ⟨hcell, -⟩ := hcells "display_name" (some (.string v.displayName))
    (List.mem_of_getElem? (i := 1) rfl)
  have hname := hread.displayName
  rw [Json.required?_eq hcell] at hname
  exact (Option.some.inj hname).symm

/-- Whatever is found in the compact text of a document has its field type. -/
theorem keepsFieldTypes_json : json.KeepsFieldTypes := by
  intro v w h
  obtain ⟨ms, hread, hcells⟩ := Vocabulary.exists_readFrom h
  obtain ⟨hcell, -⟩ := hcells "field_type" (v.fieldType.map .string)
    (List.mem_of_getElem? (i := 16) rfl)
  rw [Vocabulary.bind_reread?_strings] at hcell
  have htype := hread.fieldType
  rw [Json.optional?_eq hcell (fun _ _ => rfl) (by simp)] at htype
  exact (Option.some.inj htype).symm

/-- Whatever is found in the compact text of a document has its unique field and declares the same
fields. -/
theorem keepsUniqueFields_json : json.KeepsUniqueFields := by
  intro v w h
  obtain ⟨ms, hread, hcells⟩ := Vocabulary.exists_readFrom h
  constructor
  · obtain ⟨hcell, -⟩ := hcells "unique_field" (v.uniqueField.map .string)
      (List.mem_of_getElem? (i := 14) rfl)
    rw [Vocabulary.bind_reread?_strings] at hcell
    have hunique := hread.uniqueField
    rw [Json.optional?_eq hcell (fun _ _ => rfl) (by simp)] at hunique
    exact (Option.some.inj hunique).symm
  · exact Vocabulary.declares_of_cell hread.schema rfl
      (hcells "schema" _ (List.mem_of_getElem? (i := 15) rfl))

end TextLayer

end Newsroom
