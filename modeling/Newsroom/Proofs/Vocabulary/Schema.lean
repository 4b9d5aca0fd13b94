import Newsroom.Proofs.Json.Record
import Newsroom.Vocabulary.FieldSpec

/-!
# Schemas that read back

A declaration is well-formed when its further keys are none of those that it knows and their values
are in normal form; a schema is when its declarations are. Declarations and schemas that are read
are well-formed, and well-formed ones read back from their stored form.
-/

namespace Newsroom

namespace FieldSpec

/-- The further keys are not known ones, and their values are in normal form. -/
structure WellFormed (s : FieldSpec) : Prop where
  unknown : ∀ e ∈ s.extra.entries, e.1 ∉ knownFields
  normal : Json.NormalMap s.extra

/-- The cells of the known fields. -/
def cells (s : FieldSpec) : List (String × Option Json) :=
  [("required", if s.required then some (.bool true) else none),
    ("link_vocab", s.linkVocabulary.map .string), ("link_field", s.linkField.map .string),
    ("type", s.valueType.map .string)]

/-- The members of the stored form. -/
def members (s : FieldSpec) : List (String × Json) := Json.filled s.cells ++ s.extra.entries

theorem toJson_eq (s : FieldSpec) : s.toJson = .object s.members := by
  simp only [toJson, members, cells, Json.filled_cons, Json.filled_nil, Json.optionalMember_map,
    Json.optionalMember_flag, List.append_assoc, List.nil_append]

theorem keys_cells (s : FieldSpec) : s.cells.map Prod.fst = knownFields := rfl

theorem nodup_cells (s : FieldSpec) : (s.cells.map Prod.fst).Nodup := by
  rw [keys_cells]
  decide

theorem known_of_mem_filled {s : FieldSpec} {e : String × Json} (h : e ∈ Json.filled s.cells) :
    e.1 ∈ knownFields := by
  rw [← keys_cells s]
  exact List.mem_map.2 ⟨(e.1, some e.2), Json.mem_filled.1 h, rfl⟩

theorem nodup_members {s : FieldSpec} (h : s.WellFormed) :
    (s.members.map Prod.fst).Nodup := by
  rw [members, List.map_append]
  refine List.nodup_append.2 ⟨Json.nodup_filled s.nodup_cells,
    Entries.nodup_of_ascending s.extra.ascending, ?_⟩
  rintro a ha b hb rfl
  obtain ⟨e, he, rfl⟩ := List.mem_map.1 ha
  obtain ⟨d, hd, heq⟩ := List.mem_map.1 hb
  exact h.unknown d hd (heq ▸ known_of_mem_filled he)

/-- A known field reads as its cell. -/
theorem find?_members {s : FieldSpec} (h : s.WellFormed) :
    ∀ c ∈ s.cells, Entries.find? c.1 s.members = c.2 := by
  intro c hc
  have hextra : Entries.find? c.1 s.extra.entries = none := by
    refine Entries.find?_eq_none_iff.2 fun e he heq => h.unknown e he ?_
    rw [heq, ← keys_cells s]
    exact List.mem_map.2 ⟨c, hc, rfl⟩
  rw [members, Entries.find?_append, Json.find?_filled s.nodup_cells c hc, hextra, Option.or_none]

theorem filter_members {s : FieldSpec} (h : s.WellFormed) :
    s.members.filter (fun e => !knownFields.contains e.1) = s.extra.entries := by
  have hknown : (Json.filled s.cells).filter (fun e => !knownFields.contains e.1) = [] := by
    refine List.filter_eq_nil_iff.2 fun e he => ?_
    simpa using known_of_mem_filled he
  have hunknown : s.extra.entries.filter (fun e => !knownFields.contains e.1) =
      s.extra.entries := by
    refine List.filter_eq_self.2 fun e he => ?_
    simpa using h.unknown e he
  rw [members, List.filter_append, hknown, hunknown, List.nil_append]

/-- A well-formed declaration reads back from its stored form. -/
theorem ofJson?_toJson {s : FieldSpec} (h : s.WellFormed) : ofJson? s.toJson = some s := by
  have hcells := find?_members h
  simp only [cells, List.forall_mem_cons] at hcells
  obtain ⟨hrequired, hvocabulary, hfield, htype, -⟩ := hcells
  have hrequired := Json.defaulted?_flag hrequired
  have hvocabulary := Json.optional?_eq hvocabulary (f := Json.asString?) (fun _ _ => rfl) (by simp)
  have hfield := Json.optional?_eq hfield (f := Json.asString?) (fun _ _ => rfl) (by simp)
  have htype := Json.optional?_eq htype (f := Json.asString?) (fun _ _ => rfl) (by simp)
  have hextra : TextMap.ofList (Json.normalMembers s.extra.entries) = s.extra := by
    rw [Json.normalMembers_entries h.normal, TextMap.ofList_entries]
  rw [toJson_eq, ofJson?, if_pos (Json.distinct_of_nodup (nodup_members h) _)]
  simp only [hrequired, hvocabulary, hfield, htype, Option.bind_eq_bind, Option.bind_some]
  rw [filter_members h, hextra]

/-- Declarations that are read are well-formed. -/
theorem wellFormed_of_ofJson? {j : Json} {s : FieldSpec} (h : ofJson? j = some s) :
    s.WellFormed := by
  cases j with
  | object members =>
    rw [ofJson?] at h
    split at h
    case isTrue =>
      simp only [Option.bind_eq_bind, Option.bind_eq_some_iff, Option.some.injEq] at h
      obtain ⟨required, -, vocabulary, -, field, -, type, -, rfl⟩ := h
      refine ⟨fun e he hknown => ?_, Json.normalMap_ofList (Json.normalMembers_normalMembers _)⟩
      have hm := TextMap.mem_of_mem_ofList he
      rw [Json.normalMembers_eq_map] at hm
      obtain ⟨d, hd, rfl⟩ := List.mem_map.1 hm
      simpa [hknown] using (List.mem_filter.1 hd).2
    case isFalse => cases h
  | _ => cases h

theorem wellFormed_blank : blank.WellFormed where
  unknown := by
    intro e he
    cases he
  normal := by
    intro e he
    cases he

end FieldSpec

namespace Schema

/-- All declarations are well-formed. -/
def WellFormed (s : Schema) : Prop := ∀ e ∈ s.fields, e.2.WellFormed

/-- A well-formed schema reads back from its stored form. -/
theorem ofJson?_toJson {s : Schema} (h : s.WellFormed) : ofJson? s.toJson = some s := by
  have hall : allSome? (fun e : String × Json => (FieldSpec.ofJson? e.2).map fun d => (e.1, d))
      (s.fields.map fun e => (e.1, e.2.toJson)) = some s.fields := by
    refine allSome?_map fun e he => ?_
    rw [FieldSpec.ofJson?_toJson (h e he), Option.map_some]
  rw [toJson, ofJson?, hall, Option.map_some, ofList_fields]

/-- The schema of declarations that name no field twice has these declarations. -/
theorem fields_ofList {fields : List (String × FieldSpec)} (h : (fields.map Prod.fst).Nodup) :
    (ofList fields).fields = fields :=
  congrArg Schema.fields (ofList_fields ⟨fields, h⟩)

/-- Whatever is read from an object with the keys of a schema declares the same fields. -/
theorem declares_of_ofJson? {s t : Schema} {members : List (String × Json)}
    (hkeys : members.map Prod.fst = s.fields.map Prod.fst)
    (h : ofJson? (.object members) = some t) (field : String) :
    t.declares field = s.declares field := by
  obtain ⟨fields, hfields, rfl⟩ := Option.map_eq_some_iff.1 h
  have hnames : fields.map Prod.fst = s.fields.map Prod.fst := by
    refine (map_eq_of_allSome? (k := Prod.fst) hfields fun x y hxy => ?_).trans hkeys
    obtain ⟨d, -, rfl⟩ := Option.map_eq_some_iff.1 hxy
    rfl
  have hdeclares : ∀ ds : List (String × FieldSpec),
      (ds.any fun e => e.1 = field) = (ds.map Prod.fst).any fun name => name = field := by
    simp [List.any_map, Function.comp_def]
  rw [declares, fields_ofList (hnames ▸ s.distinct), hdeclares, hnames, ← hdeclares, declares]

theorem mem_putField {field : String} {spec : FieldSpec} {fields : List (String × FieldSpec)}
    {e : String × FieldSpec} (h : e ∈ putField field spec fields) :
    e = (field, spec) ∨ e ∈ fields := by
  induction fields with
  | nil => simpa [putField] using h
  | cons d rest ih =>
    obtain ⟨f, s⟩ := d
    rw [putField] at h
    split at h
    case isTrue hf =>
      rcases List.mem_cons.1 h with rfl | h
      · exact .inl (by rw [hf])
      · exact .inr (List.mem_cons_of_mem _ h)
    case isFalse =>
      rcases List.mem_cons.1 h with rfl | h
      · exact .inr List.mem_cons_self
      · exact (ih h).imp_right (List.mem_cons_of_mem _)

theorem mem_foldl_declare {s : Schema} {fields : List (String × FieldSpec)}
    {e : String × FieldSpec} (h : e ∈ (fields.foldl (fun s e => s.declare e.1 e.2) s).fields) :
    e ∈ s.fields ∨ e ∈ fields := by
  induction fields generalizing s with
  | nil => exact .inl h
  | cons d rest ih =>
    rcases ih h with h | h
    · rcases mem_putField h with h | h
      · exact .inr (h ▸ List.mem_cons_self)
      · exact .inl h
    · exact .inr (List.mem_cons_of_mem _ h)

/-- A declaration of the schema of a list stands in the list. -/
theorem mem_of_mem_ofList {fields : List (String × FieldSpec)} {e : String × FieldSpec}
    (h : e ∈ (ofList fields).fields) : e ∈ fields :=
  (mem_foldl_declare h).resolve_left (by simp [empty])

theorem wellFormed_ofList {fields : List (String × FieldSpec)}
    (h : ∀ e ∈ fields, e.2.WellFormed) : (ofList fields).WellFormed :=
  fun e he => h e (mem_of_mem_ofList he)

/-- Schemas that are read are well-formed. -/
theorem wellFormed_of_ofJson? {j : Json} {s : Schema} (h : ofJson? j = some s) :
    s.WellFormed := by
  cases j with
  | object members =>
    obtain ⟨fields, hfields, rfl⟩ := Option.map_eq_some_iff.1 h
    refine wellFormed_ofList fun e he => ?_
    obtain ⟨x, -, hx⟩ := exists_of_mem_allSome? hfields e he
    obtain ⟨d, hd, rfl⟩ := Option.map_eq_some_iff.1 hx
    exact FieldSpec.wellFormed_of_ofJson? hd
  | _ => cases h

end Schema

end Newsroom
