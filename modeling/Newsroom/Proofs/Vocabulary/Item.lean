import Newsroom.Proofs.Json.Record
import Newsroom.Vocabulary.Item

/-!
# Items that read back

An item is canonical when a value among its extra values is one that the slot of its field does not
take, and the slot is empty (`Item.Canonical`). With all values in normal form it is well-formed.
Items that are read are well-formed (`Item.wellFormed_of_ofJson?`), and a well-formed item reads
back from its stored form (`Item.ofJson?_toJson`).
-/

namespace Newsroom

namespace Translations

/-- All values in all languages are in normal form. -/
def Normal (t : Translations) : Prop := ∀ e ∈ t.entries, Json.NormalMap e.2

theorem ofJson?_toJson (t : Translations) : ofJson? t.toJson = some t := by
  have hall : allSome? (fun e : String × Json => (languages? e.2).map fun l => (e.1, l))
      (t.entries.map fun e => (e.1, .object e.2.entries)) = some t.entries := by
    refine allSome?_map fun e _ => ?_
    rw [languages?, TextMap.ofAscending?_entries, Option.map_some]
  rw [toJson, ofJson?, hall, Option.bind_some, TextMap.ofAscending?_entries]

theorem normal_toJson {t : Translations} (h : t.Normal) : t.toJson.Normal := by
  refine ⟨List.pairwise_map.2 (t.ascending.imp fun hlt => hlt), Json.normalMembers_iff.2 ?_⟩
  intro e he
  obtain ⟨x, hx, rfl⟩ := List.mem_map.1 he
  exact ⟨x.2.ascending, Json.normalMembers_iff.2 (h x hx)⟩

/-- Translations that are read from a value in normal form are in normal form. -/
theorem normal_of_ofJson? {v : Json} {t : Translations} (hv : v.Normal) (h : ofJson? v = some t) :
    t.Normal := by
  cases v with
  | object members =>
    obtain ⟨es, hes, hasc⟩ := Option.bind_eq_some_iff.1 h
    have hmembers := Json.normalMembers_iff.1 hv.2
    intro e he
    rw [TextMap.entries_of_ofAscending? hasc] at he
    obtain ⟨x, hx, hread⟩ := exists_of_mem_allSome? hes e he
    obtain ⟨l, hl, rfl⟩ := Option.map_eq_some_iff.1 hread
    have hx2 := hmembers x hx
    cases hlang : x.2 with
    | object ms =>
      rw [hlang] at hl hx2
      intro d hd
      rw [TextMap.entries_of_ofAscending? hl] at hd
      exact Json.normalMembers_iff.1 hx2.2 d hd
    | _ => rw [hlang] at hl; cases hl
  | _ => cases h

end Translations

namespace Item

/-! ### Slots -/

/-- Whether the slot of a field keeps a value away from the extra values. -/
def slotTakes (field : String) (v : Json) : Bool :=
  if field = "name" then takesText v
  else if field = "qcode" then takesText v
  else if field = "is_active" then v.asBool?.isSome
  else if field = "translations" then takesTranslations v
  else false

/-- An extra value is one that the slot of its field does not take, and the slot is empty. -/
def Canonical (i : Item) : Prop :=
  ∀ field v, i.extra.get? field = some v → i.slot? field = none ∧ slotTakes field v = false

/-- A canonical item with all values in normal form. -/
structure WellFormed (i : Item) : Prop where
  canonical : i.Canonical
  extra : Json.NormalMap i.extra
  translations : ∀ t, i.translations = some t → t.Normal

theorem asString?_of_not_taken {v : Json} (h : takesText v = false) : v.asString? = none := by
  cases v <;> first | rfl | cases h

theorem translations_of_not_taken {v : Json} (h : takesTranslations v = false) :
    Translations.ofJson? v = none := by
  simp only [takesTranslations, Bool.or_eq_false_iff] at h
  exact Option.isNone_iff_eq_none.1 (Option.isSome_eq_false_iff.1 h.2)

/-- A slot takes the value that it holds. -/
theorem slotTakes_of_slot? {i : Item} {field : String} {v : Json} (h : i.slot? field = some v) :
    slotTakes field v = true := by
  simp only [slot?] at h
  simp only [slotTakes]
  split at h <;> rename_i hname
  · obtain ⟨s, -, rfl⟩ := Option.map_eq_some_iff.1 h
    simp [hname, takesText]
  split at h <;> rename_i hqcode
  · obtain ⟨s, -, rfl⟩ := Option.map_eq_some_iff.1 h
    simp [hqcode, takesText]
  split at h <;> rename_i hactive
  · obtain ⟨b, -, rfl⟩ := Option.map_eq_some_iff.1 h
    simp [hactive, Json.asBool?]
  split at h <;> rename_i htranslations
  · obtain ⟨t, -, rfl⟩ := Option.map_eq_some_iff.1 h
    simp [htranslations, takesTranslations, Translations.ofJson?_toJson]
  · cases h

/-! ### Reading -/

theorem get?_takeOut (p : Json → Bool) (field : String) (values : TextMap Json) (key : String) :
    (takeOut p field values).get? key =
      if field = key then (values.get? key).filter fun v => !p v else values.get? key := by
  simp only [takeOut]
  cases hv : values.get? field with
  | none =>
    by_cases hkey : field = key
    · subst hkey
      simp [hv]
    · simp [hkey]
  | some v =>
    by_cases hkey : field = key
    · subst hkey
      cases hp : p v <;> simp [hv, hp, Option.filter]
    · cases hp : p v <;> simp [hp, hkey, TextMap.get?_erase]

/-- The extra values of an item that is read are those that no slot takes. -/
theorem get?_extra_ofValues (values : TextMap Json) (key : String) :
    (ofValues values).extra.get? key = (values.get? key).filter fun v => !slotTakes key v := by
  simp only [ofValues, get?_takeOut]
  by_cases hname : "name" = key
  · subst hname
    simp [slotTakes]
  by_cases hqcode : "qcode" = key
  · subst hqcode
    simp [slotTakes]
  by_cases htranslations : "translations" = key
  · subst htranslations
    simp [slotTakes]
  by_cases hactive : "is_active" = key
  · subst hactive
    simp [slotTakes]
  · have hnone : ∀ v, slotTakes key v = false := fun v => by
      simp [slotTakes, Ne.symm hname, Ne.symm hqcode, Ne.symm htranslations, Ne.symm hactive]
    cases values.get? key <;> simp [hname, hqcode, htranslations, hactive, hnone, Option.filter]

/-- The slots of an item that is read hold nothing but values that they take. -/
theorem slot?_ofValues_of_not_taken {values : TextMap Json} {field : String} {v : Json}
    (hv : values.get? field = some v) (h : slotTakes field v = false) :
    (ofValues values).slot? field = none := by
  simp only [slot?, ofValues]
  simp only [slotTakes] at h
  split <;> rename_i hname
  · rw [if_pos hname] at h
    rw [hname] at hv
    simp [hv, asString?_of_not_taken h]
  rw [if_neg hname] at h
  split <;> rename_i hqcode
  · rw [if_pos hqcode] at h
    rw [hqcode] at hv
    simp [hv, asString?_of_not_taken h]
  rw [if_neg hqcode] at h
  split <;> rename_i hactive
  · rw [if_pos hactive] at h
    rw [hactive] at hv
    simpa [hv] using h
  rw [if_neg hactive] at h
  split <;> rename_i htranslations
  · rw [if_pos htranslations] at h
    rw [htranslations] at hv
    simp [hv, translations_of_not_taken h]
  · rfl

theorem canonical_ofValues (values : TextMap Json) : (ofValues values).Canonical := by
  intro field v hv
  rw [get?_extra_ofValues] at hv
  obtain ⟨hval, htaken⟩ := Option.filter_eq_some_iff.1 hv
  have hfalse : slotTakes field v = false := by simpa using htaken
  exact ⟨slot?_ofValues_of_not_taken hval hfalse, hfalse⟩

theorem wellFormed_ofValues {values : TextMap Json} (h : Json.NormalMap values) :
    (ofValues values).WellFormed where
  canonical := canonical_ofValues values
  extra := by
    rintro ⟨key, v⟩ he
    have hget := TextMap.mem_entries_iff.1 he
    rw [get?_extra_ofValues] at hget
    exact h (key, v) (TextMap.mem_entries_iff.2 (Option.filter_eq_some_iff.1 hget).1)
  translations := by
    intro t ht
    obtain ⟨v, hv, hread⟩ := Option.bind_eq_some_iff.1 ht
    exact Translations.normal_of_ofJson? (h _ (TextMap.mem_entries_iff.2 hv)) hread

/-- Items that are read are well-formed. -/
theorem wellFormed_of_ofJson? {j : Json} {i : Item} (h : ofJson? j = some i) : i.WellFormed := by
  obtain ⟨values, hvalues, rfl⟩ := Option.map_eq_some_iff.1 h
  exact wellFormed_ofValues (Json.normalMap_of_asFreeMap? hvalues)

/-! ### Writing and reading back -/

/-- The cells of the slots. -/
def cells (i : Item) : List (String × Option Json) :=
  [("name", i.name.map .string), ("qcode", i.qcode.map .string),
    ("is_active", i.isActive.map .bool), ("translations", i.translations.map Translations.toJson)]

theorem members_eq (i : Item) : i.members = Json.filled i.cells ++ i.extra.entries := by
  simp only [members, cells, Json.filled_cons, Json.filled_nil, Json.optionalMember_map,
    List.append_assoc, List.nil_append]

theorem nodup_cells (i : Item) : (i.cells.map Prod.fst).Nodup := by
  simp [cells]

theorem find?_cells (i : Item) (key : String) :
    Entries.find? key (Json.filled i.cells) = i.slot? key := by
  have hcells := Json.find?_filled i.nodup_cells
  simp only [cells, List.forall_mem_cons] at hcells
  obtain ⟨hname, hqcode, hactive, htranslations, -⟩ := hcells
  simp only [slot?]
  split <;> rename_i h1
  · exact h1 ▸ hname
  split <;> rename_i h2
  · exact h2 ▸ hqcode
  split <;> rename_i h3
  · exact h3 ▸ hactive
  split <;> rename_i h4
  · exact h4 ▸ htranslations
  · refine Entries.find?_eq_none_iff.2 fun e he heq => ?_
    obtain ⟨k, v⟩ := e
    have hm := Json.mem_filled.1 he
    simp only [cells, List.mem_cons, List.not_mem_nil, Prod.mk.injEq, or_false] at hm
    cases (show k = key from heq)
    rcases hm with ⟨rfl, -⟩ | ⟨rfl, -⟩ | ⟨rfl, -⟩ | ⟨rfl, -⟩ <;> contradiction

/-- A field reads the same from an item and from the members of its stored form. -/
theorem find?_members (i : Item) (key : String) : Entries.find? key i.members = i.field key := by
  rw [members_eq, Entries.find?_append, find?_cells]
  rfl

theorem nodup_members {i : Item} (h : i.Canonical) : (i.members.map Prod.fst).Nodup := by
  rw [members_eq, List.map_append]
  refine List.nodup_append.2 ⟨Json.nodup_filled i.nodup_cells,
    Entries.nodup_of_ascending i.extra.ascending, ?_⟩
  rintro a ha b hb rfl
  obtain ⟨⟨k, v⟩, hv, rfl⟩ := List.mem_map.1 ha
  obtain ⟨⟨k', w⟩, hw, hk⟩ := List.mem_map.1 hb
  cases (show k' = k from hk)
  have hslot : i.slot? k = some v := by
    rw [← find?_cells]
    exact Entries.find?_of_nodup (Json.nodup_filled i.nodup_cells) hv
  rw [(h k w (TextMap.mem_entries_iff.1 hw)).1] at hslot
  cases hslot

theorem normalMembers_members {i : Item} (h : i.WellFormed) : Json.NormalMembers i.members := by
  refine Json.normalMembers_iff.2 ?_
  rintro ⟨k, v⟩ he
  rw [members_eq] at he
  rcases List.mem_append.1 he with he | he
  · have hm := Json.mem_filled.1 he
    simp only [cells, List.mem_cons, List.not_mem_nil, Prod.mk.injEq, or_false] at hm
    rcases hm with ⟨-, hv⟩ | ⟨-, hv⟩ | ⟨-, hv⟩ | ⟨-, hv⟩
    · obtain ⟨s, -, rfl⟩ := Option.map_eq_some_iff.1 hv.symm
      trivial
    · obtain ⟨s, -, rfl⟩ := Option.map_eq_some_iff.1 hv.symm
      trivial
    · obtain ⟨b, -, rfl⟩ := Option.map_eq_some_iff.1 hv.symm
      trivial
    · obtain ⟨t, ht, rfl⟩ := Option.map_eq_some_iff.1 hv.symm
      exact Translations.normal_toJson (h.translations t ht)
  · exact h.extra (k, v) he

/-- What the slot of a field reads from a canonical item is what it holds: the reader undoes the
writer, and gives nothing for a value that the slot does not take. -/
theorem field_bind_eq {i : Item} (h : i.Canonical) {α : Type} {key : String} {o : Option α}
    {write : α → Json} {read : Json → Option α} (hslot : i.slot? key = o.map write)
    (hread : ∀ a, read (write a) = some a)
    (hnot : ∀ v, slotTakes key v = false → read v = none) : (i.field key).bind read = o := by
  rw [field, hslot]
  cases o with
  | some a => exact hread a
  | none =>
    cases hget : i.extra.get? key with
    | none => rfl
    | some v => exact hnot v (h key v hget).2

theorem field_name_bind {i : Item} (h : i.Canonical) :
    (i.field "name").bind Json.asString? = i.name :=
  field_bind_eq h rfl (fun _ => rfl) fun _ hv => asString?_of_not_taken hv

/-- The item whose values are the fields of a canonical item is that item. -/
theorem ofValues_eq_self {i : Item} (h : i.Canonical) {values : TextMap Json}
    (hvalues : ∀ key, values.get? key = i.field key) : ofValues values = i := by
  have hextra : (ofValues values).extra = i.extra := by
    refine TextMap.ext_get? fun key => ?_
    rw [get?_extra_ofValues, hvalues]
    cases hslot : i.slot? key with
    | some w =>
      have hnone : i.extra.get? key = none := by
        refine Option.eq_none_iff_forall_not_mem.2 fun v hv => ?_
        rw [(h key v hv).1] at hslot
        cases hslot
      simp [field, hslot, slotTakes_of_slot? hslot, hnone]
    | none =>
      cases hget : i.extra.get? key with
      | none => simp [field, hslot, hget]
      | some v => simp [field, hslot, hget, (h key v hget).2]
  have hqcode : (i.field "qcode").bind Json.asString? = i.qcode :=
    field_bind_eq h rfl (fun _ => rfl) fun _ hv => asString?_of_not_taken hv
  have hactive : (i.field "is_active").bind Json.asBool? = i.isActive :=
    field_bind_eq h rfl (fun _ => rfl) fun _ hv => Option.isNone_iff_eq_none.1
      (Option.isSome_eq_false_iff.1 hv)
  have htranslations : (i.field "translations").bind Translations.ofJson? = i.translations :=
    field_bind_eq h rfl Translations.ofJson?_toJson fun _ hv => translations_of_not_taken hv
  simp only [ofValues] at hextra ⊢
  rw [hextra, hvalues, hvalues, hvalues, hvalues, field_name_bind h, hqcode, hactive,
    htranslations]

/-- An object that has the fields of a canonical item, each once and with values in normal form, is
read as that item. -/
theorem ofJson?_object {i : Item} (h : i.Canonical) {ms : List (String × Json)}
    (hnodup : (ms.map Prod.fst).Nodup) (hnormal : Json.NormalMembers ms)
    (hfields : ∀ key, Entries.find? key ms = i.field key) : ofJson? (.object ms) = some i := by
  rw [ofJson?, Json.asFreeMap?, Json.NormalMembers.normalMembers_eq hnormal, Option.map_some]
  refine congrArg some (ofValues_eq_self h fun key => ?_)
  rw [TextMap.get?_ofList hnodup, hfields]

/-- A well-formed item reads back from its stored form. -/
theorem ofJson?_toJson {i : Item} (h : i.WellFormed) : ofJson? i.toJson = some i :=
  ofJson?_object h.canonical (nodup_members h.canonical) (normalMembers_members h)
    i.find?_members

theorem wellFormed_named (value : String) : (named value).WellFormed where
  canonical := by
    intro field v hv
    cases hv
  extra := by
    intro e he
    cases he
  translations := by
    intro t ht
    cases ht

end Item

end Newsroom
