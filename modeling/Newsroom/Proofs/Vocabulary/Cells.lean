import Newsroom.Proofs.Vocabulary.Item

/-!
# Fields as cells

A field keeps the value that it is set to, wherever that value has to live, and setting it leaves
all other fields alone (`Item.field_setField`, `Item.field_setField_of_ne`). Two kinds of values
are special: `null` clears a field that has a slot, and the activity flag refuses whatever is
neither a flag nor `null`. An item is made of its cells (`Item.ext_cell`), so of two values that a
field is set to only the later one counts, and different fields may be set in any order. Setting a
field and dropping the activity flag keep an item well-formed.

A canonical item is made of its fields alone (`Item.Canonical.ext_field`): no place but one is left
for a value. So setting a field to what it is changes nothing, unless that clears it. Items that are
read are canonical, and `Item.fields_independent` sums up the laws for them.
-/

namespace Newsroom

namespace Translations

/-- Translations that were read are written as the value they were read from. -/
theorem toJson_of_ofJson? {v : Json} {t : Translations} (h : ofJson? v = some t) :
    t.toJson = v := by
  cases v with
  | object members =>
    obtain ⟨es, hes, hasc⟩ := Option.bind_eq_some_iff.1 h
    have hback : es.map (fun e => (e.1, Json.object e.2.entries)) = members := by
      refine (map_eq_of_allSome? hes fun x e he => ?_).trans (List.map_id members)
      obtain ⟨l, hl, rfl⟩ := Option.map_eq_some_iff.1 he
      obtain ⟨key, value⟩ := x
      cases value with
      | object ms =>
        rw [TextMap.entries_of_ofAscending? hl]
        rfl
      | _ => cases hl
    rw [toJson, TextMap.entries_of_ofAscending? hasc, hback]
  | _ => cases h

theorem toJson_injective : Function.Injective toJson := fun s t h => by
  have hread := congrArg ofJson? h
  rwa [ofJson?_toJson, ofJson?_toJson, Option.some_inj] at hread

end Translations

namespace Item

/-- The fields that have a slot. -/
def slotted : List String := ["name", "qcode", "is_active", "translations"]

/-- Setting the field to the value clears it. -/
def clears (field : String) (v : Json) : Bool := v.isNull && slotted.contains field

/-- The field takes the value when it is set to it. -/
def Settable (field : String) (v : Json) : Prop := field = "is_active" → takesFlag v = true

instance (field : String) (v : Json) : Decidable (Settable field v) :=
  inferInstanceAs (Decidable (field = "is_active" → takesFlag v = true))

/-! ### Slots and extra values after a field was set -/

theorem get?_settle_of_ne (extra : TextMap Json) {field other : String} (h : other ≠ field)
    (v : Json) (taken : Bool) : (settle extra field v taken).get? other = extra.get? other := by
  cases taken <;> simp [settle, TextMap.get?_insert, TextMap.get?_erase, h.symm]

theorem get?_settle_self (extra : TextMap Json) (field : String) (v : Json) (taken : Bool) :
    (settle extra field v taken).get? field = if taken then none else some v := by
  cases taken <;> simp [settle]

theorem slot?_setField_of_ne (i : Item) {f g : String} (h : g ≠ f) (v : Json) :
    (i.setField f v).slot? g = i.slot? g := by
  rw [setField]
  split
  case isTrue hf => simp [slot?, hf ▸ h]
  split
  case isTrue hf => simp [slot?, hf ▸ h]
  split
  case isTrue hf => split <;> simp [slot?, hf ▸ h]
  split
  case isTrue hf => simp [slot?, hf ▸ h]
  case isFalse => rfl

theorem get?_extra_setField_of_ne (i : Item) {f g : String} (h : g ≠ f) (v : Json) :
    (i.setField f v).extra.get? g = i.extra.get? g := by
  rw [setField]
  split
  case isTrue => exact get?_settle_of_ne i.extra h v _
  split
  case isTrue => exact get?_settle_of_ne i.extra h v _
  split
  case isTrue =>
    split
    · simp [TextMap.get?_erase, h.symm]
    · rfl
  split
  case isTrue => exact get?_settle_of_ne i.extra h v _
  case isFalse => simp [TextMap.get?_insert, h.symm]

/-- Setting a field leaves all other fields alone. -/
theorem field_setField_of_ne (i : Item) {f g : String} (h : g ≠ f) (v : Json) :
    (i.setField f v).field g = i.field g := by
  rw [field, slot?_setField_of_ne i h, get?_extra_setField_of_ne i h, field]

theorem string_of_taken {v : Json} (h : takesText v = true) :
    v.asString?.map Json.string = if v.isNull then none else some v := by
  cases v <;> first | rfl | cases h

theorem flag_of_taken {v : Json} (h : takesFlag v = true) :
    v.asBool?.map Json.bool = if v.isNull then none else some v := by
  cases v <;> first | rfl | cases h

theorem translations_of_taken {v : Json} (h : takesTranslations v = true) :
    (Translations.ofJson? v).map Translations.toJson = if v.isNull then none else some v := by
  cases hread : Translations.ofJson? v with
  | some t =>
    have hback := Translations.toJson_of_ofJson? hread
    rw [Option.map_some, hback, ← hback]
    rfl
  | none =>
    have hnull : v.isNull = true := by simpa [takesTranslations, hread] using h
    rw [hnull]
    rfl

/-- A value is found where it was put: in the slot, which takes every `null`, or else among the
extra values. -/
theorem slot_or_settle (extra : TextMap Json) (f : String) {α : Type} {o : Option α}
    {write : α → Json} {v : Json} {taken : Bool}
    (htaken : taken = true → o.map write = if v.isNull then none else some v)
    (hnot : taken = false → o = none) (hnull : v.isNull = true → taken = true) :
    (o.map write).or ((settle extra f v taken).get? f) = if v.isNull then none else some v := by
  rw [get?_settle_self]
  cases taken with
  | true => rw [htaken rfl, if_pos rfl, Option.or_none]
  | false =>
    have hvalue : v.isNull = false := Bool.eq_false_iff.2 fun h => by cases hnull h
    rw [hnot rfl, hvalue]
    rfl

/-- A field that is set to a value has that value, or none if the value clears it. -/
theorem field_setField (i : Item) {f : String} {v : Json} (h : Settable f v) :
    (i.setField f v).field f = if clears f v then none else some v := by
  have htext : v.isNull = true → takesText v = true := by
    cases v <;> first | exact fun _ => rfl | rintro ⟨⟩
  have htranslations : v.isNull = true → takesTranslations v = true := fun hv => by
    simp [takesTranslations, hv]
  rw [field, setField]
  split
  case isTrue hf =>
    subst hf
    simpa [slot?, clears, slotted] using
      slot_or_settle i.extra "name" string_of_taken asString?_of_not_taken htext
  split
  case isTrue hf =>
    subst hf
    simpa [slot?, clears, slotted] using
      slot_or_settle i.extra "qcode" string_of_taken asString?_of_not_taken htext
  split
  case isTrue hf =>
    subst hf
    rw [if_pos (h rfl)]
    simp [slot?, clears, slotted, flag_of_taken (h rfl)]
  split
  case isTrue hf =>
    subst hf
    simpa [slot?, clears, slotted] using slot_or_settle i.extra "translations"
      translations_of_taken translations_of_not_taken htranslations
  case isFalse hname hqcode hactive hnot =>
    simp [slot?, clears, slotted, hname, hqcode, hactive, hnot]

/-- What is neither a flag nor `null` is refused as activity flag. -/
theorem setField_of_not_settable (i : Item) {f : String} {v : Json} (h : ¬ Settable f v) :
    i.setField f v = i := by
  obtain ⟨rfl, hv⟩ := Classical.not_imp.1 h
  simp [setField, hv]

/-! ### Items by their cells -/

/-- The two places of a field: its slot and the extra values. -/
def cell (i : Item) (f : String) : Option Json × Option Json := (i.slot? f, i.extra.get? f)

/-- Items with the same cells are the same. -/
theorem ext_cell {i j : Item} (h : ∀ f, i.cell f = j.cell f) : i = j := by
  have hslot : ∀ f, i.slot? f = j.slot? f := fun f => congrArg Prod.fst (h f)
  have hname : i.name = j.name :=
    Option.map_injective (fun _ _ => Json.string.inj) (hslot "name")
  have hqcode : i.qcode = j.qcode :=
    Option.map_injective (fun _ _ => Json.string.inj) (hslot "qcode")
  have hactive : i.isActive = j.isActive :=
    Option.map_injective (fun _ _ => Json.bool.inj) (hslot "is_active")
  have htranslations : i.translations = j.translations :=
    Option.map_injective Translations.toJson_injective (hslot "translations")
  have hextra : i.extra = j.extra := TextMap.ext_get? fun f => congrArg Prod.snd (h f)
  cases i
  cases j
  rw [Item.mk.injEq]
  exact ⟨hname, hqcode, hactive, htranslations, hextra⟩

theorem cell_setField_of_ne (i : Item) {f g : String} (h : g ≠ f) (v : Json) :
    (i.setField f v).cell g = i.cell g :=
  Prod.ext (slot?_setField_of_ne i h v) (get?_extra_setField_of_ne i h v)

/-- The cell of a field that was set does not depend on the item. -/
theorem cell_setField (i j : Item) {f : String} {v : Json} (h : Settable f v) :
    (i.setField f v).cell f = (j.setField f v).cell f := by
  rw [setField, setField]
  split
  case isTrue hf => simp [cell, slot?, hf, get?_settle_self]
  split
  case isTrue hf => simp [cell, slot?, hf, get?_settle_self]
  split
  case isTrue hf =>
    rw [if_pos (h hf), if_pos (h hf)]
    simp [cell, slot?, hf]
  split
  case isTrue hf => simp [cell, slot?, hf, get?_settle_self]
  case isFalse hname hqcode hactive htranslations =>
    simp [cell, slot?, hname, hqcode, hactive, htranslations]

/-- A field that is set twice is as it was set last. -/
theorem setField_setField (i : Item) {f : String} (v : Json) {w : Json} (h : Settable f w) :
    (i.setField f v).setField f w = i.setField f w := by
  refine ext_cell fun k => ?_
  by_cases hk : k = f
  · rw [hk, cell_setField (i.setField f v) i h]
  · simp only [cell_setField_of_ne _ hk]

/-- Different fields may be set in any order. -/
theorem setField_comm (i : Item) {f g : String} (hne : f ≠ g) (v w : Json) :
    (i.setField f v).setField g w = (i.setField g w).setField f v := by
  by_cases hf : Settable f v
  case neg => rw [setField_of_not_settable i hf, setField_of_not_settable _ hf]
  by_cases hg : Settable g w
  case neg => rw [setField_of_not_settable i hg, setField_of_not_settable _ hg]
  refine ext_cell fun k => ?_
  by_cases hkf : k = f
  · rw [hkf, cell_setField_of_ne _ hne, cell_setField i (i.setField g w) hf]
  by_cases hkg : k = g
  · rw [hkg, cell_setField_of_ne _ hne.symm, cell_setField (i.setField f v) i hg]
  · simp only [cell_setField_of_ne _ hkf, cell_setField_of_ne _ hkg]

/-! ### Well-formed items stay well-formed -/

/-- What stays among the extra values when a field is set is what its slot does not take. -/
theorem of_get?_settle {extra : TextMap Json} {f : String} {v w : Json} {taken : Bool}
    (h : (settle extra f v taken).get? f = some w) : taken = false ∧ v = w := by
  rw [get?_settle_self] at h
  cases taken with
  | true => cases h
  | false => exact ⟨rfl, Option.some.inj h⟩

/-- A field whose value went to the extra values has no value in its slot. -/
theorem slot?_setField_of_extra {i : Item} {f : String} {v w : Json} (h : Settable f v)
    (hw : (i.setField f v).extra.get? f = some w) :
    v = w ∧ (i.setField f v).slot? f = none ∧ slotTakes f v = false := by
  rw [setField] at hw ⊢
  split at hw
  case isTrue hf =>
    obtain ⟨htaken, rfl⟩ := of_get?_settle hw
    subst hf
    simp [slot?, slotTakes, htaken, asString?_of_not_taken htaken]
  split at hw
  case isTrue hf =>
    obtain ⟨htaken, rfl⟩ := of_get?_settle hw
    subst hf
    simp [slot?, slotTakes, htaken, asString?_of_not_taken htaken]
  split at hw
  case isTrue hf =>
    subst hf
    rw [if_pos (h rfl), TextMap.get?_erase_self] at hw
    cases hw
  split at hw
  case isTrue hf =>
    obtain ⟨htaken, rfl⟩ := of_get?_settle hw
    subst hf
    simp [slot?, slotTakes, htaken, translations_of_not_taken htaken]
  case isFalse hname hqcode hactive htranslations =>
    rw [TextMap.get?_insert_self] at hw
    simp [slot?, slotTakes, hname, hqcode, hactive, htranslations, Option.some.inj hw]

theorem Canonical.setField {i : Item} (hi : i.Canonical) (f : String) (v : Json) :
    (i.setField f v).Canonical := by
  by_cases h : Settable f v
  · intro key w hw
    by_cases hkey : key = f
    · subst hkey
      obtain ⟨rfl, hslot, htaken⟩ := slot?_setField_of_extra h hw
      exact ⟨hslot, htaken⟩
    · rw [get?_extra_setField_of_ne i hkey] at hw
      rw [slot?_setField_of_ne i hkey]
      exact hi key w hw
  · rw [setField_of_not_settable i h]
    exact hi

theorem translations_setField (i : Item) (f : String) (v : Json) :
    (i.setField f v).translations =
      if f = "translations" then Translations.ofJson? v else i.translations := by
  rw [setField]
  split
  case isTrue hf => simp [hf]
  split
  case isTrue hf => simp [hf]
  split
  case isTrue hf => split <;> simp [hf]
  split
  case isTrue => rfl
  case isFalse => rfl

theorem WellFormed.setField {i : Item} (hi : i.WellFormed) (f : String) {v : Json}
    (hv : v.Normal) : (i.setField f v).WellFormed where
  canonical := hi.canonical.setField f v
  extra := by
    by_cases h : Settable f v
    · rintro ⟨key, w⟩ hw
      have hget := TextMap.mem_entries_iff.1 hw
      by_cases hkey : key = f
      · subst hkey
        obtain ⟨rfl, -⟩ := slot?_setField_of_extra h hget
        exact hv
      · rw [get?_extra_setField_of_ne i hkey] at hget
        exact hi.extra (key, w) (TextMap.mem_entries_iff.2 hget)
    · rw [setField_of_not_settable i h]
      exact hi.extra
  translations := by
    intro t ht
    rw [translations_setField] at ht
    split at ht
    · exact Translations.normal_of_ofJson? hv ht
    · exact hi.translations t ht

/-! ### Without the activity flag -/

theorem field_withoutFlag_of_ne (i : Item) {f : String} (h : f ≠ "is_active") :
    i.withoutFlag.field f = i.field f := by
  simp [field, slot?, withoutFlag, h]

/-- Without its flag an item shows under the name of the flag what it has among its extra values. -/
theorem field_withoutFlag (i : Item) :
    i.withoutFlag.field "is_active" = i.extra.get? "is_active" := by
  simp [field, slot?, withoutFlag]

theorem WellFormed.withoutFlag {i : Item} (hi : i.WellFormed) : i.withoutFlag.WellFormed where
  canonical := by
    intro key w hw
    obtain ⟨hslot, htaken⟩ := hi.canonical key w hw
    refine ⟨?_, htaken⟩
    by_cases hkey : key = "is_active"
    · simp [slot?, hkey, Item.withoutFlag]
    · simpa [slot?, hkey, Item.withoutFlag] using hslot
  extra := hi.extra
  translations := hi.translations

/-! ### Canonical items by their fields -/

/-- Canonical items with the same fields are the same. -/
theorem Canonical.ext_field {i j : Item} (hi : i.Canonical) (hj : j.Canonical)
    (h : ∀ f, i.field f = j.field f) : i = j := by
  have hvalues : ∀ f, (TextMap.ofList i.members).get? f = i.field f := fun f => by
    rw [TextMap.get?_ofList (nodup_members hi), find?_members]
  calc
    i = ofValues (TextMap.ofList i.members) := (ofValues_eq_self hi hvalues).symm
    _ = j := ofValues_eq_self hj fun f => (hvalues f).trans (h f)

theorem clears_of_ne_null (f : String) {v : Json} (h : v ≠ .null) : clears f v = false := by
  cases v with
  | null => exact absurd rfl h
  | _ => rfl

/-- Setting a field to the value that it has leaves the item as it is, unless that clears it. -/
theorem Canonical.setField_eq_self_iff {i : Item} (hi : i.Canonical) {f : String} {v : Json}
    (hv : i.field f = some v) : i.setField f v = i ↔ clears f v = false := by
  by_cases hset : Settable f v
  case neg =>
    -- every field takes `null`, so what is refused clears nothing
    have hnull : v ≠ .null := by
      rintro rfl
      exact hset fun _ => rfl
    simp only [setField_of_not_settable i hset, clears_of_ne_null f hnull]
  have hself : (i.setField f v).field f = if clears f v then none else some v :=
    field_setField i hset
  constructor
  · intro hsame
    rw [hsame, hv] at hself
    cases hclears : clears f v with
    | true => rw [hclears] at hself; cases hself
    | false => rfl
  · intro hkept
    refine (hi.setField f v).ext_field hi fun g => ?_
    by_cases hg : g = f
    · rw [hg, hself, hkept, hv]
      rfl
    · exact field_setField_of_ne i hg v

/-- **Fields are independent cells** of an item that was read. A field that is set to a value other
than `null`, and to a flag if it is the activity flag, has that value afterwards, and what it was
set to before makes no difference. Setting a field to anything changes no other field. And setting
a field to the value that it has changes nothing, if that is not `null`. -/
theorem fields_independent {j : Json} {i : Item} (hread : ofJson? j = some i) (f : String) :
    (∀ v, v ≠ .null → (f = "is_active" → ∃ b, v = .bool b) →
      (i.setField f v).field f = some v ∧
      ∀ u, (i.setField f u).setField f v = i.setField f v) ∧
    (∀ g, g ≠ f → ∀ v, (i.setField f v).field g = i.field g) ∧
    ∀ v, v ≠ .null → i.field f = some v → i.setField f v = i := by
  refine ⟨fun v hnull hflag => ?_, fun g hg v => field_setField_of_ne i hg v,
    fun v hnull hv => ?_⟩
  · have hset : Settable f v := fun hf => by
      obtain ⟨b, rfl⟩ := hflag hf
      rfl
    refine ⟨?_, fun u => setField_setField i u hset⟩
    rw [field_setField i hset, clears_of_ne_null f hnull]
    rfl
  · have hi : i.Canonical := (wellFormed_of_ofJson? hread).canonical
    exact (hi.setField_eq_self_iff hv).2 (clears_of_ne_null f hnull)

/-- A port whose name is a number and whose flag is a word. -/
def numberedPort : Item :=
  ofValues (TextMap.ofList [("is_active", .string "no"), ("name", .ofInt 5),
    ("translations", .object [("name", .object [("fr", .string "Calais")])])])

/-- Translations with a name that is `null`. -/
def noGermanName : Json := .object [("name", .object [("de", .null)])]

/-- The port gets other translations, even after a word in their place, and its flag stays; the
flag can be raised, and setting it to the word that it is changes nothing. -/
theorem numberedPort_independent :
    ofJson? (.object [("name", .ofInt 5), ("is_active", .string "no"),
      ("translations", .object [("name", .object [("fr", .string "Calais")])])]) =
        some numberedPort ∧
    (numberedPort.setField "translations" noGermanName).field "translations" =
      some noGermanName ∧
    (numberedPort.setField "translations" (.string "none")).setField "translations"
      noGermanName = numberedPort.setField "translations" noGermanName ∧
    (numberedPort.setField "translations" noGermanName).field "is_active" =
      some (.string "no") ∧
    (numberedPort.setField "is_active" (.bool true)).field "is_active" = some (.bool true) ∧
    numberedPort.setField "is_active" (.string "no") = numberedPort := by
  have hread : ofJson? (.object [("name", .ofInt 5), ("is_active", .string "no"),
      ("translations", .object [("name", .object [("fr", .string "Calais")])])]) =
        some numberedPort := by decide +kernel
  have hword : numberedPort.field "is_active" = some (.string "no") := by decide +kernel
  obtain ⟨htranslated, hother, -⟩ := fields_independent hread "translations"
  obtain ⟨hraised, -, hsame⟩ := fields_independent hread "is_active"
  obtain ⟨hself, htwice⟩ := htranslated noGermanName (by decide) (by decide)
  refine ⟨hread, hself, htwice _, (hother "is_active" (by decide) _).trans hword, ?_, ?_⟩
  · exact (hraised (.bool true) (by decide) fun _ => ⟨true, rfl⟩).1
  · exact hsame _ (by decide) hword

end Item

end Newsroom
