import Newsroom.Proofs.Vocabulary.Document

/-!
# Updates of well-formed documents

What an update that was read carries is well-formed, and what is true of the parts of a document
and of an update is true of the document that the update leads to (`Vocabulary.ConsistsOf`). The
document that an update leads to (`Vocabulary.updatedBy`) has the default of its unique field filled
in when the update carries items. Deletion flag and timestamps are marks that a row puts on its
document (`Vocabulary.marked`).
-/

namespace Newsroom

namespace VocabularyUpdate

/-- The parts that the update sets and that may hold any JSON values are as they should be. -/
structure ConsistsOf (I : Item → Prop) (S : Schema → Prop) (M : TextMap Json → Prop)
    (u : VocabularyUpdate) : Prop where
  items : ∀ is, u.items = some is → ∀ i ∈ is, I i
  schema : ∀ s, u.schema = some s → S s
  fieldOptions : ∀ m, u.fieldOptions = some m → M m
  customFieldConfig : ∀ m, u.customFieldConfig = some m → M m

/-- Whatever the update sets is well-formed. -/
abbrev WellFormed : VocabularyUpdate → Prop :=
  ConsistsOf Item.WellFormed Schema.WellFormed Json.NormalMap

/-- Updates that are read are well-formed. -/
theorem wellFormed_of_ofJson? {j : Json} {u : VocabularyUpdate} (h : ofJson? j = some u) :
    u.WellFormed := by
  obtain ⟨ms, -, h⟩ := Option.bind_eq_some_iff.1 h
  obtain ⟨_, -, h⟩ := Option.bind_eq_some_iff.1 h
  obtain ⟨_, -, h⟩ := Option.bind_eq_some_iff.1 h
  obtain ⟨_, -, h⟩ := Option.bind_eq_some_iff.1 h
  obtain ⟨_, -, h⟩ := Option.bind_eq_some_iff.1 h
  obtain ⟨_, -, h⟩ := Option.bind_eq_some_iff.1 h
  obtain ⟨_, -, h⟩ := Option.bind_eq_some_iff.1 h
  obtain ⟨_, hitems, h⟩ := Option.bind_eq_some_iff.1 h
  obtain ⟨_, -, h⟩ := Option.bind_eq_some_iff.1 h
  obtain ⟨_, -, h⟩ := Option.bind_eq_some_iff.1 h
  obtain ⟨_, -, h⟩ := Option.bind_eq_some_iff.1 h
  obtain ⟨_, -, h⟩ := Option.bind_eq_some_iff.1 h
  obtain ⟨_, -, h⟩ := Option.bind_eq_some_iff.1 h
  obtain ⟨_, -, h⟩ := Option.bind_eq_some_iff.1 h
  obtain ⟨_, -, h⟩ := Option.bind_eq_some_iff.1 h
  obtain ⟨_, hschema, h⟩ := Option.bind_eq_some_iff.1 h
  obtain ⟨_, -, h⟩ := Option.bind_eq_some_iff.1 h
  obtain ⟨_, hoptions, h⟩ := Option.bind_eq_some_iff.1 h
  obtain ⟨_, -, h⟩ := Option.bind_eq_some_iff.1 h
  obtain ⟨_, -, h⟩ := Option.bind_eq_some_iff.1 h
  obtain ⟨_, -, h⟩ := Option.bind_eq_some_iff.1 h
  obtain ⟨_, -, h⟩ := Option.bind_eq_some_iff.1 h
  obtain ⟨_, -, h⟩ := Option.bind_eq_some_iff.1 h
  obtain ⟨_, hconfig, h⟩ := Option.bind_eq_some_iff.1 h
  obtain ⟨_, -, h⟩ := Option.bind_eq_some_iff.1 h
  cases h
  exact {
    items := by
      rintro is rfl i hi
      obtain ⟨j, -, hj⟩ := Json.of_optional? hitems
      obtain ⟨x, hx⟩ := Json.exists_of_mem_asList? hj i hi
      exact Item.wellFormed_of_ofJson? hx
    schema := by
      rintro s rfl
      obtain ⟨j, -, hj⟩ := Json.of_optional? hschema
      exact Schema.wellFormed_of_ofJson? hj
    fieldOptions := Json.normalMap_of_optional? hoptions
    customFieldConfig := Json.normalMap_of_optional? hconfig }

theorem consistsOf_ofItems {I : Item → Prop} {S : Schema → Prop} {M : TextMap Json → Prop}
    {items : List Item} (h : ∀ i ∈ items, I i) : (ofItems items).ConsistsOf I S M where
  items := by
    rintro is his
    cases his
    exact h
  schema := by simp [ofItems, blank]
  fieldOptions := by simp [ofItems, blank]
  customFieldConfig := by simp [ofItems, blank]

end VocabularyUpdate

namespace Vocabulary

/-- The document with the marks of a row: deletion flag and timestamps. -/
def marked (v : Vocabulary) (deleted : Bool) (created updated : Int64) : Vocabulary :=
  { v with deleted := deleted, created := some created, updated := some updated }

/-- The document that an update of `v` leads to. -/
def updatedBy (v : Vocabulary) (u : VocabularyUpdate) : Vocabulary :=
  if u.items.isSome then (v.applyUpdate u).withUniqueDefault else v.applyUpdate u

/-- The document in the place of a stored one: with the default of its unique field, and with the
timestamps of the change. -/
def inPlaceOf (v stored : Vocabulary) (now : Int64) : Vocabulary :=
  { v.withUniqueDefault with updated := some now, created := some (stored.created.getD now) }

/-! ### The default of the unique field -/

/-- The default changes nothing but the unique field. -/
theorem withUniqueDefault_eq (v : Vocabulary) :
    v.withUniqueDefault = { v with uniqueField := v.withUniqueDefault.uniqueField } := by
  rw [withUniqueDefault]
  split <;> rfl

theorem withUniqueDefault_of_isSome {v : Vocabulary} (h : v.uniqueField.isSome) :
    v.withUniqueDefault = v := by
  have hnone : v.uniqueField.isNone = false := by simpa using h
  rw [withUniqueDefault, hnone]
  rfl

@[simp] theorem id_withUniqueDefault (v : Vocabulary) : v.withUniqueDefault.id = v.id := by
  rw [withUniqueDefault_eq]

@[simp] theorem displayName_withUniqueDefault (v : Vocabulary) :
    v.withUniqueDefault.displayName = v.displayName := by
  rw [withUniqueDefault_eq]

@[simp] theorem helperText_withUniqueDefault (v : Vocabulary) :
    v.withUniqueDefault.helperText = v.helperText := by
  rw [withUniqueDefault_eq]

@[simp] theorem items_withUniqueDefault (v : Vocabulary) : v.withUniqueDefault.items = v.items := by
  rw [withUniqueDefault_eq]

@[simp] theorem schema_withUniqueDefault (v : Vocabulary) :
    v.withUniqueDefault.schema = v.schema := by
  rw [withUniqueDefault_eq]

@[simp] theorem fieldType_withUniqueDefault (v : Vocabulary) :
    v.withUniqueDefault.fieldType = v.fieldType := by
  rw [withUniqueDefault_eq]

@[simp] theorem deleted_withUniqueDefault (v : Vocabulary) :
    v.withUniqueDefault.deleted = v.deleted := by
  rw [withUniqueDefault_eq]

@[simp] theorem created_withUniqueDefault (v : Vocabulary) :
    v.withUniqueDefault.created = v.created := by
  rw [withUniqueDefault_eq]

@[simp] theorem updated_withUniqueDefault (v : Vocabulary) :
    v.withUniqueDefault.updated = v.updated := by
  rw [withUniqueDefault_eq]

@[simp] theorem id_inPlaceOf (v stored : Vocabulary) (now : Int64) :
    (v.inPlaceOf stored now).id = v.id :=
  id_withUniqueDefault v

@[simp] theorem deleted_inPlaceOf (v stored : Vocabulary) (now : Int64) :
    (v.inPlaceOf stored now).deleted = v.deleted :=
  deleted_withUniqueDefault v

/-! ### The document that an update leads to -/

theorem updatedBy_of_items {u : VocabularyUpdate} (v : Vocabulary) (h : u.items.isSome = true) :
    v.updatedBy u = (v.applyUpdate u).withUniqueDefault := if_pos h

theorem updatedBy_of_no_items {u : VocabularyUpdate} (v : Vocabulary) (h : u.items = none) :
    v.updatedBy u = v.applyUpdate u := by
  simp [updatedBy, h]

@[simp] theorem id_updatedBy (v : Vocabulary) (u : VocabularyUpdate) :
    (v.updatedBy u).id = v.id := by
  rw [updatedBy]
  split
  · exact id_withUniqueDefault _
  · rfl

@[simp] theorem helperText_updatedBy (v : Vocabulary) (u : VocabularyUpdate) :
    (v.updatedBy u).helperText = u.helperText.or v.helperText := by
  rw [updatedBy]
  split
  · exact helperText_withUniqueDefault _
  · rfl

@[simp] theorem items_updatedBy (v : Vocabulary) (u : VocabularyUpdate) :
    (v.updatedBy u).items = u.items.getD v.items := by
  rw [updatedBy]
  split
  · exact items_withUniqueDefault _
  · rfl

@[simp] theorem schema_updatedBy (v : Vocabulary) (u : VocabularyUpdate) :
    (v.updatedBy u).schema = u.schema.getD v.schema := by
  rw [updatedBy]
  split
  · exact schema_withUniqueDefault _
  · rfl

/-- The marks of a document do not matter to the default of its unique field. -/
theorem withUniqueDefault_marked (v : Vocabulary) (deleted : Bool) (created updated : Int64) :
    (v.marked deleted created updated).withUniqueDefault =
      v.withUniqueDefault.marked deleted created updated := by
  rw [withUniqueDefault, withUniqueDefault]
  by_cases h : (v.uniqueField.isNone && v.schema.declares "qcode") = true
  · rw [if_pos h]
    exact if_pos h
  · rw [if_neg h]
    exact if_neg h

/-- The marks of a document do not matter to its update. -/
theorem updatedBy_marked (v : Vocabulary) (u : VocabularyUpdate) (deleted : Bool)
    (created updated : Int64) : (v.marked deleted created updated).updatedBy u =
      (v.updatedBy u).marked deleted created updated := by
  rw [updatedBy, updatedBy]
  split
  · exact withUniqueDefault_marked (v.applyUpdate u) deleted created updated
  · rfl

/-! ### Documents made of others -/

section Parts

variable {I : Item → Prop} {S : Schema → Prop} {M : TextMap Json → Prop} {v : Vocabulary}
  {u : VocabularyUpdate}

theorem ConsistsOf.withUniqueDefault (h : v.ConsistsOf I S M) :
    v.withUniqueDefault.ConsistsOf I S M := by
  rw [withUniqueDefault_eq]
  exact { h with }

theorem ConsistsOf.marked (h : v.ConsistsOf I S M) (deleted : Bool) (created updated : Int64) :
    (v.marked deleted created updated).ConsistsOf I S M :=
  { h with }

theorem ConsistsOf.of_marked {deleted : Bool} {created updated : Int64}
    (h : (v.marked deleted created updated).ConsistsOf I S M) : v.ConsistsOf I S M :=
  ⟨h.items, h.schema, h.fieldOptions, h.customFieldConfig⟩

/-- A field is set by the update or keeps its value, and both are as they should be. -/
theorem forall_or {α : Type} {P : α → Prop} {a b : Option α} (ha : ∀ x, a = some x → P x)
    (hb : ∀ x, b = some x → P x) : ∀ x, a.or b = some x → P x := by
  intro x hx
  rcases Option.or_eq_some_iff.1 hx with h | ⟨-, h⟩
  · exact ha x h
  · exact hb x h

theorem ConsistsOf.applyUpdate (hv : v.ConsistsOf I S M) (hu : u.ConsistsOf I S M) :
    (v.applyUpdate u).ConsistsOf I S M where
  items := by
    cases hitems : u.items with
    | none => simpa [Vocabulary.applyUpdate, hitems] using hv.items
    | some is => simpa [Vocabulary.applyUpdate, hitems] using hu.items is hitems
  schema := by
    cases hschema : u.schema with
    | none => simpa [Vocabulary.applyUpdate, hschema] using hv.schema
    | some s => simpa [Vocabulary.applyUpdate, hschema] using hu.schema s hschema
  fieldOptions := forall_or hu.fieldOptions hv.fieldOptions
  customFieldConfig := forall_or hu.customFieldConfig hv.customFieldConfig

/-- What is true of the parts of a document and of an update is true of the document that the
update leads to. -/
theorem ConsistsOf.updatedBy (hv : v.ConsistsOf I S M) (hu : u.ConsistsOf I S M) :
    (v.updatedBy u).ConsistsOf I S M := by
  rw [Vocabulary.updatedBy]
  split
  · exact (hv.applyUpdate hu).withUniqueDefault
  · exact hv.applyUpdate hu

end Parts

end Vocabulary

end Newsroom
