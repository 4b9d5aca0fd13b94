import Newsroom.Proofs.Vocabulary.Update
import Newsroom.Vocabulary.ValidationError

/-!
# Values that items carry

What the checks of a document say about the values of its items. The check for distinct values
passes exactly when every active item carries one and no two of them have the same text up to case
(`checkUniqueness_eq_ok_iff`). Two further conditions speak of every item, active or not: that it
carries the fields that the schema requires, and the unique field if the schema declares it.
-/

namespace Newsroom

/-- The text of a field without regard to case. -/
def Item.upperText (i : Item) (field : String) : Option String :=
  (i.fieldText field).map Text.upper

/-- Every active item carries a value of the field, and no two of these values have the same text
up to case. -/
structure DistinctValues (field : String) (items : List Item) : Prop where
  carried : ∀ i ∈ items, i.active = true → i.hasValue field = true
  distinct : (items.filter Item.active).Pairwise fun i j => i.upperText field ≠ j.upperText field

namespace Item

theorem hasValue_eq_isSome (i : Item) (field : String) :
    i.hasValue field = (i.filled? field).isSome := by
  rw [hasValue, filled?]
  cases i.field field with
  | none => rfl
  | some v => cases hempty : v.isEmpty <;> simp [hempty, Option.filter]

theorem upperText_of_filled? {i : Item} {field : String} {v : Json}
    (h : i.filled? field = some v) : i.upperText field = some (Text.upper v.text) := by
  have hfield : i.field field = some v := (Option.filter_eq_some_iff.1 h).1
  rw [upperText, fieldText, hfield]
  rfl

end Item

/-! ### The form of a document -/

namespace Vocabulary

/-- A document is in form when its key is one and its help text is short enough. -/
theorem validateShape_eq_ok_iff {v : Vocabulary} : v.validateShape = .ok () ↔
    isValidId v.id = true ∧ ∀ text, v.helperText = some text → text.length ≤ helperTextMax := by
  rw [validateShape]
  cases isValidId v.id with
  | false => simp
  | true =>
    cases v.helperText with
    | none => simp
    | some text => simp

/-- The form of a document is that of its key and its help text. -/
theorem validateShape_congr {v w : Vocabulary} (hid : v.id = w.id)
    (htext : v.helperText = w.helperText) : v.validateShape = w.validateShape := by
  rw [validateShape, validateShape, hid, htext]

end Vocabulary

/-! ### Distinct values -/

theorem distinctValues_nil (field : String) : DistinctValues field [] := ⟨by simp, by simp⟩

theorem distinctValues_cons_inactive {field : String} {item : Item} {rest : List Item}
    (h : item.active = false) : DistinctValues field (item :: rest) ↔ DistinctValues field rest := by
  constructor
  · rintro ⟨hcarried, hdistinct⟩
    rw [List.filter_cons_of_neg (by simp [h])] at hdistinct
    exact ⟨fun i hi => hcarried i (List.mem_cons_of_mem item hi), hdistinct⟩
  · rintro ⟨hcarried, hdistinct⟩
    refine ⟨List.forall_mem_cons.2 ⟨fun hactive => ?_, hcarried⟩, ?_⟩
    · rw [h] at hactive
      cases hactive
    · rwa [List.filter_cons_of_neg (by simp [h])]

theorem distinctValues_cons_active {field : String} {item : Item} {rest : List Item}
    (h : item.active = true) : DistinctValues field (item :: rest) ↔
      item.hasValue field = true ∧
      (∀ i ∈ rest, i.active = true → item.upperText field ≠ i.upperText field) ∧
      DistinctValues field rest := by
  have hfilter : (item :: rest).filter Item.active = item :: rest.filter Item.active :=
    List.filter_cons_of_pos h
  constructor
  · rintro ⟨hcarried, hdistinct⟩
    rw [hfilter, List.pairwise_cons] at hdistinct
    obtain ⟨hitem, hrest⟩ := List.forall_mem_cons.1 hcarried
    exact ⟨hitem h, fun i hi hactive => hdistinct.1 i (List.mem_filter.2 ⟨hi, hactive⟩), hrest,
      hdistinct.2⟩
  · rintro ⟨hitem, hfresh, hcarried, hdistinct⟩
    refine ⟨List.forall_mem_cons.2 ⟨fun _ => hitem, hcarried⟩, ?_⟩
    rw [hfilter, List.pairwise_cons]
    refine ⟨fun i hi => ?_, hdistinct⟩
    obtain ⟨hmem, hactive⟩ := List.mem_filter.1 hi
    exact hfresh i hmem hactive

/-- The check of the rest of a list, given the texts of the items before it. -/
theorem checkDistinct_eq_ok_iff {field : String} {seen : List String} {index : Nat}
    {items : List Item} : checkDistinct field seen index items = .ok () ↔
      DistinctValues field items ∧
      ∀ i ∈ items, i.active = true → ∀ text, i.upperText field = some text → text ∉ seen := by
  induction items generalizing seen index with
  | nil => simp [checkDistinct, distinctValues_nil]
  | cons item rest ih =>
    rw [checkDistinct, List.forall_mem_cons]
    cases hactive : item.active with
    | false =>
      rw [distinctValues_cons_inactive hactive]
      simp [ih]
    | true =>
      rw [distinctValues_cons_active hactive, Item.hasValue_eq_isSome]
      cases hfilled : item.filled? field with
      | none => simp
      | some value =>
        have htext := Item.upperText_of_filled? hfilled
        by_cases hseen : Text.upper value.text ∈ seen
        · simp [hseen, htext]
        · have hcontains : seen.contains (Text.upper value.text) = false := by simpa using hseen
          simp only [Bool.not_true, Bool.false_eq_true, if_false, hcontains, ih, htext,
            Option.isSome_some, true_and, Option.some.injEq, List.mem_cons, not_or]
          constructor
          · rintro ⟨hdistinct, hfresh⟩
            refine ⟨⟨fun i hi ha htexts => ?_, hdistinct⟩, ?_, fun i hi ha text ht =>
              (hfresh i hi ha text ht).2⟩
            · exact (hfresh i hi ha _ htexts.symm).1 rfl
            · rintro _ _ rfl
              exact hseen
          · rintro ⟨⟨hfresh, hdistinct⟩, -, hrest⟩
            refine ⟨hdistinct, fun i hi ha text ht => ⟨?_, hrest i hi ha text ht⟩⟩
            rintro rfl
            exact hfresh i hi ha ht.symm

/-- The check of a whole list. -/
theorem checkUniqueness_eq_ok_iff {field : String} {items : List Item} :
    checkUniqueness items field = .ok () ↔ DistinctValues field items := by
  rw [checkUniqueness, checkDistinct_eq_ok_iff]
  simp

/-! ### Items with one text for name and code -/

theorem hasValue_named {k : String} (h : k ≠ "") : (Item.named k).hasValue "name" = true := by
  show (!k.isEmpty) = true
  simpa using h

/-- Items that were made from texts are distinct when the texts differ in upper case. -/
theorem distinctValues_named {names : List String} (h : ∀ k ∈ names, k ≠ "") :
    DistinctValues "name" (names.map Item.named) ↔ (names.map Text.upper).Nodup := by
  have hactive : (names.map Item.named).filter Item.active = names.map Item.named := by
    refine List.filter_eq_self.2 fun i hi => ?_
    obtain ⟨k, -, rfl⟩ := List.mem_map.1 hi
    rfl
  have htext : ∀ k, (Item.named k).upperText "name" = some (Text.upper k) := fun _ => rfl
  have hpairwise : ((names.map Item.named).filter Item.active).Pairwise
      (fun i j => i.upperText "name" ≠ j.upperText "name") ↔ (names.map Text.upper).Nodup := by
    rw [hactive, List.pairwise_map, List.Nodup, List.pairwise_map]
    simp only [htext, ne_eq, Option.some.injEq]
  refine ⟨fun hvalues => hpairwise.1 hvalues.distinct, fun hnodup => ⟨?_, hpairwise.2 hnodup⟩⟩
  intro i hi _
  obtain ⟨k, hk, rfl⟩ := List.mem_map.1 hi
  exact hasValue_named (h k hk)

/-! ### Conditions on documents -/

namespace Vocabulary

/-- The values of the unique field, if there is one, are distinct. -/
def HasDistinctValues (v : Vocabulary) : Prop :=
  ∀ field, v.uniqueField = some field → DistinctValues field v.items

/-- Every item carries every field that the schema requires. -/
def CarriesRequired (v : Vocabulary) : Prop :=
  ∀ d ∈ v.schema.fields, d.2.required = true → ∀ i ∈ v.items, i.hasValue d.1 = true

/-- Every item carries the unique field, if the schema declares it. -/
def CarriesUnique (v : Vocabulary) : Prop :=
  ∀ field, v.uniqueField = some field → v.schema.declares field = true →
    ∀ i ∈ v.items, i.hasValue field = true

end Vocabulary

theorem checkUnique_eq_ok_iff {v : Vocabulary} :
    checkUnique v.uniqueField v.items = .ok () ↔ v.HasDistinctValues := by
  rw [Vocabulary.HasDistinctValues]
  cases v.uniqueField with
  | none => simp [checkUnique]
  | some field => simp [checkUnique, checkUniqueness_eq_ok_iff]

end Newsroom
