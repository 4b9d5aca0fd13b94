import Newsroom.Proofs.Reading.Presentation

/-!
# Casting twice

A cast leaves what it gives as it is, and the casts of different fields do not get in each other's
way. So the casts of a vocabulary leave nothing for themselves to do: a second time they change
nothing, and fields without a cast they do not change at all (`Vocabulary.castItems_settles`). This
holds of all fields and casts, those of a flag that refuses the result and of a text that has to
leave its slot included.
-/

namespace Newsroom

/-! ### Passes that leave nothing to do -/

section Passes

variable {α σ : Type} {step : σ → α → σ}

/-- A pass over steps with nothing left to do does nothing. -/
theorem foldl_of_settled {s : σ} {steps : List α} (h : ∀ a ∈ steps, step s a = s) :
    steps.foldl step s = s := by
  induction steps with
  | nil => rfl
  | cons a rest ih =>
    obtain ⟨ha, hrest⟩ := List.forall_mem_cons.1 h
    rw [List.foldl_cons, ha, ih hrest]

/-- A step that commutes with those of a pass may be taken before it. -/
theorem step_foldl {a : α} {steps : List α}
    (h : ∀ b ∈ steps, ∀ s, step (step s a) b = step (step s b) a) (s : σ) :
    step (steps.foldl step s) a = steps.foldl step (step s a) := by
  induction steps generalizing s with
  | nil => rfl
  | cons b rest ih =>
    obtain ⟨hb, hrest⟩ := List.forall_mem_cons.1 h
    rw [List.foldl_cons, List.foldl_cons, ih hrest, hb]

/-- A pass over steps that commute, and each of which has nothing left to do after itself, leaves
nothing to do for any of them. -/
theorem settled_foldl (hself : ∀ s a, step (step s a) a = step s a) {steps : List α}
    (hcomm : steps.Pairwise fun a b => ∀ s, step (step s a) b = step (step s b) a) (s : σ) :
    ∀ a ∈ steps, step (steps.foldl step s) a = steps.foldl step s := by
  induction steps generalizing s with
  | nil => exact List.forall_mem_nil _
  | cons a rest ih =>
    obtain ⟨ha, hrest⟩ := List.pairwise_cons.1 hcomm
    refine List.forall_mem_cons.2 ⟨?_, ih hrest (step s a)⟩
    rw [List.foldl_cons, step_foldl ha, hself]

/-- Such a pass does nothing a second time. -/
theorem foldl_foldl (hself : ∀ s a, step (step s a) a = step s a) {steps : List α}
    (hcomm : steps.Pairwise fun a b => ∀ s, step (step s a) b = step (step s b) a) (s : σ) :
    steps.foldl step (steps.foldl step s) = steps.foldl step s :=
  foldl_of_settled (settled_foldl hself hcomm s)

end Passes

/-! ### The casts of an item -/

namespace Item

/-- A cast has nothing left to do after itself. -/
theorem castField_castField (i : Item) (e : String × Cast) :
    (i.castField e).castField e = i.castField e := by
  obtain ⟨f, c⟩ := e
  cases hcast : (i.field f).bind c.convert? with
  | none => simp only [castField, hcast]
  | some w =>
    have hset : i.castField (f, c) = i.setField f w := by simp only [castField, hcast]
    by_cases h : Settable f w
    · obtain ⟨v, -, hconvert⟩ := Option.bind_eq_some_iff.1 hcast
      have hfield : (i.setField f w).field f = some w := by
        simp [field_setField i h, clears, Cast.isNull_of_convert? hconvert]
      have hagain : ((i.setField f w).field f).bind c.convert? = some w := by
        rw [hfield, Option.bind_some, Cast.convert?_of_convert? hconvert]
      rw [hset]
      simp only [castField, hagain]
      exact setField_setField i w h
    · rw [hset, setField_of_not_settable i h, hset, setField_of_not_settable i h]

/-- The casts of different fields may be done in any order. -/
theorem castField_comm (i : Item) {d e : String × Cast} (h : d.1 ≠ e.1) :
    (i.castField d).castField e = (i.castField e).castField d := by
  have hd : ((i.castField e).field d.1) = i.field d.1 := field_castField_of_ne i e h.symm
  have he : ((i.castField d).field e.1) = i.field e.1 := field_castField_of_ne i d h
  rw [castField, he, castField.eq_def (i.castField e), hd, castField, castField]
  cases (i.field d.1).bind d.2.convert? with
  | none => rfl
  | some v =>
    cases (i.field e.1).bind e.2.convert? with
    | none => rfl
    | some w => exact setField_comm i h v w

/-- The casts of an item change nothing a second time. -/
theorem castFields_castFields (i : Item) (casts : TextMap Cast) :
    (i.castFields casts).castFields casts = i.castFields casts := by
  refine foldl_foldl castField_castField ?_ i
  have hkeys : (casts.entries.map Prod.fst).Pairwise (· ≠ ·) :=
    Entries.nodup_of_ascending casts.ascending
  exact (List.pairwise_map.1 hkeys).imp fun h i => castField_comm i h

/-- A field without a cast keeps its value. -/
theorem field_castFields_of_none (i : Item) {casts : TextMap Cast} {f : String}
    (h : casts.get? f = none) : (i.castFields casts).field f = i.field f := by
  rw [field_castFields, h]
  cases i.field f <;> rfl

end Item

namespace Vocabulary

/-- Neither the registered casts nor the declarations of the schema name a cast for the field. -/
def Uncast (v : Vocabulary) (registered : Option (TextMap Cast)) (f : String) : Prop :=
  (∀ casts, registered = some casts → casts.get? f = none) ∧
    ∀ spec, v.schema.find? f = some spec → spec.cast? = none

variable {v : Vocabulary} {registered : Option (TextMap Cast)} {f : String}

theorem Uncast.get?_castsWith (h : v.Uncast registered f) :
    (v.castsWith registered).get? f = none := by
  obtain ⟨hregistered, hdeclared⟩ := h
  have hschema : v.schema.casts.get? f = none := by
    rw [Schema.get?_casts]
    cases hspec : v.schema.find? f with
    | none => rfl
    | some spec => exact hdeclared spec hspec
  cases registered with
  | none => exact hschema
  | some casts =>
    rw [castsWith, Option.elim_some, TextMap.get?_overlay, hregistered casts rfl, hschema]
    rfl

theorem castItems_castItems (v : Vocabulary) (registered : Option (TextMap Cast)) :
    (v.castItems registered).castItems registered = v.castItems registered := by
  have hcasts : (v.castItems registered).castsWith registered = v.castsWith registered := by
    rw [castItems_eq, castsWith, castsWith]
  rw [castItems_eq (v.castItems registered), hcasts, castItems_eq]
  simp only [List.map_map, Function.comp_def, Item.castFields_castFields]

/-- **Casts settle**: casting the items of a vocabulary a second time changes nothing. The casts
change nothing but items, one for one, and of an item only fields that a registered cast or a
declaration of the schema names a cast for. -/
theorem castItems_settles (v : Vocabulary) (registered : Option (TextMap Cast)) :
    (v.castItems registered).castItems registered = v.castItems registered ∧
    v.castItems registered = { v with items := (v.castItems registered).items } ∧
    List.Forall₂ (fun i cast : Item => ∀ f, v.Uncast registered f → cast.field f = i.field f)
      v.items (v.castItems registered).items := by
  refine ⟨castItems_castItems v registered, by rw [castItems_eq], ?_⟩
  rw [castItems_eq]
  refine List.forall₂_map_right_iff.2 (List.forall₂_same.2 fun i _ f hf => ?_)
  exact Item.field_castFields_of_none i hf.get?_castsWith

/-- Sizes whose name, flag and translations are to be cast too. -/
def mixedSizes : Vocabulary :=
  { Vocabulary.new "sizes" "Sizes" .manageable with
    items := [Item.ofValues (.ofList [("name", .string "5"), ("is_active", .bool true),
      ("translations", .string " 7 "), ("width", .string "1200"), ("note", .string "12")])]
    schema := ⟨[("name", { FieldSpec.blank with valueType := some "integer" }),
      ("is_active", { FieldSpec.blank with valueType := some "string" }),
      ("translations", { FieldSpec.blank with valueType := some "integer" })], by decide⟩ }

/-- The name becomes a number and the flag stays what it is, a second time nothing changes, and the
note has no cast. -/
theorem mixedSizes_settled :
    (mixedSizes.castItems (some (.ofList [("width", .integer)]))).items.map (fun i =>
      ["name", "is_active", "translations", "width", "note"].map i.field) =
      [[some (.ofInt 5), some (.bool true), some (.ofInt 7),
        some (.ofInt 1200), some (.string "12")]] ∧
    (mixedSizes.castItems (some (.ofList [("width", .integer)]))).castItems
        (some (.ofList [("width", .integer)])) =
      mixedSizes.castItems (some (.ofList [("width", .integer)])) ∧
    mixedSizes.Uncast (some (.ofList [("width", .integer)])) "note" ∧
    List.Forall₂ (fun i cast : Item => cast.field "note" = i.field "note") mixedSizes.items
      (mixedSizes.castItems (some (.ofList [("width", .integer)]))).items := by
  obtain ⟨hsettled, -, hitems⟩ :=
    castItems_settles mixedSizes (some (.ofList [("width", .integer)]))
  have hnote : mixedSizes.Uncast (some (.ofList [("width", .integer)])) "note" := by
    refine ⟨?_, nofun⟩
    rintro _ ⟨⟩
    rfl
  exact ⟨by decide +kernel, hsettled, hnote, hitems.imp fun _ _ h => h "note" hnote⟩

end Vocabulary

end Newsroom
