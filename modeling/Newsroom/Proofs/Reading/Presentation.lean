import Mathlib.Data.List.Forall2
import Newsroom.Proofs.Reading.Passes
import Newsroom.Service.Reading

/-!
# What readers see

Three passes shape a vocabulary for readers: inactive items and flags go, a language is laid over
the items, and fields are cast. Each pass treats every field by itself, so what a reader sees can
be said item by item and field by field, without the passes (`Engine.Shows`): the active items in
their order, each field with its translation if it is carried and has one, cast as the settings
register or else as the schema declares. `Engine.presented_shows` is that the passes come to this.
-/

namespace Newsroom

/-! ### What a field is to show -/

/-- The language that a request asks for: blanks around it do not count, and a blank one is none. -/
def Context.spoken? (ctx : Context) : Option String :=
  (ctx.language.map Text.trim).filter fun l => !l.isEmpty

/-- The value of a field in a language. A field that is not carried has none, and a name or code
that is translated by `null` has none either. -/
def Item.fieldIn (i : Item) (language : Option String) (f : String) : Option Json :=
  match i.field f, language.bind (i.translation? f) with
  | some _, some w => if w.isNull && ["name", "qcode"].contains f then none else some w
  | value, _ => value

/-- The value that a cast makes of `v`, which is `v` itself if there is none. -/
def Cast.applied (cast : Option Cast) (v : Json) : Json :=
  (cast.bind fun c => c.convert? v).getD v

/-- The cast of a field: the registered one, or else the one that the schema declares. -/
def Engine.castOf? (e : Engine) (v : Vocabulary) (f : String) : Option Cast :=
  ((e.config.casts? v.id).bind fun casts => casts.get? f).or
    ((v.schema.find? f).bind FieldSpec.cast?)

/-- The item `shown` is what a request is to see of item `i` of the vocabulary `v`. -/
def Engine.ShowsItem (e : Engine) (ctx : Context) (v : Vocabulary) (i shown : Item) : Prop :=
  ∀ f, f ≠ "is_active" → f ≠ "translations" →
    shown.field f = (i.fieldIn ctx.spoken? f).map (Cast.applied (e.castOf? v f))

/-- The vocabulary `shown` is what a request is to see of the vocabulary `v`. -/
structure Engine.Shows (e : Engine) (ctx : Context) (v shown : Vocabulary) : Prop where
  /-- All but the items is the same. -/
  same : shown = { v with items := shown.items }
  /-- The active items are there in their order, one for one. -/
  items : List.Forall₂ (e.ShowsItem ctx v) (v.items.filter Item.active) shown.items

/-! ### The passes -/

namespace Item

variable {f : String}

/-- The item in a language, if there is one. -/
def inLanguage (i : Item) (language : Option String) : Item :=
  language.elim i i.localize

theorem field_inLanguage (i : Item) (language : Option String) (hactive : f ≠ "is_active")
    (htranslations : f ≠ "translations") :
    (i.inLanguage language).field f = i.fieldIn language f := by
  cases language with
  | none =>
    rw [inLanguage, fieldIn, Option.bind_none, Option.elim_none]
    cases i.field f <;> rfl
  | some l =>
    have hclears : ∀ w : Json, clears f w = (w.isNull && ["name", "qcode"].contains f) := by
      simp [clears, slotted, hactive, htranslations]
    rw [inLanguage, Option.elim_some, field_localize i l hactive htranslations, fieldIn,
      Option.bind_some]
    rcases i.field f with - | v
    · cases i.translation? f l <;> rfl
    · rcases i.translation? f l with - | w
      · rfl
      · exact congrArg (fun b : Bool => if b = true then none else some w) (hclears w)

theorem fieldIn_withoutFlag (i : Item) (language : Option String) (hactive : f ≠ "is_active") :
    i.withoutFlag.fieldIn language f = i.fieldIn language f := by
  rw [fieldIn, field_withoutFlag_of_ne i hactive, fieldIn]
  rfl

theorem castValue_eq_applied (hactive : f ≠ "is_active") (cast : Option Cast) :
    castValue f cast = Cast.applied cast := by
  funext v
  rw [castValue, Cast.applied]
  cases cast.bind fun c => c.convert? v with
  | none => rfl
  | some w => exact if_pos fun h => absurd h hactive

end Item

theorem localizeItems_eq (items : List Item) (ctx : Context) :
    localizeItems items ctx.language = items.map fun i => i.inLanguage ctx.spoken? := by
  rw [localizeItems, Context.spoken?]
  cases ctx.language.map Text.trim with
  | none => exact (List.map_id' items).symm
  | some l =>
    cases hblank : l.isEmpty <;> simp [Option.filter, hblank, Item.inLanguage]

namespace TextMap

/-- An entry that is laid over a map counts. -/
theorem get?_overlay {α : Type} (m top : TextMap α) (key : String) :
    (m.overlay top).get? key = (top.get? key).or (m.get? key) :=
  get?_foldl_insert (Entries.nodup_of_ascending top.ascending) m key

end TextMap

/-- The cast that a schema asks for is the one its declaration of the field names. -/
theorem Schema.get?_casts (s : Schema) (f : String) :
    s.casts.get? f = (s.find? f).bind FieldSpec.cast? := by
  have hkeys : ((s.fields.map fun e => (e.1, e.2.cast?)).map Prod.fst).Nodup := by
    rw [List.map_map]
    exact s.distinct
  have hcasts : s.casts = TextMap.ofList (Json.filled (s.fields.map fun e => (e.1, e.2.cast?))) := by
    simp only [casts, Json.filled, List.filterMap_map]
    rfl
  rw [hcasts, TextMap.get?_ofList (Json.nodup_filled hkeys), find?]
  cases hspec : Entries.find? f s.fields with
  | some spec =>
    exact Json.find?_filled hkeys _ (List.mem_map.2 ⟨_, Entries.mem_of_find? hspec, rfl⟩)
  | none =>
    refine Entries.find?_eq_none_iff.2 fun e he => ?_
    obtain ⟨d, hd, hpair⟩ := List.mem_map.1 (Json.mem_filled.1 he)
    rw [← congrArg Prod.fst hpair]
    exact Entries.find?_eq_none_iff.1 hspec d hd

namespace Vocabulary

/-- The casts of the fields of a vocabulary. -/
def castsWith (v : Vocabulary) (registered : Option (TextMap Cast)) : TextMap Cast :=
  registered.elim v.schema.casts v.schema.casts.overlay

theorem castItems_eq (v : Vocabulary) (registered : Option (TextMap Cast)) :
    v.castItems registered =
      { v with items := v.items.map fun i => i.castFields (v.castsWith registered) } := by
  cases registered <;> rfl

end Vocabulary

namespace Engine

variable (e : Engine)

theorem get?_castsWith (v : Vocabulary) (f : String) :
    (v.castsWith (e.config.casts? v.id)).get? f = e.castOf? v f := by
  rw [castOf?, Vocabulary.castsWith, ← Schema.get?_casts]
  cases e.config.casts? v.id with
  | none => rfl
  | some casts => exact TextMap.get?_overlay _ casts f

/-- The item as the passes leave it. -/
def shapeItem (ctx : Context) (v : Vocabulary) (i : Item) : Item :=
  (i.withoutFlag.inLanguage ctx.spoken?).castFields (v.castsWith (e.config.casts? v.id))

theorem shapeForReader_eq (ctx : Context) (v : Vocabulary) :
    e.shapeForReader ctx v =
      { v with items := (v.items.filter Item.active).map (e.shapeItem ctx v) } := by
  rw [shapeForReader, Vocabulary.castItems_eq]
  simp only [Vocabulary.withoutInactive, localizeItems_eq, List.map_map]
  rfl

theorem showsItem_shapeItem (ctx : Context) (v : Vocabulary) (i : Item) :
    e.ShowsItem ctx v i (e.shapeItem ctx v i) := by
  intro f hactive htranslations
  rw [shapeItem, Item.field_castFields, Item.field_inLanguage _ _ hactive htranslations,
    Item.fieldIn_withoutFlag i _ hactive, Item.castValue_eq_applied hactive, get?_castsWith]

theorem shows_presented {ctx : Context} (h : ctx.requestsManageable = false) (v : Vocabulary) :
    e.Shows ctx v (e.presented ctx v) := by
  rw [presented, h]
  refine ⟨by rw [if_neg Bool.false_ne_true, shapeForReader_eq], ?_⟩
  rw [if_neg Bool.false_ne_true, shapeForReader_eq]
  exact List.forall₂_map_right_iff.2 (List.forall₂_same.2 fun i _ => e.showsItem_shapeItem ctx v i)

/-- **What readers see**: unless manageable vocabularies are listed, a document is shown with the
active items and their fields in the language of the request and cast, alone and in a list, and so
it is whenever it can be fetched. -/
theorem presented_shows (ctx : Context) (h : ctx.requestsManageable = false) :
    (∀ v, e.Shows ctx v (e.presented ctx v)) ∧
    (∀ docs : List Vocabulary, List.Forall₂ (e.Shows ctx) docs (docs.map (e.presented ctx))) ∧
    (∀ q s docs, Store.list e.text s q = .ok docs →
      ∃ shown, e.fetch q ctx s = .ok shown ∧ List.Forall₂ (e.Shows ctx) docs shown) ∧
    ∀ id s v, Store.get e.text s id = .ok v →
      ∃ shown, e.fetchOne id ctx s = .ok shown ∧ e.Shows ctx v shown := by
  have hone := e.shows_presented h
  have hall : ∀ docs : List Vocabulary,
      List.Forall₂ (e.Shows ctx) docs (docs.map (e.presented ctx)) := fun docs =>
    List.forall₂_map_right_iff.2 (List.forall₂_same.2 fun v _ => hone v)
  refine ⟨hone, hall, fun q s docs hdocs => ?_, fun id s v hv => ?_⟩
  · exact ⟨_, by rw [fetch, hdocs]; rfl, hall docs⟩
  · exact ⟨_, by rw [fetchOne, hv]; rfl, hone v⟩

/-- Crop sizes, one of them inactive, whose widths are texts, and are declared to be texts. -/
def croppedSizes : Vocabulary :=
  { Vocabulary.new "crop_sizes" "Crop sizes" .manageable with
    items := [
      Item.ofValues (.ofList [("name", .string "Old"), ("is_active", .bool false)]),
      Item.ofValues (.ofList [("name", .string "Wide"), ("width", .string "1200"),
        ("translations", .object [("name", .object [("fr", .string "Large")]),
          ("width", .object [("fr", .string " 1280 ")])])])]
    schema := ⟨[("width", { FieldSpec.blank with valueType := some "string" })], by simp⟩ }

/-- In French, the wide crop is shown with its French name and width, and the width is a number:
the registered cast comes before the declared one. -/
theorem croppedSizes_shown :
    Context.requestsManageable ⟨none, some " fr ", none⟩ = false ∧
    ((ofConfig .default).presented ⟨none, some " fr ", none⟩ croppedSizes).items.map
      (fun i => (i.field "name", i.field "width")) =
        [(some (.string "Large"), some (.ofInt 1280))] ∧
    (ofConfig .default).Shows ⟨none, some " fr ", none⟩ croppedSizes
      ((ofConfig .default).presented ⟨none, some " fr ", none⟩ croppedSizes) :=
  ⟨rfl, by decide +kernel, ((ofConfig .default).presented_shows _ rfl).1 croppedSizes⟩

end Engine

end Newsroom
