import Newsroom.Proofs.Reading.Passes
import Newsroom.Service.Reading

/-!
# What becomes of the activity flag

Readers are not to see whether an item is active. What clears the flag clears its slot only, so a
value that is no flag stays among the extra values and goes with the item to the readers. No later
pass brings a flag to an item that shows none (`Vocabulary.flagsHidden_shapeForReader`), hence the
flag is hidden on all ways to readers exactly when no item has an extra value under its name
(`Vocabulary.hidesFlag_iff`). `Vocabulary.freeRome_shows_flag` is an item that was read from JSON
and shows its value.
-/

namespace Newsroom

namespace Item

/-- The item has no activity flag, neither as a field nor in its stored form. -/
structure FlagHidden (i : Item) : Prop where
  field : i.field "is_active" = none
  members : ∀ e ∈ i.members, e.1 ≠ "is_active"

theorem flagHidden_iff {i : Item} : i.FlagHidden ↔ i.field "is_active" = none := by
  refine ⟨FlagHidden.field, fun h => ⟨h, fun e he hkey => ?_⟩⟩
  rw [← find?_members] at h
  exact Entries.find?_eq_none_iff.1 h e he hkey

theorem flagHidden_withoutFlag {i : Item} :
    i.withoutFlag.FlagHidden ↔ i.extra.get? "is_active" = none := by
  rw [flagHidden_iff, field_withoutFlag]

theorem FlagHidden.localize {i : Item} (h : i.FlagHidden) (language : String) :
    (i.localize language).FlagHidden :=
  flagHidden_iff.2 (field_localize_of_none h.field language)

theorem FlagHidden.castFields {i : Item} (h : i.FlagHidden) (casts : TextMap Cast) :
    (i.castFields casts).FlagHidden :=
  flagHidden_iff.2 (by rw [field_castFields, h.field, Option.map_none])

/-- An item that was read has its flag in its slot exactly when the flag is one. -/
theorem extra_flag_ofValues (values : TextMap Json) :
    (ofValues values).extra.get? "is_active" = none ↔
      (values.get? "is_active").all fun v => v.asBool?.isSome := by
  rw [get?_extra_ofValues]
  cases values.get? "is_active" with
  | none => simp
  | some v => cases h : v.asBool?.isSome <;> simp [Option.filter, slotTakes, h]

end Item

/-- The item has no activity flag and its stored form has none, the scheme included. -/
structure SchemedItem.FlagHidden (s : SchemedItem) : Prop where
  item : s.item.FlagHidden
  members : ∀ e ∈ s.members, e.1 ≠ "is_active"

theorem SchemedItem.flagHidden_iff {s : SchemedItem} : s.FlagHidden ↔ s.item.FlagHidden := by
  refine ⟨FlagHidden.item, fun h => ⟨h, fun e he => ?_⟩⟩
  rcases List.mem_append.1 he with he | he
  · exact h.members e he
  · have hscheme : "scheme" ≠ "is_active" := by decide
    rw [List.eq_of_mem_singleton he]
    exact hscheme

theorem Item.flagHidden_toArticle {i : Item} {scheme : String} :
    (i.toArticle scheme).FlagHidden ↔ i.extra.get? "is_active" = none :=
  SchemedItem.flagHidden_iff.trans flagHidden_withoutFlag

/-- A list of items none of which has an activity flag. -/
def FlagsHidden (items : List Item) : Prop := ∀ i ∈ items, i.FlagHidden

theorem FlagsHidden.localizeItems {items : List Item} (h : FlagsHidden items)
    (language : Option String) : FlagsHidden (localizeItems items language) := by
  rw [Newsroom.localizeItems]
  split
  · exact h
  · split
    · exact h
    · exact List.forall_mem_map.2 fun i hi => (h i hi).localize _

namespace Vocabulary

variable {v : Vocabulary}

theorem flagsHidden_withoutInactive (h : ∀ i ∈ v.items, i.extra.get? "is_active" = none) :
    FlagsHidden v.withoutInactive.items :=
  List.forall_mem_map.2 fun i hi => Item.flagHidden_withoutFlag.2 (h i (List.mem_filter.1 hi).1)

theorem FlagsHidden.castItems (h : FlagsHidden v.items) (registered : Option (TextMap Cast)) :
    FlagsHidden (v.castItems registered).items :=
  List.forall_mem_map.2 fun i hi => (h i hi).castFields _

/-- Items without flag are shaped for readers without one. -/
theorem flagsHidden_shapeForReader (h : FlagsHidden v.withoutInactive.items) (e : Engine)
    (ctx : Context) : FlagsHidden (e.shapeForReader ctx v).items :=
  FlagsHidden.castItems (v := { v.withoutInactive with
    items := localizeItems v.withoutInactive.items ctx.language }) (h.localizeItems _) _

/-- What is selected from a vocabulary comes from one of its items. -/
theorem mem_project {q : ItemQuery} {s : SchemedItem} (h : s ∈ v.project q) :
    ∃ i ∈ v.items, s = i.toArticle v.id := by
  obtain ⟨i, hi, rfl⟩ := List.mem_map.1 h
  refine ⟨i, ?_, rfl⟩
  have hcandidate := (List.mem_filter.1 hi).1
  rw [candidates] at hcandidate
  split at hcandidate
  · exact List.mem_of_find?_eq_some (Option.mem_toList.1 hcandidate)
  · exact hcandidate

/-- The vocabulary shows no activity flag to readers, whichever way they read it. -/
structure HidesFlag (v : Vocabulary) : Prop where
  /-- Freed of its inactive items. -/
  filtered : FlagsHidden v.withoutInactive.items
  /-- Item by item in an article. -/
  article : ∀ i ∈ v.items, ∀ scheme, (i.toArticle scheme).FlagHidden
  /-- Selected by a query. -/
  projected : ∀ q, ∀ s ∈ v.project q, s.FlagHidden
  /-- Looked up in a store and selected by a query. -/
  selected : ∀ (e : Engine) id q s, e.findOne id s = .ok (some v) →
    ∃ shown, e.getItems id q s = .ok shown ∧ ∀ x ∈ shown, x.FlagHidden
  /-- Fetched, in any language and with any casts. -/
  presented : ∀ (e : Engine) ctx, ctx.requestsManageable = false →
    FlagsHidden (e.presented ctx v).items

/-- **Which flags are hidden**: a vocabulary shows no activity flag to readers exactly when no item
has an extra value under its name; and an item that was read has none there exactly when its flag
is a flag or missing. -/
theorem hidesFlag_iff (v : Vocabulary) :
    (v.HidesFlag ↔ ∀ i ∈ v.items, i.extra.get? "is_active" = none) ∧
    ∀ values, (Item.ofValues values).extra.get? "is_active" = none ↔
      (values.get? "is_active").all fun x => x.asBool?.isSome := by
  refine ⟨⟨fun h i hi => ?_, fun h => ?_⟩, Item.extra_flag_ofValues⟩
  · exact Item.flagHidden_toArticle.1 (h.article i hi v.id)
  · have hproject : ∀ q, ∀ s ∈ v.project q, s.FlagHidden := by
      intro q s hs
      obtain ⟨i, hi, rfl⟩ := mem_project hs
      exact Item.flagHidden_toArticle.2 (h i hi)
    exact {
      filtered := flagsHidden_withoutInactive h
      article := fun i hi _ => Item.flagHidden_toArticle.2 (h i hi)
      projected := hproject
      selected := fun e id q s hfind =>
        ⟨v.project q, by rw [Engine.getItems, hfind]; rfl, hproject q⟩
      presented := fun e ctx hctx => by
        rw [Engine.presented, hctx]
        exact flagsHidden_shapeForReader (flagsHidden_withoutInactive h) e ctx }

/-- A vocabulary of one city whose activity flag is a word. -/
def freeRome : Vocabulary :=
  { Vocabulary.new "places" "Places" .manageable with
    items := [Item.ofValues (.ofList [("name", .string "Rome"), ("is_active", .string "yes")])] }

/-- The city was read from JSON, and it shows the word wherever inactive items are left out. -/
theorem freeRome_shows_flag :
    freeRome.items.map some = [Item.ofJson? (.object
      [("name", .string "Rome"), ("is_active", .string "yes")])] ∧
    freeRome.withoutInactive.items.map (Item.field · "is_active") = [some (.string "yes")] ∧
    ((Engine.ofConfig .default).presented .blank freeRome).items.map (Item.field · "is_active") =
      [some (.string "yes")] ∧
    ¬ freeRome.HidesFlag := by
  have hfiltered : freeRome.withoutInactive.items.map (Item.field · "is_active") =
      [some (.string "yes")] := by decide +kernel
  refine ⟨by decide +kernel, hfiltered, by decide +kernel, fun h => ?_⟩
  have hnone : freeRome.withoutInactive.items.map (Item.field · "is_active") =
      freeRome.withoutInactive.items.map fun _ => none :=
    List.map_congr_left fun i hi => (h.filtered i hi).field
  rw [hfiltered] at hnone
  cases hnone

end Vocabulary

end Newsroom
