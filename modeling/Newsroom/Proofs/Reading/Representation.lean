import Newsroom.Proofs.Reading.Passes
import Newsroom.Reading.Projection

/-!
# One form for every item

Four fields of an item may live in a slot or among the extra values, so an item could hold a value
twice and be written with a key that repeats. No item that comes about does: those that are read or
named are well-formed, and so is whatever the operations on items make of them
(`Item.Arises.wellFormed`). Reading leaves out a `null` for the name, the code or the translations
and nothing else (`Item.field_ofValues`), so writing an item that was read gives back the object
that it was read from, without these.
-/

namespace Newsroom

namespace Item

/-! ### What reading leaves out -/

/-- The fields whose `null` is as good as no value. -/
def nullable : List String := ["name", "qcode", "translations"]

/-- A member that reading an item leaves out. -/
def leftOut (e : String × Json) : Bool := e.2.isNull && nullable.contains e.1

theorem slot_of_translations (v : Json) :
    (Translations.ofJson? v).map Translations.toJson =
      (some v).filter fun v => takesTranslations v && !v.isNull := by
  cases htaken : takesTranslations v with
  | true =>
    rw [translations_of_taken htaken]
    cases hnull : v.isNull <;> simp [Option.filter, htaken, hnull]
  | false => simp [Option.filter, htaken, translations_of_not_taken htaken]

/-- Of the value that a field is read with, its slot shows what it takes, but no `null`. -/
theorem slot?_ofValues (values : TextMap Json) (f : String) :
    (ofValues values).slot? f = (values.get? f).filter fun v => slotTakes f v && !v.isNull := by
  rw [slot?]
  split
  case isTrue hf =>
    rw [hf, ofValues]
    rcases values.get? "name" with - | v
    · rfl
    · cases v <;> rfl
  split
  case isTrue hf =>
    rw [hf, ofValues]
    rcases values.get? "qcode" with - | v
    · rfl
    · cases v <;> rfl
  split
  case isTrue hf =>
    rw [hf, ofValues]
    rcases values.get? "is_active" with - | v
    · rfl
    · cases v <;> rfl
  split
  case isTrue hf =>
    rw [hf, ofValues]
    rcases values.get? "translations" with - | v
    · rfl
    · exact slot_of_translations v
  case isFalse hname hqcode hactive htranslations =>
    have hnone : ∀ v, slotTakes f v = false := fun v => by
      simp [slotTakes, hname, hqcode, hactive, htranslations]
    cases values.get? f <;> simp [Option.filter, hnone]

/-- The `null` that a slot takes is one that is left out. -/
theorem slotTakes_null (f : String) : slotTakes f .null = nullable.contains f := by
  rw [slotTakes]
  split
  case isTrue hf => rw [hf]; rfl
  split
  case isTrue hf => rw [hf]; rfl
  split
  case isTrue hf => rw [hf]; rfl
  split
  case isTrue hf => rw [hf]; rfl
  case isFalse hname hqcode hactive htranslations =>
    simp [nullable, hname, hqcode, htranslations]

theorem leftOut_eq (f : String) (v : Json) : leftOut (f, v) = (v.isNull && slotTakes f v) := by
  cases v with
  | null => rw [leftOut, slotTakes_null]
  | _ => rfl

/-- A field of an item that was read is the value it was read from, unless that is left out. -/
theorem field_ofValues (values : TextMap Json) (f : String) :
    (ofValues values).field f = (values.get? f).filter fun v => !leftOut (f, v) := by
  rw [field, slot?_ofValues, get?_extra_ofValues]
  rcases values.get? f with - | v
  · rfl
  · cases htaken : slotTakes f v <;> cases hnull : v.isNull <;>
      simp [Option.filter, leftOut_eq, htaken, hnull]

/-- Writing an item that was read gives the object it was read from, without what is left out. -/
theorem normal_toJson_ofValues {values : TextMap Json} (h : Json.NormalMap values) :
    (ofValues values).toJson.normal =
      .object (values.entries.filter fun e => !leftOut e) := by
  have hi := wellFormed_ofValues h
  have hmembers : Json.normalMembers (ofValues values).members = (ofValues values).members :=
    Json.NormalMembers.normalMembers_eq (normalMembers_members hi)
  have hkeys := Entries.nodup_of_ascending values.ascending
  rw [toJson, Json.normal, hmembers]
  refine congrArg Json.object (Entries.eq_of_find?_eq (TextMap.ascending _)
    (values.ascending.filter _) fun key => ?_)
  show (TextMap.ofList (ofValues values).members).get? key = _
  rw [TextMap.get?_ofList (nodup_members hi.canonical), find?_members, field_ofValues,
    Entries.find?_filter hkeys]
  rfl

/-! ### Items that come about -/

theorem WellFormed.overlay {i : Item} (hi : i.WellFormed) (language : String)
    {e : String × TextMap Json} (he : Json.NormalMap e.2) : (overlay language i e).WellFormed := by
  rw [Item.overlay]
  split
  case h_1 w hw => exact hi.setField e.1 (he _ (TextMap.mem_entries_iff.2 hw))
  case h_2 => exact hi

theorem WellFormed.localize {i : Item} (hi : i.WellFormed) (language : String) :
    (i.localize language).WellFormed := by
  rw [Item.localize]
  split
  case h_1 => exact hi
  case h_2 t ht =>
    have hnormal := hi.translations t ht
    refine List.foldlRecOn _ _ hi fun j hj e he => ?_
    exact hj.overlay language (hnormal e (List.mem_filter.1 he).1)

theorem WellFormed.castField {i : Item} (hi : i.WellFormed) (e : String × Cast) :
    (i.castField e).WellFormed := by
  rw [Item.castField]
  split
  case h_1 w hw =>
    obtain ⟨v, -, hcast⟩ := Option.bind_eq_some_iff.1 hw
    exact hi.setField e.1 (Cast.normal_of_convert? hcast)
  case h_2 => exact hi

theorem WellFormed.castFields {i : Item} (hi : i.WellFormed) (casts : TextMap Cast) :
    (i.castFields casts).WellFormed :=
  List.foldlRecOn _ _ hi fun _ hj e _ => hj.castField e

/-- Items as they come about: read or named, and then changed by any of the operations on items. -/
inductive Arises : Item → Prop where
  /-- The item was read. -/
  | read {j : Json} {i : Item} (h : ofJson? j = some i) : Arises i
  /-- The item was made from a name. -/
  | named (value : String) : Arises (named value)
  /-- A field was set, to any value with its objects in order of keys. -/
  | set {i : Item} (h : Arises i) (field : String) (v : Json) : Arises (i.setField field v.normal)
  /-- A language was laid over the item. -/
  | localized {i : Item} (h : Arises i) (language : String) : Arises (i.localize language)
  /-- Its vocabulary was freed of inactive items. -/
  | filtered {v : Vocabulary} {i : Item} (h : ∀ j ∈ v.items, Arises j)
      (hi : i ∈ v.withoutInactive.items) : Arises i
  /-- The items of its vocabulary were cast. -/
  | cast {v : Vocabulary} {i : Item} (h : ∀ j ∈ v.items, Arises j)
      (registered : Option (TextMap Cast)) (hi : i ∈ (v.castItems registered).items) : Arises i
  /-- It was shaped for an article. -/
  | article {i : Item} (h : Arises i) (scheme : String) : Arises (i.toArticle scheme).item

/-- Items that come about are well-formed. -/
theorem Arises.wellFormed {i : Item} (h : i.Arises) : i.WellFormed := by
  induction h with
  | read h => exact wellFormed_of_ofJson? h
  | named value => exact wellFormed_named value
  | set _ field v ih => exact ih.setField field (Json.normal_normal v)
  | localized _ language ih => exact ih.localize language
  | filtered _ hi ih =>
    obtain ⟨j, hj, rfl⟩ := List.mem_map.1 hi
    exact (ih j (List.mem_filter.1 hj).1).withoutFlag
  | cast _ registered hi ih =>
    obtain ⟨j, hj, rfl⟩ := List.mem_map.1 hi
    exact (ih j hj).castFields _
  | article _ scheme ih => exact ih.withoutFlag

/-- An object without the members that reading an item leaves out. -/
def withoutLeftOut : Json → Json
  | .object members => .object (members.filter fun e => !leftOut e)
  | v => v

/-- **One form for every item**: every object is read as a canonical item, which is written as that
object without a `null` name, code or translations; and every item that comes about is canonical,
is written without a key that repeats, and reads back from what is written. -/
theorem items_keep_one_form :
    (∀ members : List (String × Json), ∃ i, ofJson? (.object members) = some i ∧ i.Canonical ∧
      i.toJson.normal = withoutLeftOut (Json.object members).normal) ∧
    ∀ i : Item, i.Arises →
      i.Canonical ∧ (i.members.map Prod.fst).Nodup ∧ ofJson? i.toJson = some i := by
  constructor
  · intro members
    have hvalues : Json.NormalMap (TextMap.ofList (Json.normalMembers members)) :=
      Json.normalMap_ofList (Json.normalMembers_normalMembers members)
    exact ⟨_, rfl, canonical_ofValues _, normal_toJson_ofValues hvalues⟩
  · intro i hi
    have hwell := hi.wellFormed
    exact ⟨hwell.canonical, nodup_members hwell.canonical, ofJson?_toJson hwell⟩

/-- A city whose name is a number and whose flag is a word. -/
def numberedCity : Item :=
  ofValues (TextMap.ofList [("is_active", .string "true"), ("name", .ofInt 5),
    ("translations", .object [("name", .object [("fr", .string "Rome")])])])

/-- A vocabulary of the numbered city in French. -/
def frenchCities : Vocabulary :=
  { Vocabulary.new "cities" "Cities" .manageable with items := [numberedCity.localize "fr"] }

/-- The numbered city in French, its flag cast: both values have moved into their slots. -/
theorem numberedCity_keeps_form :
    ofJson? (.object [("name", .ofInt 5), ("is_active", .string "true"),
      ("translations", .object [("name", .object [("fr", .string "Rome")])])]) =
        some numberedCity ∧
    ∃ i, i ∈ (frenchCities.castItems (some (.ofList [("is_active", .boolean)]))).items ∧
      i.name = some "Rome" ∧ i.isActive = some true ∧
      i.Canonical ∧ (i.members.map Prod.fst).Nodup ∧ ofJson? i.toJson = some i := by
  have hread : ofJson? (.object [("name", .ofInt 5), ("is_active", .string "true"),
      ("translations", .object [("name", .object [("fr", .string "Rome")])])]) =
        some numberedCity := by decide +kernel
  have hitems : ∀ i ∈ frenchCities.items, Arises i :=
    List.forall_mem_singleton.2 ((Arises.read hread).localized "fr")
  have hcast : (numberedCity.localize "fr").castFields (TextMap.ofList [("is_active", .boolean)]) ∈
      (frenchCities.castItems (some (.ofList [("is_active", .boolean)]))).items :=
    List.mem_singleton_self _
  exact ⟨hread, _, hcast, by decide +kernel, by decide +kernel,
    items_keep_one_form.2 _ (.cast hitems _ hcast)⟩

end Item

end Newsroom
