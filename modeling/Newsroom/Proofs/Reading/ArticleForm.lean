import Newsroom.Proofs.Vocabulary.Cells
import Newsroom.Reading.Projection

/-!
# The form of an item in an article

An article refers to an item by the members of the item and, after them, the scheme. The key
`scheme` is not one of the item's slots, so nothing keeps it from being a field of the item as
well, and `Item.toArticle` leaves such a field where it is. The form is one that readers can take
(`SchemedItem.Legible`) exactly when the item has none (`Item.toArticle_legible_iff`); otherwise
the key stands there twice and the library's own reader refuses it. `Item.romeOfIptc_not_legible`
is such an item. Nothing else is lost: with the later of two values under one key, the form reads
as the article's reference to the item without its own scheme.
-/

namespace Newsroom

namespace SchemedItem

/-- The stored form is an object without repeated keys that has the scheme, and it reads back. -/
structure Legible (s : SchemedItem) : Prop where
  object : ∃ members, s.toJson = .object members ∧ (members.map Prod.fst).Nodup
  scheme : s.toJson.get? "scheme" = some (.string s.scheme)
  readsBack : ofJson? s.toJson = some s

variable {s : SchemedItem}

/-! ### Reading -/

/-- An object that has a scheme and the fields of a canonical item without one, each once and with
values in normal form, is read as that item under that scheme. -/
theorem ofJson?_object {i : Item} {scheme : String} {ms : List (String × Json)} (hi : i.Canonical)
    (hfree : i.field "scheme" = none) (hnodup : (ms.map Prod.fst).Nodup)
    (hnormal : Json.NormalMembers ms)
    (hscheme : Entries.find? "scheme" ms = some (.string scheme))
    (hfields : ∀ key, key ≠ "scheme" → Entries.find? key ms = i.field key) :
    ofJson? (.object ms) = some ⟨i, scheme⟩ := by
  have hitem : Item.ofJson? (.object (ms.filter fun e => e.1 ≠ "scheme")) = some i := by
    refine Item.ofJson?_object hi (hnodup.sublist (List.filter_sublist.map _))
      (Json.normalMembers_iff.2 fun e he => Json.normalMembers_iff.1 hnormal e
        (List.mem_filter.1 he).1) fun key => ?_
    rw [Entries.find?_filter hnodup]
    by_cases hkey : key = "scheme"
    · rw [hkey, hfree, hscheme]
      rfl
    · rw [hfields key hkey]
      cases i.field key <;> simp [Option.filter, hkey]
  have hread : Json.required? "scheme" Json.asString? ms = some scheme :=
    (Json.required?_eq hscheme).trans rfl
  rw [ofJson?, if_pos (Json.distinct_of_nodup hnodup _), hread, hitem]
  rfl

/-- Two members under `scheme` are refused. -/
theorem ofJson?_eq_none {ms ms' : List (String × Json)} (h : "scheme" ∈ ms.map Prod.fst)
    (h' : "scheme" ∈ ms'.map Prod.fst) : ofJson? (.object (ms ++ ms')) = none := by
  have hmany : ∀ {l : List (String × Json)}, "scheme" ∈ l.map Prod.fst →
      0 < (l.filter fun e => e.1 = "scheme").length := by
    intro l hl
    obtain ⟨e, he, hkey⟩ := List.mem_map.1 hl
    exact List.length_pos_of_mem (List.mem_filter.2 ⟨he, decide_eq_true hkey⟩)
  have hrepeated : ¬ Json.Distinct ["scheme"] (ms ++ ms') = true := by
    have := hmany h
    have := hmany h'
    simp only [Json.Distinct, List.all_cons, List.all_nil, Bool.and_true, List.filter_append,
      List.length_append, decide_eq_true_eq]
    omega
  rw [ofJson?, if_neg hrepeated]

/-! ### Members -/

theorem find?_members (key : String) : Entries.find? key s.members =
    (s.item.field key).or (if "scheme" = key then some (.string s.scheme) else none) := by
  rw [members, Entries.find?_append, Item.find?_members, Json.member, Entries.find?_cons]
  rfl

theorem normalMembers_members (h : s.item.WellFormed) : Json.NormalMembers s.members := by
  refine Json.normalMembers_iff.2 fun e he => ?_
  rcases List.mem_append.1 he with he | he
  · exact Json.normalMembers_iff.1 (Item.normalMembers_members h) e he
  · rw [List.mem_singleton.1 he]
    trivial

/-- A field of the item under `scheme` repeats the key. -/
theorem ofJson?_toJson_eq_none (h : s.item.field "scheme" ≠ none) : ofJson? s.toJson = none := by
  refine ofJson?_eq_none ?_ List.mem_cons_self
  obtain ⟨x, hx⟩ := Option.ne_none_iff_exists'.1 h
  rw [← Item.find?_members] at hx
  exact List.mem_map.2 ⟨_, Entries.mem_of_find? hx, rfl⟩

/-- Without such a field the form can be taken. -/
theorem legible_of_field_eq_none (hs : s.item.WellFormed) (h : s.item.field "scheme" = none) :
    s.Legible := by
  have hnodup : (s.members.map Prod.fst).Nodup := by
    rw [members, List.map_append]
    refine List.nodup_append.2 ⟨Item.nodup_members hs.canonical, List.pairwise_singleton _ _, ?_⟩
    rintro key hkey _ hscheme rfl
    obtain rfl := List.mem_singleton.1 hscheme
    obtain ⟨e, he, heq⟩ := List.mem_map.1 hkey
    rw [← Item.find?_members] at h
    exact Entries.find?_eq_none_iff.1 h e he heq
  have hscheme : Entries.find? "scheme" s.members = some (.string s.scheme) := by
    rw [find?_members, h]
    rfl
  refine ⟨⟨s.members, rfl, hnodup⟩, hscheme,
    ofJson?_object hs.canonical h hnodup (normalMembers_members hs) hscheme fun key hkey => ?_⟩
  rw [find?_members, if_neg (Ne.symm hkey), Option.or_none]

end SchemedItem

namespace Item

/-- The item without a value of its own under `scheme`. -/
def withoutScheme (i : Item) : Item := { i with extra := i.extra.erase "scheme" }

variable {i : Item}

theorem field_withoutScheme (key : String) :
    i.withoutScheme.field key = if "scheme" = key then none else i.field key := by
  rw [field, withoutScheme, TextMap.get?_erase]
  split
  case isTrue hkey =>
    subst hkey
    rfl
  case isFalse => rfl

theorem Canonical.withoutScheme (h : i.Canonical) : i.withoutScheme.Canonical := by
  intro key v hv
  rw [Item.withoutScheme, TextMap.get?_erase] at hv
  split at hv
  case isTrue => cases hv
  case isFalse => exact h key v hv

/-- With the later of two values under one key, the form has lost nothing but the item's own
scheme. -/
theorem ofJson?_normal_schemed {scheme : String} (h : i.WellFormed) :
    SchemedItem.ofJson? (⟨i, scheme⟩ : SchemedItem).toJson.normal =
      some ⟨i.withoutScheme, scheme⟩ := by
  have hnormal := SchemedItem.normalMembers_members (s := ⟨i, scheme⟩) h
  have hget (key : String) :
      (TextMap.ofList (SchemedItem.members ⟨i, scheme⟩)).get? key =
        if "scheme" = key then some (.string scheme) else i.field key := by
    rw [SchemedItem.members, TextMap.ofList, List.foldl_append]
    show (TextMap.insert _ "scheme" (Json.string scheme)).get? key = _
    rw [TextMap.get?_insert]
    rw [← TextMap.ofList, TextMap.get?_ofList (nodup_members h.canonical), i.find?_members]
  rw [SchemedItem.toJson, Json.normal, Json.NormalMembers.normalMembers_eq hnormal]
  refine SchemedItem.ofJson?_object h.canonical.withoutScheme (field_withoutScheme _)
    (Entries.nodup_of_ascending (TextMap.ascending _))
    (Json.normalMembers_iff.2 (Json.normalMap_ofList hnormal)) (hget _) fun key hkey => ?_
  rw [field_withoutScheme, if_neg (Ne.symm hkey)]
  exact (hget key).trans (if_neg (Ne.symm hkey))

/-- **References of articles to items**: the form of an item that was read is one that readers can
take exactly when the item has no field `scheme`. With such a field the reader refuses the form,
whatever the given scheme is, and without regard to the first of two values it reads as the
reference to the item without that field. -/
theorem toArticle_legible_iff {j : Json} (h : ofJson? j = some i) (scheme : String) :
    ((i.toArticle scheme).Legible ↔ i.field "scheme" = none) ∧
    (i.field "scheme" ≠ none → SchemedItem.ofJson? (i.toArticle scheme).toJson = none) ∧
    SchemedItem.ofJson? (i.toArticle scheme).toJson.normal =
      some (i.withoutScheme.toArticle scheme) := by
  have hwf : i.withoutFlag.WellFormed := (wellFormed_of_ofJson? h).withoutFlag
  have hfield : i.withoutFlag.field "scheme" = i.field "scheme" :=
    i.field_withoutFlag_of_ne (by decide)
  have hrefused : i.field "scheme" ≠ none →
      SchemedItem.ofJson? (i.toArticle scheme).toJson = none :=
    fun hown => SchemedItem.ofJson?_toJson_eq_none (hfield ▸ hown)
  refine ⟨⟨fun hlegible => ?_, fun hfree => ?_⟩, hrefused, ofJson?_normal_schemed hwf⟩
  · refine Decidable.byContradiction fun hown => ?_
    have hread := hlegible.readsBack
    rw [hrefused hown] at hread
    cases hread
  · exact SchemedItem.legible_of_field_eq_none hwf (hfield.trans hfree)

/-- A place whose name is no text, with a flag, a code and values of its own. -/
def oddPlace : Item :=
  { blank with
    qcode := some "1"
    isActive := some true
    extra := TextMap.ofList [("name", .array [.null]), ("schemes", .object []), ("", .bool false)] }

/-- Its form can be taken under any scheme, here under an empty one. -/
theorem oddPlace_legible : ofJson? oddPlace.toJson = some oddPlace ∧
    oddPlace.field "scheme" = none ∧ (oddPlace.toArticle "").Legible := by
  have hread : ofJson? oddPlace.toJson = some oddPlace := by decide
  have hfree : oddPlace.field "scheme" = none := by decide
  exact ⟨hread, hfree, (toArticle_legible_iff hread "").1.2 hfree⟩

/-- Rome, with a scheme of its own. -/
def romeOfIptc : Item :=
  { blank with
    name := some "Rome"
    extra := TextMap.ofList [("scheme", .string "iptc")] }

/-- An item that was read need not have a form that readers can take. -/
theorem romeOfIptc_not_legible : ofJson? romeOfIptc.toJson = some romeOfIptc ∧
    ¬ (romeOfIptc.toArticle "places").Legible := by
  refine ⟨by decide, fun h => ?_⟩
  obtain ⟨members, hmembers, hnodup⟩ := h.object
  cases hmembers
  revert hnodup
  decide

end Item

end Newsroom
