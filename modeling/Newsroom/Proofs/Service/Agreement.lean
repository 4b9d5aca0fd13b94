import Newsroom.Proofs.Service.Received
import Newsroom.Service.Reading

/-!
# Updates and replacements

An update that carries items comes to the same as the replacement of the stored document by the
one with the update laid over it, although the two check in another order, give the default of the
unique field to different things and write by different operations of the store
(`Engine.update_agrees_with_replace`). An update without items does not: it leaves the stored items
unvalidated.
-/

namespace Newsroom

namespace Engine

variable {e : Engine} {now : Int64} {s : Store} {id : String} {r : Row} {d : Vocabulary}
  {u : VocabularyUpdate}

theorem findOne_eq_some_iff :
    e.findOne id s = .ok (some d) ↔ ∃ r, Store.Active e.text s id r d :=
  fromStore_eq_ok_iff.trans Store.find_eq_some_iff

/-- The stamps of a replacement are the marks that an update leaves. -/
theorem inPlaceOf_applyUpdate (hd : Store.Active e.text s id r d) (hitems : u.items.isSome = true) :
    (d.applyUpdate u).inPlaceOf d now = (d.updatedBy u).marked false r.created now := by
  rw [Vocabulary.updatedBy_of_items d hitems, Vocabulary.inPlaceOf, hd.eq_marked,
    Vocabulary.withUniqueDefault_eq]
  rfl

/-- With items, an update is accepted exactly when the replacement is admitted. -/
theorem accepts_iff_admits_applyUpdate (hitems : u.items.isSome = true) :
    e.Accepts s d u ↔ e.Admits s (d.applyUpdate u).withUniqueDefault := by
  rw [← Vocabulary.updatedBy_of_items d hitems]
  exact accepts_iff_admits hitems

/-- **Updates agree with replacements**: from every store, for every active vocabulary and every
update that carries items, updating it and replacing its document by the one with the update laid
over it succeed together, answer the same document, and leave the same store and the same
events. -/
theorem update_agrees_with_replace (e : Engine) (now : Int64) (id : String) (d : Vocabulary)
    (u : VocabularyUpdate) (ctx : Context) (s : Store)
    (hfind : e.findOne id s = .ok (some d)) (hitems : u.items.isSome = true) :
    (∀ w, (e.update now id u ctx s).result = .ok w ↔
      (e.replace now id (d.applyUpdate u) ctx s).result = .ok w) ∧
    (e.update now id u ctx s).store = (e.replace now id (d.applyUpdate u) ctx s).store ∧
    (e.update now id u ctx s).journal.notices =
      (e.replace now id (d.applyUpdate u) ctx s).journal.notices := by
  obtain ⟨r, hd⟩ := findOne_eq_some_iff.1 hfind
  have hpass : e.Accepts s d u ↔ e.Admits s (d.applyUpdate u).withUniqueDefault :=
    accepts_iff_admits_applyUpdate hitems
  rcases e.update_cases now id u ctx s with
    ⟨hrefused, hfails⟩ | ⟨r', d', hd', haccepts, -, hupdated⟩
  · rcases e.replace_cases now id (d.applyUpdate u) ctx s with
      ⟨-, hfails'⟩ | ⟨r', d', hd', -, hadmits, -⟩
    · exact ⟨fun w => iff_of_false (hfails.result_ne w) (hfails'.result_ne w),
        hfails.store.trans hfails'.store.symm, hfails.notices.trans hfails'.notices.symm⟩
    · refine absurd ?_ (hrefused r d hd (hpass.2 hadmits))
      rw [Vocabulary.updatedBy_of_items d hitems]
      exact hadmits.validateShape
  · obtain ⟨rfl, rfl⟩ := hd.unique hd'
    have hadmits := hpass.1 haccepts
    rcases e.replace_cases now id (d.applyUpdate u) ctx s with
      ⟨hrefused, -⟩ | ⟨r', d', hd', -, -, hreplaced⟩
    · exact absurd hadmits (hrefused r d hd hd.id_eq)
    · obtain ⟨rfl, rfl⟩ := hd.unique hd'
      rw [hupdated.result, hreplaced.result, hupdated.store, hreplaced.store, hupdated.notices,
        hreplaced.notices, inPlaceOf_applyUpdate hd hitems,
        Vocabulary.updatedBy_of_items d hitems, about_withUniqueDefault]
      exact ⟨fun w => Iff.rfl, rfl, rfl⟩

/-- The update that gives the places codes, declared in their schema. -/
def codedPlaces : VocabularyUpdate :=
  { VocabularyUpdate.blank with
    items := some [{ Item.blank with name := some "Rome", qcode := some "1" }]
    schema := some (Schema.ofList [("name", .ofRequired), ("qcode", .blank)]) }

/-- Replacing the places by those with codes makes codes their unique field, as the update does. -/
theorem codedPlaces_agree :
    ((ofConfig .default).replace 2 "places" ((places.marked false 1 1).applyUpdate codedPlaces)
      .blank ((ofConfig .default).run placesCreated ∅)).result =
        .ok (((places.marked false 1 1).updatedBy codedPlaces).marked false 1 2) ∧
    ((places.marked false 1 1).updatedBy codedPlaces).uniqueField = some "qcode" := by
  obtain ⟨hresult, -, -⟩ := update_agrees_with_replace (ofConfig .default) 2 "places"
    (places.marked false 1 1) codedPlaces .blank _ (findOne_eq_some_iff.2 ⟨_, active_places⟩) rfl
  have haccepts : (ofConfig .default).Accepts ((ofConfig .default).run placesCreated ∅)
      (places.marked false 1 1) codedPlaces :=
    ⟨fun _ => by decide +kernel, by decide +kernel, by decide +kernel⟩
  have hmade := update_of_accepts 2 .blank active_places haccepts (by decide +kernel)
  exact ⟨(hresult _).1 hmade.result, by decide +kernel⟩

end Engine

end Newsroom
