import Newsroom.Proofs.Service.Agreement
import Newsroom.Proofs.Store.ReadBack

/-!
# What writes answer

A replacement and an update answer a document, and right afterwards a document is found under the
same key. Both have the timestamps of the row. The update answers what is found, since the store
hands over the document that it has written. The replacement answers the document that it was
given, stamped, while the store writes a copy of it that is active: if the document was given as
deleted, the answer says that it is deleted, and what is found is the same document as an active
one (`Engine.writes_answer_stored`, `Engine.answers_not_always_stored`).

Of the text layer this asks only that it reads back the document in question.
-/

namespace Newsroom

namespace Engine

variable {e : Engine} {now : Int64} {s : Store} {id : String} {ctx : Context}
  {doc d w : Vocabulary} {u : VocabularyUpdate}

/-- What is found under a key is active. -/
theorem deleted_of_findOne (h : e.findOne id s = .ok (some d)) : d.deleted = false := by
  obtain ⟨r, hd⟩ := findOne_eq_some_iff.1 h
  rw [hd.eq_marked]
  rfl

/-- A replacement answers with the deletion flag that it was given, and what is found afterwards is
the answer without it. -/
theorem findOne_replace (hdoc : ∃ j, Vocabulary.ofJson? j = some doc)
    (h : (e.replace now id doc ctx s).result = .ok w)
    (hkeeps : e.text.Keeps { w with deleted := false }) :
    w.deleted = doc.deleted ∧
      e.findOne id (e.replace now id doc ctx s).store = .ok (some { w with deleted := false }) := by
  rcases e.replace_cases now id doc ctx s with ⟨-, hfails⟩ | ⟨r, d, hd, hid, -, hmade⟩
  · exact absurd h (hfails.result_ne w)
  · obtain rfl : doc.inPlaceOf d now = w := Except.ok.inj (hmade.result.symm.trans h)
    refine ⟨Vocabulary.deleted_inPlaceOf doc d now, ?_⟩
    have hstored : ({ doc.inPlaceOf d now with deleted := false } : Vocabulary) =
        doc.withUniqueDefault.marked false r.created now := by
      rw [hd.eq_marked]
      rfl
    rw [hstored] at hkeeps ⊢
    obtain ⟨j, hj⟩ := hdoc
    have hwf : doc.withUniqueDefault.WellFormed :=
      (Vocabulary.wellFormed_of_ofJson? hj).withUniqueDefault
    have hkey : doc.withUniqueDefault.id = id := (Vocabulary.id_withUniqueDefault doc).trans hid
    rw [findOne, hmade.store, ← hkey,
      Store.find_of_row (TextMap.get?_insert_self _ _ _) hkeeps hwf]
    rfl

/-- An update answers what is found afterwards. -/
theorem findOne_update (hu : ∃ j, VocabularyUpdate.ofJson? j = some u)
    (h : (e.update now id u ctx s).result = .ok w) (hkeeps : e.text.Keeps w) :
    e.findOne id (e.update now id u ctx s).store = .ok (some w) := by
  rcases e.update_cases now id u ctx s with ⟨-, hfails⟩ | ⟨r, d, hd, -, -, hmade⟩
  · exact absurd h (hfails.result_ne w)
  · obtain rfl : (d.updatedBy u).marked false r.created now = w :=
      Except.ok.inj (hmade.result.symm.trans h)
    obtain ⟨j, hj⟩ := hu
    have hwf : (d.updatedBy u).WellFormed := by
      obtain ⟨v, hv, deleted, rfl⟩ := Row.exists_wellFormed hd.read
      rw [Vocabulary.updatedBy_marked]
      exact (hv.updatedBy (VocabularyUpdate.wellFormed_of_ofJson? hj)).marked deleted _ _
    have hkey : (d.updatedBy u).id = id := (Vocabulary.id_updatedBy d u).trans hd.id_eq
    rw [findOne, hmade.store, ← hkey,
      Store.find_of_row (TextMap.get?_insert_self _ _ _) hkeeps hwf]
    rfl

/-! ### Both writes -/

/-- **What writes answer**: from every store, over every text layer that reads back the document in
question, a received update that succeeds answers exactly what is found under the key right
afterwards. After a replacement that succeeds by a received document, what is found is the answer
as an active document; so it is the answer itself exactly when the document was not given as
deleted. -/
theorem writes_answer_stored (e : Engine) (s : Store) (now : Int64) (id : String)
    (ctx : Context) :
    (∀ doc w, (∃ j, Vocabulary.ofJson? j = some doc) →
      (e.replace now id doc ctx s).result = .ok w → e.text.Keeps { w with deleted := false } →
      e.findOne id (e.replace now id doc ctx s).store = .ok (some { w with deleted := false }) ∧
        (e.findOne id (e.replace now id doc ctx s).store = .ok (some w) ↔
          doc.deleted = false)) ∧
    ∀ u w, (∃ j, VocabularyUpdate.ofJson? j = some u) →
      (e.update now id u ctx s).result = .ok w → e.text.Keeps w →
      e.findOne id (e.update now id u ctx s).store = .ok (some w) := by
  constructor
  · intro doc w hdoc h hkeeps
    obtain ⟨hflag, hfound⟩ := findOne_replace hdoc h hkeeps
    refine ⟨hfound, fun heq => ?_, fun hactive => ?_⟩
    · rw [← hflag]
      exact deleted_of_findOne heq
    · have hw : ({ w with deleted := false } : Vocabulary) = w := by
        rw [← hactive, ← hflag]
      rwa [hw] at hfound
  · intro u w hu h hkeeps
    exact findOne_update hu h hkeeps

/-- The places under another name, with timestamps of their own. -/
def restampedPlaces : Vocabulary :=
  { places with displayName := "Towns", created := some 9, updated := some 9 }

/-- The answers have the timestamps of the row, and are what is found. -/
theorem restampedPlaces_answered : ∃ w₁ w₂,
    ((ofConfig .default).replace 2 "places" restampedPlaces .blank
      ((ofConfig .default).run placesCreated ∅)).result = .ok w₁ ∧
    (ofConfig .default).findOne "places" ((ofConfig .default).replace 2 "places" restampedPlaces
      .blank ((ofConfig .default).run placesCreated ∅)).store = .ok (some w₁) ∧
    w₁.created = some 1 ∧ w₁.updated = some 2 ∧
    ((ofConfig .default).update 2 "places" uniqueNames .blank
      ((ofConfig .default).run placesCreated ∅)).result = .ok w₂ ∧
    (ofConfig .default).findOne "places" ((ofConfig .default).update 2 "places" uniqueNames .blank
      ((ofConfig .default).run placesCreated ∅)).store = .ok (some w₂) := by
  obtain ⟨hreplace, hupdate⟩ := writes_answer_stored (ofConfig .default)
    ((ofConfig .default).run placesCreated ∅) 2 "places" .blank
  have hadmits : (ofConfig .default).Admits ((ofConfig .default).run placesCreated ∅)
      restampedPlaces.withUniqueDefault :=
    ⟨by decide +kernel, by decide +kernel, by decide +kernel⟩
  have hreplaced : ((ofConfig .default).replace 2 "places" restampedPlaces .blank
      ((ofConfig .default).run placesCreated ∅)).result =
        .ok (restampedPlaces.inPlaceOf (places.marked false 1 1) 2) :=
    (replace_of_admits 2 .blank active_places rfl hadmits).result
  have hupdated : ((ofConfig .default).update 2 "places" uniqueNames .blank
      ((ofConfig .default).run placesCreated ∅)).result =
        .ok (((places.marked false 1 1).updatedBy uniqueNames).marked false 1 2) :=
    (update_of_accepts 2 .blank active_places accepts_uniqueNames (by decide)).result
  have hdoc : ∃ j, Vocabulary.ofJson? j = some restampedPlaces :=
    ⟨restampedPlaces.toJson, by decide +kernel⟩
  have hkept : TextLayer.json.Keeps (restampedPlaces.inPlaceOf (places.marked false 1 1) 2) :=
    TextLayer.keeps_json_iff.2 (Vocabulary.legible_toJson_iff.1 (by decide +kernel))
  have hkept' : TextLayer.json.Keeps namedPlaces :=
    TextLayer.keeps_json_iff.2 (Vocabulary.legible_toJson_iff.1 (by decide +kernel))
  have hfound := (hreplace _ _ hdoc hreplaced hkept).2.2 rfl
  have hfound' := hupdate _ _ received_uniqueNames hupdated hkept'
  exact ⟨_, _, hreplaced, hfound, rfl, rfl, hupdated, hfound'⟩

/-- The places as they are given when they are to be shown as deleted. -/
def gonePlaces : Vocabulary := { places with deleted := true }

/-- The places are replaced and found as active ones, but the answer says that they are deleted. -/
theorem answers_not_always_stored :
    ¬ ∀ (c : Config) (ops : List (Int64 × Operation)) (now : Int64) (id : String)
        (doc w : Vocabulary) (ctx : Context), Received (ops ++ [(now, .replace id doc ctx)]) →
      (ofConfig c).KeepsRun (ops ++ [(now, .replace id doc ctx)]) ∅ →
      ((ofConfig c).replace now id doc ctx ((ofConfig c).run ops ∅)).result = .ok w →
      (ofConfig c).findOne id ((ofConfig c).replace now id doc ctx
        ((ofConfig c).run ops ∅)).store = .ok (some w) := by
  intro h
  have hadmits : (ofConfig .default).Admits ((ofConfig .default).run placesCreated ∅)
      gonePlaces.withUniqueDefault :=
    ⟨by decide +kernel, by decide +kernel, by decide +kernel⟩
  have hreplaced := (replace_of_admits 2 .blank active_places rfl hadmits).result
  have hdoc : ∃ j, Vocabulary.ofJson? j = some gonePlaces :=
    ⟨gonePlaces.toJson, by decide +kernel⟩
  have hreceived : Received (placesCreated ++ [(2, .replace "places" gonePlaces .blank)]) :=
    List.forall_mem_append.2 ⟨received_placesCreated, List.forall_mem_singleton.2 hdoc⟩
  have hkeeps : (ofConfig .default).KeepsRun
      (placesCreated ++ [(2, .replace "places" gonePlaces .blank)]) ∅ :=
    keepsRun_creationOf_concat wellFormed_places legible_places hdoc { legible_places with }
  have hflag := deleted_of_findOne (h .default _ 2 "places" gonePlaces _ .blank hreceived hkeeps
    hreplaced)
  rw [Vocabulary.deleted_inPlaceOf] at hflag
  cases hflag

end Engine

end Newsroom
