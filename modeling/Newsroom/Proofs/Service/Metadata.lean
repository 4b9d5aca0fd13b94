import Newsroom.Proofs.Service.Agreement
import Newsroom.Proofs.Service.Presence
import Newsroom.Proofs.Store.ReadBack
import Newsroom.Proofs.Vocabulary.Merge

/-!
# Edits of metadata

An update that carries neither items nor a unique field, field type or help text is checked all the
same, against what is stored: the document must be in form, the values of its unique field must be
distinct, and it must not be a custom one with a reserved key. Whatever run has led to a document,
it has passed all three (`Engine.run_sound`), and such an update touches nothing that they look at.
So no update of this kind is ever refused (`Engine.metadata_always_updated`).

The rules of the schema are no part of this: stored items may break them (see `codesRun_lacks`),
and an update without items may declare rules that they break.
-/

namespace Newsroom

/-- The update sets nothing that a check without the rules of the schema looks at. -/
structure VocabularyUpdate.OnlyMetadata (u : VocabularyUpdate) : Prop where
  items : u.items = none
  uniqueField : u.uniqueField = none
  fieldType : u.fieldType = none
  helperText : u.helperText = none

namespace Engine

/-- The document passes the checks that look at no other document. -/
structure Sound (e : Engine) (v : Vocabulary) : Prop where
  form : v.validateShape = .ok ()
  unique : checkUnique v.uniqueField v.items = .ok ()
  reserved : e.checkReserved v = .ok ()

variable {e : Engine} {now : Int64} {op : Operation} {s : Store} {id : String} {r : Row}
  {v d : Vocabulary} {u : VocabularyUpdate} {ctx : Context}

theorem markFree_sound : MarkFree e.Sound :=
  fun _ _ _ _ h => ⟨h.form, h.unique, h.reserved⟩

theorem Admits.sound (h : e.Admits s v) : e.Sound v := ⟨h.validateShape, h.unique, h.reserved⟩

/-- Metadata do not matter to these checks. -/
theorem Sound.applyUpdate (h : e.Sound v) (hu : u.OnlyMetadata) : e.Sound (v.applyUpdate u) where
  form := by
    have hid : (v.applyUpdate u).id = v.id := rfl
    have htext : (v.applyUpdate u).helperText = v.helperText := by
      rw [Vocabulary.applyUpdate, hu.helperText, Option.none_or]
    rw [Vocabulary.validateShape_congr hid htext]
    exact h.form
  unique := by
    rw [Vocabulary.applyUpdate, hu.items, hu.uniqueField, Option.getD_none, Option.none_or]
    exact h.unique
  reserved := by
    have hid : (v.applyUpdate u).id = v.id := rfl
    have htype : (v.applyUpdate u).fieldType = v.fieldType := by
      rw [Vocabulary.applyUpdate, hu.fieldType, Option.none_or]
    exact (checkReserved_congr hid htype).2 h.reserved

/-! ### Every stored document passes -/

/-- An update that has succeeded has left the document in form: with items it was validated as a
whole, and without the store has checked what it came to. -/
theorem form_updatedBy (hwritten : e.HasWritten op (e.perform now op s).result id)
    (happlies : op.Applies e.config id v u) (haccepts : e.Accepts s v u)
    (hform : v.validateShape = .ok ()) : (v.updatedBy u).validateShape = .ok () := by
  rcases happlies.items_or_update with hitems | ⟨ctx, rfl⟩
  · exact (validate_eq_ok_iff.1 (haccepts.valid hitems)).1
  · rcases e.update_cases now id u ctx s with ⟨-, hfails⟩ | ⟨_, w, -, -, hw, -⟩
    · obtain ⟨a, ha, -⟩ := hwritten
      exact absurd ha ((hfails.map Answer.document).result_ne a)
    · -- of the help text, either the update sets it, or it is that of the stored document
      rw [Vocabulary.validateShape_eq_ok_iff] at hform hw ⊢
      rw [Vocabulary.helperText_updatedBy] at hw ⊢
      refine ⟨by rw [Vocabulary.id_updatedBy]; exact hform.1,
        Vocabulary.forall_or (fun text htext => hw.2 text ?_) hform.2⟩
      rw [htext, Option.some_or]

/-- After every received run, every row holds a document that passes. -/
theorem run_sound {ops : List (Int64 × Operation)} (hops : Received ops)
    (hkeeps : e.KeepsRun ops ∅) : (e.run ops ∅).Holds e.text e.Sound := by
  refine hkeeps.invariant Store.holds_empty fun step hstep s hkept hs id => ?_
  refine hkept.holds (hops step hstep) markFree_sound (hs id) (fun _ v hv => hv)
    (fun v _ hadmits => hadmits.sound) ?_
  intro v u hwritten happlies haccepts hv
  exact ⟨form_updatedBy hwritten happlies haccepts hv.form, haccepts.unique, haccepts.reserved⟩

/-! ### No such update is refused -/

/-- An update of metadata is refused for no document that passes, whatever else is stored. -/
theorem update_metadata (now : Int64) (ctx : Context) (hd : Store.Active e.text s id r d)
    (hsound : e.Sound d) (hu : u.OnlyMetadata) :
    (e.update now id u ctx s).Succeeds { d.applyUpdate u with updated := some now }
      (TextMap.insert s id (Row.written e.text (d.applyUpdate u) r.created now))
      [Notice.about .updated ctx (d.applyUpdate u)] := by
  have hmerged : d.updatedBy u = d.applyUpdate u := Vocabulary.updatedBy_of_no_items d hu.items
  have hpasses : e.Sound (d.updatedBy u) := by
    rw [hmerged]
    exact hsound.applyUpdate hu
  have haccepts : e.Accepts s d u := by
    refine ⟨fun hitems => ?_, hpasses.unique, hpasses.reserved⟩
    rw [hu.items] at hitems
    cases hitems
  have hmade := update_of_accepts now ctx hd haccepts hpasses.form
  rwa [hmerged, hd.marked_applyUpdate] at hmade

/-- **Metadata can always be edited**: after every received run, under every setting and at every
time, each received update of an active vocabulary succeeds that sets neither its items nor its
unique field, field type or help text. The document found afterwards is the answer: the one before
with the fields of the update and the time of the change. It is also what the members of the update
read as when they are laid over those of the one before. The text layer need only read back what
the run and the update store. -/
theorem metadata_always_updated (e : Engine) (ops : List (Int64 × Operation))
    (hops : Received ops) (id : String) (r : Row) (hrow : (e.run ops ∅).get? id = some r)
    (hactive : r.deleted = 0) (u : VocabularyUpdate)
    (hreceived : ∃ j, VocabularyUpdate.ofJson? j = some u) (hu : u.OnlyMetadata) (now : Int64)
    (ctx : Context) (hkeeps : e.KeepsRun (ops ++ [(now, .update id u ctx)]) ∅) :
    ∃ d w, e.findOne id (e.run ops ∅) = .ok (some d) ∧
      (e.update now id u ctx (e.run ops ∅)).result = .ok w ∧
      e.findOne id (e.update now id u ctx (e.run ops ∅)).store = .ok (some w) ∧
      w = { d.applyUpdate u with updated := some now } ∧
      Vocabulary.ofJson? (({ d with updated := some now } : Vocabulary).toJson.merged u.toJson) =
        some w := by
  obtain ⟨hkeeps, hkeepsupdate⟩ := keepsRun_concat.1 hkeeps
  obtain ⟨d, hmirrors, hsound⟩ := run_sound hops hkeeps id r hrow
  obtain ⟨j, hj⟩ := hreceived
  have hwf : u.WellFormed := VocabularyUpdate.wellFormed_of_ofJson? hj
  have hd : Store.Active e.text (e.run ops ∅) id r d := ⟨hrow, hactive, hmirrors.read⟩
  have hmade := update_metadata now ctx hd hsound hu
  refine ⟨d, _, findOne_eq_some_iff.2 ⟨r, hd⟩, hmade.result, ?_, rfl, ?_⟩
  · obtain rfl := hd.id_eq
    have hkept : e.text.Keeps ((d.applyUpdate u).marked false r.created now) := by
      rw [← Vocabulary.updatedBy_of_no_items d hu.items]
      exact hkeepsupdate _ (.updated ⟨_, (hmade.map Answer.document).result, rfl⟩ ⟨rfl, rfl⟩ hd)
    have hfind : Store.find e.text (e.update now d.id u ctx (e.run ops ∅)).store d.id =
        .ok (some { d.applyUpdate u with updated := some now }) := by
      rw [hmade.store, ← hd.marked_applyUpdate]
      exact Store.find_of_row (v := d.applyUpdate u) (TextMap.get?_insert_self _ _ _) hkept
        (hmirrors.wellFormed.applyUpdate hwf)
    rw [findOne, hfind]
    rfl
  · have hwf' : ({ d with updated := some now } : Vocabulary).WellFormed := by
      rw [hd.eq_marked]
      exact hmirrors.wellFormed.marked false r.created now
    exact Vocabulary.ofJson?_merged hwf' hwf

/-- The update that gives the places another name and requires codes of them. -/
def townsWithCodes : VocabularyUpdate :=
  { VocabularyUpdate.blank with
    displayName := some "Towns"
    schema := some (Schema.ofList [("qcode", .ofRequired)]) }

/-- The places become towns although one of them lacks the code that is now required. -/
theorem places_renamed :
    ∃ w, ((ofConfig .default).update 2 "places" townsWithCodes .blank
        ((ofConfig .default).run placesCreated ∅)).result = .ok w ∧
      (ofConfig .default).findOne "places" ((ofConfig .default).update 2 "places" townsWithCodes
        .blank ((ofConfig .default).run placesCreated ∅)).store = .ok (some w) ∧
      w.displayName = "Towns" ∧ w.updated = some 2 ∧ ¬ w.CarriesRequired := by
  have hreceived : ∃ j, VocabularyUpdate.ofJson? j = some townsWithCodes :=
    ⟨townsWithCodes.toJson, by decide +kernel⟩
  have hlegible : townsWithCodes.Legible := by
    refine ⟨nofun, fun s hs => ?_, nofun, nofun⟩
    cases hs
    rfl
  have hkeeps : (ofConfig .default).KeepsRun
      (placesCreated ++ [(2, .update "places" townsWithCodes .blank)]) ∅ :=
    keepsRun_creationOf_concat wellFormed_places legible_places hreceived hlegible
  obtain ⟨d, w, hfound, hresult, hafter, rfl, -⟩ := metadata_always_updated (ofConfig .default)
    placesCreated received_placesCreated "places" _ active_places.row rfl townsWithCodes hreceived
    ⟨rfl, rfl, rfl, rfl⟩ 2 .blank hkeeps
  obtain ⟨r, hd⟩ := findOne_eq_some_iff.1 hfound
  obtain ⟨-, rfl⟩ := active_places.unique hd
  refine ⟨_, hresult, hafter, rfl, rfl, fun hcarries => ?_⟩
  have hcode := hcarries ("qcode", .ofRequired) (List.mem_singleton_self _) rfl
    { Item.blank with name := some "Troy", isActive := some false } (by decide)
  cases hcode

end Engine

end Newsroom
