import Newsroom.Proofs.Store.TextLayer

/-!
# What is written reads back

A document that was read from JSON is found in the store as it was given, whatever its items carry
and however its schema is ordered; only the deletion flag and missing timestamps are those of the
row. A patch is answered with the document that is found afterwards (`Store.find_written`). Nothing
is asked of the other rows, and of the text layer only that it reads back the document in question,
which compact JSON does unless the document nests too deep or has a double that does not survive
printing.
-/

namespace Newsroom

/-- What a row reads as is well-formed but for the marks of the row. -/
theorem Row.exists_wellFormed {t : TextLayer} {id : String} {r : Row} {v : Vocabulary}
    (h : r.vocabulary t id = .ok v) :
    ∃ w : Vocabulary, w.WellFormed ∧ ∃ deleted, v = w.marked deleted r.created r.updated := by
  obtain ⟨w, hread, -, hmarks⟩ := vocabulary_eq_ok_iff.1 h
  obtain ⟨j, -, hj⟩ := Option.bind_eq_some_iff.1 hread
  refine ⟨w, Vocabulary.wellFormed_of_ofJson? hj, ?_⟩
  obtain ⟨-, hv⟩ | ⟨-, hv⟩ := hmarks
  · exact ⟨false, hv⟩
  · exact ⟨true, hv⟩

namespace Store

variable {t : TextLayer} {now : Int64} {s s' : Store} {id : String} {v w : Vocabulary}
  {u : VocabularyUpdate}

/-- A document that was written to its row is found there. -/
theorem find_of_row {created updated : Int64}
    (hrow : s.get? v.id = some (Row.written t v created updated))
    (hkeeps : t.Keeps (v.marked false created updated)) (hv : v.WellFormed) :
    find t s v.id = .ok (some (v.marked false created updated)) :=
  find_eq_some_iff.2 ⟨_, hrow, rfl, Row.vocabulary_written hkeeps hv⟩

theorem find_insertAll {docs : List Vocabulary} {ids : List String}
    (hmem : v ∈ docs) (hv : ∃ j, Vocabulary.ofJson? j = some v) (hkeeps : t.Keeps (stamped now v))
    (h : insertAll t now s docs = .ok (ids, s')) :
    find t s' v.id = .ok (some (stamped now v)) := by
  obtain ⟨hdistinct, -, -, rfl⟩ := insertAll_eq_ok_iff.1 h
  obtain ⟨j, hj⟩ := hv
  exact find_of_row (get?_withRows_of_mem hdistinct hmem) hkeeps
    (Vocabulary.wellFormed_of_ofJson? hj)

theorem find_replace (hv : ∃ j, Vocabulary.ofJson? j = some v)
    (hkeeps : t.Keeps (stamped now v)) (h : replace t now s v = .ok s') :
    find t s' v.id = .ok (some (stamped now v)) := by
  obtain ⟨-, r, -, -, rfl⟩ := replace_eq_ok_iff.1 h
  obtain ⟨j, hj⟩ := hv
  exact find_of_row (TextMap.get?_insert_self _ _ _) hkeeps (Vocabulary.wellFormed_of_ofJson? hj)

theorem find_patch (hu : ∃ j, VocabularyUpdate.ofJson? j = some u) (hkeeps : t.Keeps w)
    (h : patch t now s id u = .ok (w, s')) : find t s' id = .ok (some w) := by
  obtain ⟨r, v, hv, -, rfl, rfl⟩ := patch_eq_ok_iff.1 h
  obtain ⟨j, hj⟩ := hu
  -- the update goes over a well-formed document; the marks of the row are replaced afterwards
  obtain ⟨w, hw, deleted, rfl⟩ := Row.exists_wellFormed hv.read
  have hwf : (w.applyUpdate u).WellFormed :=
    hw.applyUpdate (VocabularyUpdate.wellFormed_of_ofJson? hj)
  obtain rfl := hv.id_eq
  exact find_of_row (v := w.applyUpdate u) (TextMap.get?_insert_self _ _ _) hkeeps hwf

/-- **What is written reads back**: in every store, after a document that was read from JSON was
added with a batch or has replaced another, it is found under its key just as it was given, except
that it is active and that missing timestamps are set to the clock reading. After a patch by an
update that was read from JSON, what is found under the key is the answer of the patch. The text
layer need only read back the document that was written. -/
theorem find_written (t : TextLayer) (now : Int64) (s : Store) :
    (∀ docs ids s' v, v ∈ docs → (∃ j, Vocabulary.ofJson? j = some v) →
      t.Keeps (stamped now v) → insertAll t now s docs = .ok (ids, s') →
      find t s' v.id = .ok (some { v with
        deleted := false
        created := some (v.created.getD now)
        updated := some (v.updated.getD now) })) ∧
    (∀ v s', (∃ j, Vocabulary.ofJson? j = some v) →
      t.Keeps (stamped now v) → replace t now s v = .ok s' →
      find t s' v.id = .ok (some { v with
        deleted := false
        created := some (v.created.getD now)
        updated := some (v.updated.getD now) })) ∧
    ∀ id u w s', (∃ j, VocabularyUpdate.ofJson? j = some u) →
      t.Keeps w → patch t now s id u = .ok (w, s') → find t s' id = .ok (some w) := by
  refine ⟨fun docs ids s' v hmem hv hkeeps h => ?_, fun v s' hv hkeeps h => ?_,
    fun id u w s' hu hkeeps h => ?_⟩
  · exact find_insertAll hmem hv hkeeps h
  · exact find_replace hv hkeeps h
  · exact find_patch hu hkeeps h

/-- A gazetteer whose one item has values of unexpected types under known fields, and whose fields
are declared out of order. It is given as deleted and without the time of its last change. -/
def gazetteer : Vocabulary :=
  { Vocabulary.new "gazetteer" "Gazetteer" .manageable with
    items := [{ Item.blank with
      qcode := some "1"
      extra := TextMap.ofList
        [("name", .array [.null]), ("is_active", .string "yes"), ("kind", .object [])] }]
    schema := Schema.ofList [("qcode", .ofRequired), ("kind", .ofLink "kinds" "name")]
    service := some (TextMap.ofList [("all", -1)])
    deleted := true
    created := some 3 }

/-- The update that renames it and leaves it without items and fields. -/
def renamed : VocabularyUpdate :=
  { VocabularyUpdate.blank with
    displayName := some "Atlas"
    items := some []
    schema := some ∅ }

/-- The gazetteer as it is stored. -/
def storedGazetteer : Vocabulary := gazetteer.marked false 3 7

theorem received_gazetteer : Vocabulary.ofJson? gazetteer.toJson = some gazetteer := by
  decide +kernel

theorem keeps_gazetteer : TextLayer.json.Keeps storedGazetteer :=
  TextLayer.keeps_json_iff.2 (Vocabulary.legible_toJson_iff.1 (by decide +kernel))

/-- The gazetteer is found as it was given after it was added and after it replaced itself, and its
renaming is answered with what is found. -/
theorem gazetteer_read_back : ∃ s₁ s₂ w s₃,
    insertAll .json 7 ∅ [gazetteer] = .ok (["gazetteer"], s₁) ∧
    find .json s₁ "gazetteer" = .ok (some storedGazetteer) ∧
    replace .json 7 s₁ gazetteer = .ok s₂ ∧
    find .json s₂ "gazetteer" = .ok (some storedGazetteer) ∧
    patch .json 7 s₁ "gazetteer" renamed = .ok (w, s₃) ∧
    find .json s₃ "gazetteer" = .ok (some w) ∧ w.displayName = "Atlas" := by
  have hreceived : ∃ j, Vocabulary.ofJson? j = some gazetteer := ⟨_, received_gazetteer⟩
  have hshape : gazetteer.validateShape = .ok () := rfl
  have hmade : insertAll .json 7 ∅ [gazetteer] =
      .ok (["gazetteer"], withRows .json 7 ∅ [gazetteer]) :=
    insertAll_eq_ok_iff.2 ⟨by decide, List.forall_mem_singleton.2 ⟨hshape, rfl⟩, rfl, rfl⟩
  obtain ⟨hinsert, -, -⟩ := find_written .json 7 ∅
  have hfound : find .json (withRows .json 7 ∅ [gazetteer]) "gazetteer" =
      .ok (some storedGazetteer) :=
    hinsert _ _ _ gazetteer (List.mem_singleton_self _) hreceived keeps_gazetteer hmade
  obtain ⟨r, hactive⟩ := find_eq_some_iff.1 hfound
  obtain rfl : r = Row.written .json gazetteer 3 7 := Option.some.inj (hactive.row.symm.trans rfl)
  obtain ⟨-, hreplace, hpatch⟩ :=
    find_written .json 7 (withRows .json 7 ∅ [gazetteer])
  have hreplaced : replace .json 7 (withRows .json 7 ∅ [gazetteer]) gazetteer = .ok
      (TextMap.insert (withRows .json 7 ∅ [gazetteer]) "gazetteer"
        (.written .json gazetteer 3 7)) :=
    replace_eq_ok_iff.2 ⟨hshape, _, hactive.row, rfl, rfl⟩
  have hpatched : patch .json 7 (withRows .json 7 ∅ [gazetteer]) "gazetteer" renamed = .ok
      ((storedGazetteer.applyUpdate renamed).marked false 3 7,
        TextMap.insert (withRows .json 7 ∅ [gazetteer]) "gazetteer"
          (.written .json (storedGazetteer.applyUpdate renamed) 3 7)) :=
    patch_eq_ok_iff.2 ⟨_, _, hactive, rfl, rfl, rfl⟩
  refine ⟨_, _, _, _, hmade, hfound, hreplaced, ?_, hpatched, ?_, rfl⟩
  · exact hreplace gazetteer _ hreceived keeps_gazetteer hreplaced
  · have hrenamed : ∃ j, VocabularyUpdate.ofJson? j = some renamed :=
      ⟨.object [("display_name", .string "Atlas"), ("items", .array []), ("schema", .object [])],
        by decide +kernel⟩
    have hkept : TextLayer.json.Keeps ((storedGazetteer.applyUpdate renamed).marked false 3 7) :=
      TextLayer.keeps_json_iff.2 (Vocabulary.legible_toJson_iff.1 (by decide +kernel))
    exact hpatch _ renamed _ _ hrenamed hkept hpatched

end Store

end Newsroom
