import Newsroom.Proofs.Service.History
import Newsroom.Proofs.Service.Received

/-!
# Protected vocabularies

Only custom vocabularies may be deleted, and a custom vocabulary must not have a reserved key. No
run gets around it: under a reserved key no row ever has a field type, neither in its column nor
in its document, so no row there is ever deleted. Of the text layer this asks only that it keeps
field types.
-/

namespace Newsroom

namespace Engine

/-- A key is reserved as a built-in field or by the settings. -/
theorem reserved_contains_iff (e : Engine) (id : String) : e.reserved.contains id = true ↔
    id ∈ articleFields ∨ id ∈ editorFields ∨ id ∈ e.config.extraReservedKeys := by
  rw [reserved, Config.reserved, ReservedKeys.contains_withKeys, ReservedKeys.builtin,
    ReservedKeys.contains_withKeys]
  have hempty : ReservedKeys.empty.contains id = false := rfl
  simp [hempty, or_assoc]

/-- What holds of the field type of every stored row. -/
structure RowProtected (e : Engine) (id : String) (r : Row) : Prop where
  /-- There is none under a reserved key. -/
  reserved : e.reserved.contains id = true → r.fieldType = none
  /-- The document has the same as the column. -/
  column : ∀ w, (e.text.read r.document).bind Vocabulary.ofJson? = some w →
    w.fieldType = r.fieldType
  /-- A deleted row has a document with one. -/
  deleted : r.deleted ≠ 0 → ∃ v, r.vocabulary e.text id = .ok v ∧ v.custom = true

variable {e : Engine} {now : Int64} {op : Operation} {s : Store} {id : String} {r : Row}
  {v : Vocabulary} {result : Except ServiceError Answer}

theorem RowProtected.fieldType_eq (h : e.RowProtected id r)
    (hread : r.vocabulary e.text id = .ok v) : v.fieldType = r.fieldType := by
  obtain ⟨w, hw, -, ⟨-, rfl⟩ | ⟨-, rfl⟩⟩ := Row.vocabulary_eq_ok_iff.1 hread
  · exact h.column w hw
  · exact h.column w hw

/-- A document without a reserved key, or without a field type, may be written. -/
theorem rowProtected_written (ht : e.text.KeepsFieldTypes) (h : e.checkReserved v = .ok ())
    (created updated : Int64) : e.RowProtected v.id (Row.written e.text v created updated) where
  reserved := by
    intro hreserved
    show v.fieldType = none
    cases htype : v.fieldType with
    | none => rfl
    | some f =>
      have hcustom : v.custom = true := by rw [Vocabulary.custom, htype]; rfl
      rw [checkReserved_eq_ok_iff.1 h hcustom] at hreserved
      cases hreserved
  column := by
    intro w hw
    exact ht (v.marked false created updated) w hw
  deleted := fun hdeleted => absurd rfl hdeleted

/-- Every step keeps every row protected. -/
theorem RowStep.rowProtected (ht : e.text.KeepsFieldTypes) {before after : Option Row}
    (h : e.RowStep now op s id result before after) (hbefore : ∀ r ∈ before, e.RowProtected id r) :
    ∀ r ∈ after, e.RowProtected id r := by
  cases h with
  | kept => exact hbefore
  | created _ _ hid hadmits =>
    rintro _ ⟨⟩
    rw [← hid, ← Vocabulary.id_withUniqueDefault]
    exact rowProtected_written ht hadmits.reserved _ _
  | replaced _ _ hid _ hadmits =>
    rintro _ ⟨⟩
    rw [← hid, ← Vocabulary.id_withUniqueDefault]
    exact rowProtected_written ht hadmits.reserved _ _
  | @updated v u _ _ _ _ hread haccepts =>
    rintro _ ⟨⟩
    have hid : (v.updatedBy u).id = id :=
      (Vocabulary.id_updatedBy v u).trans (Row.id_of_vocabulary hread)
    rw [← hid]
    exact rowProtected_written ht haccepts.reserved _ _
  | @deleted v r _ _ _ hread hcustom =>
    rintro _ ⟨⟩
    have hprotected := hbefore r rfl
    exact {
      reserved := hprotected.reserved
      column := hprotected.column
      deleted := fun _ => ⟨_, Row.vocabulary_deletedAt hread now, hcustom⟩ }

theorem run_rowProtected (ht : e.text.KeepsFieldTypes) (ops : List (Int64 × Operation)) :
    ∀ id, ∀ r ∈ (e.run ops ∅).get? id, e.RowProtected id r := by
  refine e.run_invariant (I := fun s => ∀ id, ∀ r ∈ s.get? id, e.RowProtected id r) ?_ ?_
  · intro id r hr
    cases hr
  · rintro ⟨now, op⟩ - s hs id
    exact (e.perform_rowStep now op s id).rowProtected ht (hs id)

/-- What is not custom cannot be deleted. -/
theorem delete_protected (h : ∀ r ∈ s.get? id, ∀ v, r.vocabulary e.text id = .ok v →
    v.custom = false) (now : Int64) :
    ∃ err, (e.delete now id s).result = .error err ∧ (e.delete now id s).store = s := by
  rcases e.delete_cases now id s with ⟨-, hfails⟩ | ⟨r, v, hv, hcustom, -⟩
  · obtain ⟨err, herr⟩ := hfails.result
    exact ⟨err, herr, hfails.store⟩
  · rw [h r hv.row v hv.read] at hcustom
    cases hcustom

/-- **Protected vocabularies**: over every run from the empty store, a row under a reserved key
never has a field type, neither in its column nor in its document, is never deleted and cannot be
deleted; and every deleted row has a document with a field type. -/
theorem run_protects_reserved (e : Engine) (ht : e.text.KeepsFieldTypes)
    (ops : List (Int64 × Operation)) (id : String) (r : Row)
    (h : (e.run ops ∅).get? id = some r) :
    (id ∈ articleFields ∨ id ∈ editorFields ∨ id ∈ e.config.extraReservedKeys →
      r.fieldType = none ∧ (∀ v, r.vocabulary e.text id = .ok v → v.fieldType = none) ∧
      r.deleted = 0 ∧
      ∀ now, ∃ err, (e.delete now id (e.run ops ∅)).result = .error err ∧
        (e.delete now id (e.run ops ∅)).store = e.run ops ∅) ∧
    (r.deleted ≠ 0 → ∃ v, r.vocabulary e.text id = .ok v ∧ v.fieldType.isSome = true ∧
      r.fieldType = v.fieldType) := by
  have hprotected := run_rowProtected ht ops id r h
  constructor
  · intro hreserved
    have htype := hprotected.reserved ((e.reserved_contains_iff id).2 hreserved)
    have hdocument : ∀ v, r.vocabulary e.text id = .ok v → v.fieldType = none := fun v hread =>
      (hprotected.fieldType_eq hread).trans htype
    refine ⟨htype, hdocument, ?_, ?_⟩
    · by_cases hdeleted : r.deleted = 0
      · exact hdeleted
      · obtain ⟨v, hread, hcustom⟩ := hprotected.deleted hdeleted
        rw [Vocabulary.custom, hdocument v hread] at hcustom
        cases hcustom
    · refine delete_protected fun r' hr' v hread => ?_
      obtain rfl : r = r' := Option.some.inj (h.symm.trans hr')
      rw [Vocabulary.custom, hdocument v hread]
      rfl
  · intro hdeleted
    obtain ⟨v, hread, hcustom⟩ := hprotected.deleted hdeleted
    exact ⟨v, hread, hcustom, (hprotected.fieldType_eq hread).symm⟩

/-- The update that makes a vocabulary custom. -/
def customText : VocabularyUpdate := { VocabularyUpdate.blank with fieldType := some "text" }

/-- The keywords can neither be made custom nor be deleted. -/
theorem keywords_protected : ∃ r, ((ofConfig .default).run
    ([(1, .create [.new "keywords" "Keywords" .manageable] .blank)] ++
      [(2, .update "keywords" customText .blank), (3, .delete "keywords")]) ∅).get? "keywords" =
      some r ∧ r.fieldType = none ∧ r.deleted = 0 := by
  have hcreated : (((ofConfig .default).run
      [(1, .create [.new "keywords" "Keywords" .manageable] .blank)] ∅).get?
        "keywords").isSome = true := by decide +kernel
  obtain ⟨r₁, hr₁⟩ := Option.isSome_iff_exists.1 hcreated
  obtain ⟨r, hr, -⟩ := (ofConfig .default).run_continues
    [(2, .update "keywords" customText .blank), (3, .delete "keywords")] hr₁
  rw [← run_append] at hr
  obtain ⟨htype, -, hdeleted, -⟩ := (run_protects_reserved (ofConfig .default)
    TextLayer.keepsFieldTypes_json _ "keywords" r hr).1 (.inl (by decide))
  exact ⟨r, hr, htype, hdeleted⟩

end Engine

end Newsroom
