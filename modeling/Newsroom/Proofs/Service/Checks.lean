import Newsroom.Proofs.Service.Rules
import Newsroom.Service.Lifecycle

/-!
# What the checks of a write ask

A document passes as a whole (`Engine.Admits`) or as what an update leads to (`Engine.Accepts`).
Each check of the service has one lemma that says what its success comes to; a check that changes
its document says there how.
-/

namespace Newsroom

/-! ### Errors of other layers -/

@[simp] theorem fromStore_ok {α : Type} (a : α) :
    fromStore (.ok a : Except StoreError α) = .ok a := rfl

@[simp] theorem fromStore_error {α : Type} (err : StoreError) :
    fromStore (.error err : Except StoreError α) = .error (.ofStore err) := rfl

@[simp] theorem fromStore_eq_ok_iff {α : Type} {r : Except StoreError α} {a : α} :
    fromStore r = .ok a ↔ r = .ok a := by
  cases r <;> simp

@[simp] theorem fromCheck_ok {α : Type} (a : α) :
    fromCheck (.ok a : Except ValidationError α) = .ok a := rfl

@[simp] theorem fromCheck_error {α : Type} (err : ValidationError) :
    fromCheck (.error err : Except ValidationError α) = .error (.validation err) := rfl

@[simp] theorem fromCheck_eq_ok_iff {α : Type} {r : Except ValidationError α} {a : α} :
    fromCheck r = .ok a ↔ r = .ok a := by
  cases r <;> simp

namespace Engine

variable (e : Engine)

/-- The document passes every check of a whole document. -/
structure Admits (s : Store) (v : Vocabulary) : Prop where
  valid : (e.validate s v).result = .ok ()
  unique : checkUnique v.uniqueField v.items = .ok ()
  reserved : e.checkReserved v = .ok ()

/-- What the update leads to passes every check of an update: items are validated only when the
update carries items. -/
structure Accepts (s : Store) (v : Vocabulary) (u : VocabularyUpdate) : Prop where
  valid : u.items.isSome → (e.validate s (v.updatedBy u)).result = .ok ()
  unique : checkUnique (v.updatedBy u).uniqueField (v.updatedBy u).items = .ok ()
  reserved : e.checkReserved (v.updatedBy u) = .ok ()

/-- The batch passes: its keys are distinct and free, and every document passes on its own. -/
structure AdmitsBatch (s : Store) (docs : List Vocabulary) : Prop where
  distinct : (docs.map Vocabulary.id).Nodup
  free : ∀ d ∈ docs, s.get? d.id = none
  admitted : ∀ d ∈ docs, e.Admits s d.withUniqueDefault

variable {e} {s : Store} {v : Vocabulary}

/-! ### Whole documents -/

theorem checkReserved_eq_ok_iff :
    e.checkReserved v = .ok () ↔ (v.custom = true → e.reserved.contains v.id = false) := by
  rw [checkReserved]
  cases v.custom <;> cases e.reserved.contains v.id <;> simp

/-- The check for reserved keys looks at key and field type only. -/
theorem checkReserved_congr {w : Vocabulary} (hid : v.id = w.id)
    (htype : v.fieldType = w.fieldType) :
    e.checkReserved v = .ok () ↔ e.checkReserved w = .ok () := by
  rw [checkReserved_eq_ok_iff, checkReserved_eq_ok_iff, Vocabulary.custom, Vocabulary.custom, hid,
    htype]

/-- A candidate passes when it is in form and its items follow the rules of its schema. -/
theorem validate_eq_ok_iff : (e.validate s v).result = .ok () ↔
    v.validateShape = .ok () ∧ v.FollowsRules e.text s := by
  rw [validate, Traced.bind_result_ok_iff, ← validateItems_eq_ok_iff]
  constructor
  · rintro ⟨_, hshape, hitems⟩
    exact ⟨fromCheck_eq_ok_iff.1 hshape, hitems⟩
  · rintro ⟨hshape, hitems⟩
    exact ⟨(), fromCheck_eq_ok_iff.2 hshape, hitems⟩

theorem Admits.validateShape (h : e.Admits s v) : v.validateShape = .ok () :=
  (validate_eq_ok_iff.1 h.valid).1

/-- The checks of a whole document: its form, its items, its unique field and its key. -/
theorem admits_iff : e.Admits s v ↔
    v.validateShape = .ok () ∧ v.FollowsRules e.text s ∧
      checkUnique v.uniqueField v.items = .ok () ∧ e.checkReserved v = .ok () := by
  constructor
  · intro h
    obtain ⟨hshape, hitems⟩ := validate_eq_ok_iff.1 h.valid
    exact ⟨hshape, hitems, h.unique, h.reserved⟩
  · rintro ⟨hshape, hitems, hunique, hreserved⟩
    exact ⟨validate_eq_ok_iff.2 ⟨hshape, hitems⟩, hunique, hreserved⟩

theorem checkFull_eq_ok_iff : (e.checkFull s v).result = .ok () ↔ e.Admits s v := by
  rw [checkFull, Traced.bind_result_ok_iff]
  constructor
  · rintro ⟨_, hvalid, h⟩
    obtain ⟨_, hunique, hreserved⟩ := Traced.bind_result_ok_iff.1 h
    exact ⟨hvalid, fromCheck_eq_ok_iff.1 hunique, hreserved⟩
  · rintro ⟨hvalid, hunique, hreserved⟩
    exact ⟨(), hvalid,
      Traced.bind_result_ok_iff.2 ⟨(), fromCheck_eq_ok_iff.2 hunique, hreserved⟩⟩

theorem checkNew_eq_ok_iff : (e.checkNew s v).result = .ok () ↔
    e.Admits s v ∧ e.checkNotDeleted s v = .ok () := by
  rw [checkNew, Traced.bind_result_ok_iff]
  constructor
  · rintro ⟨_, hvalid, h⟩
    obtain ⟨_, hunique, h⟩ := Traced.bind_result_ok_iff.1 h
    obtain ⟨_, hreserved, hfree⟩ := Traced.bind_result_ok_iff.1 h
    exact ⟨⟨hvalid, fromCheck_eq_ok_iff.1 hunique, hreserved⟩, hfree⟩
  · rintro ⟨⟨hvalid, hunique, hreserved⟩, hfree⟩
    exact ⟨(), hvalid, Traced.bind_result_ok_iff.2 ⟨(), fromCheck_eq_ok_iff.2 hunique,
      Traced.bind_result_ok_iff.2 ⟨(), hreserved, hfree⟩⟩⟩

theorem checkBatch_cons (d : Vocabulary) (ds : List Vocabulary) : e.checkBatch s (d :: ds) =
    match (e.checkNew s d.withUniqueDefault).result with
    | .error err =>
      ⟨d.withUniqueDefault :: ds, ⟨.error err, (e.checkNew s d.withUniqueDefault).journal⟩⟩
    | .ok _ =>
      ⟨d.withUniqueDefault :: (e.checkBatch s ds).documents,
        ⟨(e.checkBatch s ds).traced.result,
          (e.checkNew s d.withUniqueDefault).journal ++ (e.checkBatch s ds).traced.journal⟩⟩ := by
  delta checkBatch
  rfl

/-- A batch passes when every document does, with the default of its unique field. -/
theorem checkBatch_eq_ok_iff {docs : List Vocabulary} :
    (e.checkBatch s docs).traced.result = .ok () ↔ ∀ d ∈ docs,
      e.Admits s d.withUniqueDefault ∧ e.checkNotDeleted s d.withUniqueDefault = .ok () := by
  induction docs with
  | nil => exact iff_of_true rfl (List.forall_mem_nil _)
  | cons d ds ih =>
    rw [checkBatch_cons, List.forall_mem_cons, ← checkNew_eq_ok_iff, ← ih]
    cases hfirst : (e.checkNew s d.withUniqueDefault).result with
    | error err => simp
    | ok _ => simp

/-- A batch that passes has the default of the unique field in every document. -/
theorem documents_checkBatch {docs : List Vocabulary}
    (h : (e.checkBatch s docs).traced.result = .ok ()) :
    (e.checkBatch s docs).documents = docs.map Vocabulary.withUniqueDefault := by
  induction docs with
  | nil => rfl
  | cons d ds ih =>
    rw [checkBatch_cons] at h ⊢
    cases hfirst : (e.checkNew s d.withUniqueDefault).result with
    | error err =>
      rw [hfirst] at h
      cases h
    | ok _ =>
      rw [hfirst] at h
      rw [List.map_cons, ← ih h]

/-- A key without a row is not that of a deleted vocabulary. -/
theorem checkNotDeleted_of_none (h : s.get? v.id = none) : e.checkNotDeleted s v = .ok () := by
  simp [checkNotDeleted, Store.findDeleted, Store.findWith, h]

/-- A replacement passes when it has the key of the stored document and is a valid document. -/
theorem checkReplacement_eq_ok_iff {now : Int64} {stored : Vocabulary} :
    (e.checkReplacement now s v stored).traced.result = .ok () ↔
      v.id = stored.id ∧ e.Admits s v.withUniqueDefault := by
  rw [checkReplacement, ← checkFull_eq_ok_iff]
  by_cases hid : v.id = stored.id
  · rw [if_neg (not_not_intro hid), and_iff_right hid]
    cases hcheck : (e.checkFull s v.withUniqueDefault).result with
    | error err => simp only [hcheck, reduceCtorEq]
    | ok _ => simp only [hcheck]
  · rw [if_pos hid]
    refine ⟨?_, fun h => absurd h.1 hid⟩
    rintro ⟨⟩

/-- A replacement that passes is stamped. -/
theorem value_checkReplacement {now : Int64} {stored : Vocabulary}
    (h : (e.checkReplacement now s v stored).traced.result = .ok ()) :
    (e.checkReplacement now s v stored).value = v.inPlaceOf stored now := by
  obtain ⟨hid, hadmits⟩ := checkReplacement_eq_ok_iff.1 h
  rw [checkReplacement, if_neg (not_not_intro hid)]
  simp only [checkFull_eq_ok_iff.2 hadmits]
  rfl

/-! ### Updates -/

/-- Writing back the default of the unique field makes the store's own merge agree with the
document that was checked. -/
theorem applyUpdate_writeBackUnique (v : Vocabulary) (u : VocabularyUpdate) :
    v.applyUpdate (writeBackUnique u v (v.applyUpdate u).withUniqueDefault) =
      (v.applyUpdate u).withUniqueDefault := by
  cases hv : v.uniqueField with
  | none =>
    cases hu : u.uniqueField with
    | none =>
      refine Eq.trans ?_ (Vocabulary.withUniqueDefault_eq (v.applyUpdate u)).symm
      simp only [writeBackUnique, Vocabulary.applyUpdate, hv, hu, Option.isNone_none, Bool.and_self,
        if_true, Option.or_none]
    | some f =>
      have hsome : (v.applyUpdate u).uniqueField.isSome := by
        simp [Vocabulary.applyUpdate, hu]
      rw [writeBackUnique, hv, hu]
      exact (Vocabulary.withUniqueDefault_of_isSome hsome).symm
  | some f =>
    have hsome : (v.applyUpdate u).uniqueField.isSome := by
      simp [Vocabulary.applyUpdate, hv]
    rw [writeBackUnique, hv]
    exact (Vocabulary.withUniqueDefault_of_isSome hsome).symm

/-- With items, what an update leads to must pass every check of a whole document. -/
theorem accepts_iff_admits {u : VocabularyUpdate} (h : u.items.isSome = true) :
    e.Accepts s v u ↔ e.Admits s (v.updatedBy u) :=
  ⟨fun haccepts => ⟨haccepts.valid h, haccepts.unique, haccepts.reserved⟩,
    fun hadmits => ⟨fun _ => hadmits.valid, hadmits.unique, hadmits.reserved⟩⟩

/-- The default of the unique field does not matter to the check for reserved keys. -/
theorem checkReserved_updatedBy {u : VocabularyUpdate} :
    e.checkReserved (v.updatedBy u) = .ok () ↔ e.checkReserved (v.applyUpdate u) = .ok () := by
  cases hitems : u.items with
  | none => rw [Vocabulary.updatedBy_of_no_items v hitems]
  | some items =>
    rw [Vocabulary.updatedBy_of_items v (by rw [hitems]; rfl)]
    exact checkReserved_congr (Vocabulary.id_withUniqueDefault _)
      (Vocabulary.fieldType_withUniqueDefault _)

/-- The check of an update asks what it should ask. -/
theorem checkUpdate_eq_ok_iff {u : VocabularyUpdate} :
    (e.checkUpdate s u v).traced.result = .ok () ↔ e.Accepts s v u := by
  rw [checkUpdate]
  cases hreserved : e.checkReserved (v.applyUpdate u) with
  | error err =>
    constructor
    · rintro ⟨⟩
    · intro haccepts
      rw [checkReserved_updatedBy.1 haccepts.reserved] at hreserved
      cases hreserved
  | ok _ =>
    have hreserved' : e.checkReserved (v.updatedBy u) = .ok () :=
      checkReserved_updatedBy.2 hreserved
    dsimp only
    cases hitems : u.items with
    | none =>
      have hmerged : v.updatedBy u = v.applyUpdate u := Vocabulary.updatedBy_of_no_items v hitems
      have hvalues : (v.updatedBy u).items = v.items := by
        rw [Vocabulary.items_updatedBy, hitems, Option.getD_none]
      refine fromCheck_eq_ok_iff.trans ⟨fun hunique => ⟨fun hsome => ?_, ?_, hreserved'⟩,
        fun haccepts => ?_⟩
      · rw [hitems] at hsome
        cases hsome
      · rwa [hvalues, hmerged]
      · have hunique := haccepts.unique
        rwa [hvalues, hmerged] at hunique
    | some items =>
      have hsome : u.items.isSome = true := by rw [hitems]; rfl
      have hmerged := Vocabulary.updatedBy_of_items v hsome
      have hvalues : (v.updatedBy u).items = items := by
        rw [Vocabulary.items_updatedBy, hitems, Option.getD_some]
      dsimp only
      rw [← hmerged, accepts_iff_admits hsome]
      cases hvalid : (e.validate s (v.updatedBy u)).result with
      | error err =>
        constructor
        · rintro ⟨⟩
        · intro hadmits
          rw [hadmits.valid] at hvalid
          cases hvalid
      | ok _ =>
        refine fromCheck_eq_ok_iff.trans ⟨fun hunique => ⟨hvalid, ?_, hreserved'⟩,
          fun hadmits => ?_⟩
        · rwa [hvalues]
        · have hunique := hadmits.unique
          rwa [hvalues] at hunique

/-- An update that passes leads to what was checked. -/
theorem applyUpdate_value_checkUpdate {u : VocabularyUpdate}
    (h : (e.checkUpdate s u v).traced.result = .ok ()) :
    v.applyUpdate (e.checkUpdate s u v).value = v.updatedBy u := by
  have haccepts := checkUpdate_eq_ok_iff.1 h
  rw [checkUpdate, checkReserved_updatedBy.1 haccepts.reserved]
  dsimp only
  cases hitems : u.items with
  | none => exact (Vocabulary.updatedBy_of_no_items v hitems).symm
  | some items =>
    have hsome : u.items.isSome = true := by rw [hitems]; rfl
    have hmerged := Vocabulary.updatedBy_of_items v hsome
    dsimp only
    rw [← hmerged, haccepts.valid hsome, hmerged]
    exact applyUpdate_writeBackUnique v u

end Engine

end Newsroom
