import Newsroom.Proofs.Service.Checks
import Newsroom.Proofs.Store.Rows
import Newsroom.Service.Operation

/-!
# What an operation comes to

An operation fails, and then the store is as it was and nothing is published (`Outcome.Fails`), or
it succeeds with an answer, a store and events (`Outcome.Succeeds`). Each operation has one lemma,
named `…_cases`, that says when it does which. What is said elsewhere about the operations is
derived from these lemmas, without looking into the operations again.

Checks publish nothing (`Traced.Silent`), so the events of an operation are those that it publishes
after its write.
-/

namespace Newsroom

/-- The event that a vocabulary changed. -/
def Notice.about (change : Change) (ctx : Context) (v : Vocabulary) : Notice :=
  ⟨change, v.displayName, ctx.user, v.id⟩

namespace Outcome

variable {α β : Type}

/-- The operation has failed: the store is as it was, and nothing is published. -/
structure Fails (o : Outcome α) (s : Store) : Prop where
  result : ∃ err, o.result = .error err
  store : o.store = s
  notices : o.journal.notices = []

/-- The operation has succeeded with the answer, the store and the events. -/
structure Succeeds (o : Outcome α) (a : α) (s : Store) (notices : List Notice) : Prop where
  result : o.result = .ok a
  store : o.store = s
  notices : o.journal.notices = notices

theorem Fails.result_ne {o : Outcome α} {s : Store} (h : o.Fails s) (a : α) : o.result ≠ .ok a := by
  obtain ⟨err, herr⟩ := h.result
  rw [herr]
  exact nofun

theorem Fails.map {o : Outcome α} {s : Store} (h : o.Fails s) (f : α → β) :
    (o.map f).Fails s := by
  obtain ⟨err, herr⟩ := h.result
  exact ⟨⟨err, by rw [Outcome.map, herr]; rfl⟩, h.store, h.notices⟩

theorem Succeeds.map {o : Outcome α} {a : α} {s : Store} {notices : List Notice}
    (h : o.Succeeds a s notices) (f : α → β) : (o.map f).Succeeds (f a) s notices :=
  ⟨by rw [Outcome.map, h.result]; rfl, h.store, h.notices⟩

end Outcome

/-! ### Checks publish nothing -/

namespace Traced

variable {α β : Type}

/-- Nothing is published on the way to the answer. -/
def Silent (x : Traced α) : Prop := x.journal.notices = []

theorem silent_lift (r : Except ServiceError α) : (lift r).Silent := rfl

theorem Silent.bind {x : Traced α} {f : α → Traced β} (hx : x.Silent) (hf : ∀ a, (f a).Silent) :
    (x >>= f).Silent := by
  cases h : x.result with
  | error err =>
    rw [Silent, bind_of_error h]
    exact hx
  | ok a =>
    rw [Silent, bind_of_ok h]
    show Journal.notices (x.journal ++ (f a).journal) = []
    rw [Journal.notices_append, hx, hf a]
    rfl

end Traced

namespace Engine

variable {e : Engine} {now : Int64} {s : Store} {id : String} {v : Vocabulary}
  {u : VocabularyUpdate} {ctx : Context}

theorem silent_validateItems : (e.validateItems s v).Silent := by
  rw [validateItems]
  split
  · exact Traced.silent_lift _
  · split <;> rfl

theorem silent_validate : (e.validate s v).Silent :=
  (Traced.silent_lift _).bind fun _ => silent_validateItems

theorem silent_checkFull : (e.checkFull s v).Silent :=
  silent_validate.bind fun _ => (Traced.silent_lift _).bind fun _ => Traced.silent_lift _

theorem silent_checkNew : (e.checkNew s v).Silent :=
  silent_validate.bind fun _ => (Traced.silent_lift _).bind fun _ =>
    (Traced.silent_lift _).bind fun _ => Traced.silent_lift _

theorem silent_checkBatch (docs : List Vocabulary) : (e.checkBatch s docs).traced.Silent := by
  induction docs with
  | nil => rfl
  | cons d ds ih =>
    rw [checkBatch_cons]
    cases (e.checkNew s d.withUniqueDefault).result with
    | error err => exact silent_checkNew
    | ok _ =>
      show Journal.notices ((e.checkNew s d.withUniqueDefault).journal ++ _) = []
      rw [Journal.notices_append, silent_checkNew, ih]
      rfl

theorem silent_checkReplacement {stored : Vocabulary} :
    (e.checkReplacement now s v stored).traced.Silent := by
  rw [checkReplacement]
  split
  · exact Traced.silent_lift _
  · dsimp only
    split
    · exact silent_checkFull
    · show Journal.notices ((e.checkFull s v.withUniqueDefault).journal ++ _) = []
      rw [Journal.notices_append, silent_checkFull]
      rfl

theorem silent_checkUpdate : (e.checkUpdate s u v).traced.Silent := by
  rw [checkUpdate]
  dsimp only
  split
  · exact Traced.silent_lift _
  · split
    · exact Traced.silent_lift _
    · split
      · exact silent_validate
      · exact silent_validate

/-! ### Creation -/

theorem notices_createdEntries (ctx : Context) (docs : List Vocabulary) :
    (createdEntries ctx docs).notices = docs.map (Notice.about .created ctx) := by
  induction docs with
  | nil => rfl
  | cons d ds ih => exact congrArg (Notice.about .created ctx d :: ·) ih

/-- The default of the unique field does not show in events. -/
theorem about_withUniqueDefault (change : Change) (ctx : Context) (v : Vocabulary) :
    Notice.about change ctx v.withUniqueDefault = Notice.about change ctx v := by
  simp [Notice.about]

/-- The documents of a batch have their keys also with the defaults of their unique fields. -/
theorem ids_withUniqueDefault (docs : List Vocabulary) :
    (docs.map Vocabulary.withUniqueDefault).map Vocabulary.id = docs.map Vocabulary.id := by
  simp [Function.comp_def]

theorem AdmitsBatch.distinct_withUniqueDefault {docs : List Vocabulary} (h : e.AdmitsBatch s docs) :
    ((docs.map Vocabulary.withUniqueDefault).map Vocabulary.id).Nodup := by
  rw [ids_withUniqueDefault]
  exact h.distinct

/-- Every document of a batch that was added has its row. -/
theorem AdmitsBatch.get?_row {docs : List Vocabulary} {d : Vocabulary} (h : e.AdmitsBatch s docs)
    (hd : d ∈ docs) :
    (Store.withRows e.text now s (docs.map Vocabulary.withUniqueDefault)).get? d.id =
      some (Row.written e.text d.withUniqueDefault (d.created.getD now) (d.updated.getD now)) := by
  rw [← Vocabulary.id_withUniqueDefault d, Store.get?_withRows_of_mem
    h.distinct_withUniqueDefault (List.mem_map_of_mem hd), Vocabulary.created_withUniqueDefault,
    Vocabulary.updated_withUniqueDefault]

/-- Every other row is as it was. -/
theorem AdmitsBatch.get?_other {docs : List Vocabulary} (h : e.AdmitsBatch s docs)
    (hid : ∀ d ∈ docs, d.id ≠ id) :
    (Store.withRows e.text now s (docs.map Vocabulary.withUniqueDefault)).get? id = s.get? id := by
  refine Store.get?_withRows_of_forall_ne h.distinct_withUniqueDefault fun v hv => ?_
  obtain ⟨d, hd, rfl⟩ := List.mem_map.1 hv
  rw [Vocabulary.id_withUniqueDefault]
  exact hid d hd

/-- A batch is added when it passes and its documents have passed on their own. -/
theorem insertAll_withUniqueDefault {docs : List Vocabulary} {ids : List String} {s' : Store}
    (hadmitted : ∀ d ∈ docs, e.Admits s d.withUniqueDefault) :
    Store.insertAll e.text now s (docs.map Vocabulary.withUniqueDefault) = .ok (ids, s') ↔
      e.AdmitsBatch s docs ∧ docs.map Vocabulary.id = ids ∧
        Store.withRows e.text now s (docs.map Vocabulary.withUniqueDefault) = s' := by
  rw [Store.insertAll_eq_ok_iff, ids_withUniqueDefault]
  constructor
  · rintro ⟨hdistinct, hdocs, hids, hstore⟩
    refine ⟨⟨hdistinct, fun d hd => ?_, hadmitted⟩, hids, hstore⟩
    have hfree := (hdocs _ (List.mem_map_of_mem hd)).2
    rwa [Vocabulary.id_withUniqueDefault] at hfree
  · rintro ⟨hbatch, hids, hstore⟩
    refine ⟨hbatch.distinct, fun v hv => ?_, hids, hstore⟩
    obtain ⟨d, hd, rfl⟩ := List.mem_map.1 hv
    rw [Vocabulary.id_withUniqueDefault]
    exact ⟨(hbatch.admitted d hd).validateShape, hbatch.free d hd⟩

/-- A creation succeeds exactly when the batch passes, and then every document has its row and its
event. -/
theorem create_cases (e : Engine) (now : Int64) (docs : List Vocabulary) (ctx : Context)
    (s : Store) :
    (¬ e.AdmitsBatch s docs ∧ (e.create now docs ctx s).Fails s) ∨
    e.AdmitsBatch s docs ∧ (e.create now docs ctx s).Succeeds (docs.map Vocabulary.id)
      (Store.withRows e.text now s (docs.map Vocabulary.withUniqueDefault))
      (docs.map (Notice.about .created ctx)) := by
  have hsilent : (e.checkBatch s docs).traced.Silent := silent_checkBatch docs
  rw [create]
  cases hcheck : (e.checkBatch s docs).traced.result with
  | error err =>
    refine .inl ⟨fun hbatch => ?_, ⟨err, rfl⟩, rfl, ?_⟩
    · have hpass : (e.checkBatch s docs).traced.result = .ok () := by
        refine checkBatch_eq_ok_iff.2 fun d hd => ⟨hbatch.admitted d hd, ?_⟩
        refine checkNotDeleted_of_none ?_
        rw [Vocabulary.id_withUniqueDefault]
        exact hbatch.free d hd
      rw [hpass] at hcheck
      cases hcheck
    · show Journal.notices ((e.checkBatch s docs).traced.journal ++ _) = []
      rw [Journal.notices_append, hsilent]
      rfl
  | ok _ =>
    have hadmitted : ∀ d ∈ docs, e.Admits s d.withUniqueDefault :=
      fun d hd => (checkBatch_eq_ok_iff.1 hcheck d hd).1
    rw [documents_checkBatch hcheck]
    dsimp only
    cases hwrite : Store.insertAll e.text now s (docs.map Vocabulary.withUniqueDefault) with
    | error err =>
      refine .inl ⟨fun hbatch => ?_, ⟨_, rfl⟩, rfl, ?_⟩
      · rw [(insertAll_withUniqueDefault hadmitted).2 ⟨hbatch, rfl, rfl⟩] at hwrite
        cases hwrite
      · show Journal.notices ((e.checkBatch s docs).traced.journal ++ _) = []
        rw [Journal.notices_append, hsilent]
        rfl
    | ok written =>
      obtain ⟨ids, s'⟩ := written
      obtain ⟨hbatch, rfl, rfl⟩ := (insertAll_withUniqueDefault hadmitted).1 hwrite
      refine .inr ⟨hbatch, rfl, rfl, ?_⟩
      show Journal.notices ((e.checkBatch s docs).traced.journal ++
        _ :: createdEntries ctx (docs.map Vocabulary.withUniqueDefault)) = _
      rw [Journal.notices_append, hsilent]
      refine (notices_createdEntries ctx _).trans ?_
      simp [about_withUniqueDefault]

/-- A batch that passes is added. -/
theorem create_of_admits (now : Int64) (ctx : Context) {docs : List Vocabulary}
    (h : e.AdmitsBatch s docs) :
    (e.create now docs ctx s).Succeeds (docs.map Vocabulary.id)
      (Store.withRows e.text now s (docs.map Vocabulary.withUniqueDefault))
      (docs.map (Notice.about .created ctx)) := by
  rcases e.create_cases now docs ctx s with ⟨hnot, -⟩ | ⟨-, hmade⟩
  · exact absurd h hnot
  · exact hmade

/-! ### Replacement -/

/-- A replacement succeeds exactly when the document has the key of the active vocabulary and
passes as a whole. -/
theorem replace_cases (e : Engine) (now : Int64) (id : String) (doc : Vocabulary) (ctx : Context)
    (s : Store) :
    ((∀ r v, Store.Active e.text s id r v → doc.id = id → ¬ e.Admits s doc.withUniqueDefault) ∧
      (e.replace now id doc ctx s).Fails s) ∨
    ∃ r v, Store.Active e.text s id r v ∧ doc.id = id ∧ e.Admits s doc.withUniqueDefault ∧
      (e.replace now id doc ctx s).Succeeds (doc.inPlaceOf v now)
        (TextMap.insert s id (Row.written e.text doc.withUniqueDefault r.created now))
        [Notice.about .updated ctx doc] := by
  rw [replace]
  cases hget : Store.get e.text s id with
  | error err =>
    refine .inl ⟨fun r v hv => ?_, ⟨_, rfl⟩, rfl, rfl⟩
    rw [hv.get_eq] at hget
    cases hget
  | ok v =>
    obtain ⟨r, hv⟩ := Store.find_eq_some_iff.1 (Store.get_eq_ok_iff.1 hget)
    have hsilent : (e.checkReplacement now s doc v).traced.Silent := silent_checkReplacement
    dsimp only [fromStore_ok]
    cases hcheck : (e.checkReplacement now s doc v).traced.result with
    | error err =>
      refine .inl ⟨fun r' w hw hid hadmits => ?_, ⟨err, rfl⟩, rfl, hsilent⟩
      obtain ⟨rfl, rfl⟩ := hv.unique hw
      rw [checkReplacement_eq_ok_iff.2 ⟨hid.trans hv.id_eq.symm, hadmits⟩] at hcheck
      cases hcheck
    | ok _ =>
      obtain ⟨hid, hadmits⟩ := checkReplacement_eq_ok_iff.1 hcheck
      have hkey : doc.id = id := hid.trans hv.id_eq
      have hwrite : Store.replace e.text now s (doc.inPlaceOf v now) =
          .ok (TextMap.insert s id (Row.written e.text doc.withUniqueDefault r.created now)) := by
        refine Store.replace_eq_ok_iff.2 ⟨hadmits.validateShape, r, ?_, hv.active, ?_⟩
        · rw [Vocabulary.id_inPlaceOf, hkey]
          exact hv.row
        · rw [Vocabulary.id_inPlaceOf, hkey, hv.eq_marked]
          rfl
      rw [value_checkReplacement hcheck, hwrite]
      refine .inr ⟨r, v, hv, hkey, hadmits, rfl, rfl, ?_⟩
      show Journal.notices ((e.checkReplacement now s doc v).traced.journal ++
        [noticeOf .updated ctx (doc.inPlaceOf v now)]) = _
      rw [Journal.notices_append, hsilent, ← about_withUniqueDefault]
      rfl

/-- A document that passes replaces the active vocabulary with its key. -/
theorem replace_of_admits (now : Int64) (ctx : Context) {doc : Vocabulary} {r : Row}
    (hv : Store.Active e.text s id r v) (hid : doc.id = id)
    (h : e.Admits s doc.withUniqueDefault) :
    (e.replace now id doc ctx s).Succeeds (doc.inPlaceOf v now)
      (TextMap.insert s id (Row.written e.text doc.withUniqueDefault r.created now))
      [Notice.about .updated ctx doc] := by
  rcases e.replace_cases now id doc ctx s with ⟨hrefused, -⟩ | ⟨r', v', hv', -, -, hmade⟩
  · exact absurd h (hrefused r v hv hid)
  · obtain ⟨rfl, rfl⟩ := hv.unique hv'
    exact hmade

/-! ### Partial update -/

/-- What is stored after a checked update is the document that was checked, if it is in form. -/
theorem patch_checkUpdate {r : Row} {w : Vocabulary} {s' : Store}
    (hv : Store.Active e.text s id r v) (h : e.Accepts s v u) :
    Store.patch e.text now s id (e.checkUpdate s u v).value = .ok (w, s') ↔
      (v.updatedBy u).validateShape = .ok () ∧ (v.updatedBy u).marked false r.created now = w ∧
        TextMap.insert s id (Row.written e.text (v.updatedBy u) r.created now) = s' := by
  have hmerged := applyUpdate_value_checkUpdate (checkUpdate_eq_ok_iff.2 h)
  rw [Store.patch_eq_ok_iff]
  constructor
  · rintro ⟨r', v', hv', hrest⟩
    obtain ⟨rfl, rfl⟩ := hv.unique hv'
    rwa [hmerged] at hrest
  · intro hrest
    rw [← hmerged] at hrest
    exact ⟨r, v, hv, hrest⟩

/-- An update succeeds exactly when what it leads to from the active vocabulary passes its checks
and is in form. -/
theorem update_cases (e : Engine) (now : Int64) (id : String) (u : VocabularyUpdate) (ctx : Context)
    (s : Store) :
    ((∀ r v, Store.Active e.text s id r v → e.Accepts s v u →
        (v.updatedBy u).validateShape ≠ .ok ()) ∧ (e.update now id u ctx s).Fails s) ∨
    ∃ r v, Store.Active e.text s id r v ∧ e.Accepts s v u ∧
      (v.updatedBy u).validateShape = .ok () ∧
      (e.update now id u ctx s).Succeeds ((v.updatedBy u).marked false r.created now)
        (TextMap.insert s id (Row.written e.text (v.updatedBy u) r.created now))
        [Notice.about .updated ctx (v.updatedBy u)] := by
  rw [update]
  cases hget : Store.get e.text s id with
  | error err =>
    refine .inl ⟨fun r v hv => ?_, ⟨_, rfl⟩, rfl, rfl⟩
    rw [hv.get_eq] at hget
    cases hget
  | ok v =>
    obtain ⟨r, hv⟩ := Store.find_eq_some_iff.1 (Store.get_eq_ok_iff.1 hget)
    have hsilent : (e.checkUpdate s u v).traced.Silent := silent_checkUpdate
    dsimp only [fromStore_ok]
    cases hcheck : (e.checkUpdate s u v).traced.result with
    | error err =>
      refine .inl ⟨fun r' w hw haccepts => ?_, ⟨err, rfl⟩, rfl, ?_⟩
      · obtain ⟨rfl, rfl⟩ := hv.unique hw
        rw [checkUpdate_eq_ok_iff.2 haccepts] at hcheck
        cases hcheck
      · show Journal.notices ((e.checkUpdate s u v).traced.journal ++ _) = []
        rw [Journal.notices_append, hsilent]
        rfl
    | ok _ =>
      have haccepts := checkUpdate_eq_ok_iff.1 hcheck
      dsimp only
      cases hwrite : Store.patch e.text now s id (e.checkUpdate s u v).value with
      | error err =>
        refine .inl ⟨fun r' w hw _ hshape => ?_, ⟨_, rfl⟩, rfl, hsilent⟩
        obtain ⟨rfl, rfl⟩ := hv.unique hw
        rw [(patch_checkUpdate hv haccepts).2 ⟨hshape, rfl, rfl⟩] at hwrite
        cases hwrite
      | ok written =>
        obtain ⟨w, s'⟩ := written
        obtain ⟨hshape, rfl, rfl⟩ := (patch_checkUpdate hv haccepts).1 hwrite
        refine .inr ⟨r, v, hv, haccepts, hshape, rfl, rfl, ?_⟩
        show Journal.notices ((e.checkUpdate s u v).traced.journal ++ _) = _
        rw [Journal.notices_append, hsilent]
        rfl

/-- An update that passes and leads to a document in form is applied to the active vocabulary. -/
theorem update_of_accepts (now : Int64) (ctx : Context) {r : Row}
    (hv : Store.Active e.text s id r v) (h : e.Accepts s v u)
    (hshape : (v.updatedBy u).validateShape = .ok ()) :
    (e.update now id u ctx s).Succeeds ((v.updatedBy u).marked false r.created now)
      (TextMap.insert s id (Row.written e.text (v.updatedBy u) r.created now))
      [Notice.about .updated ctx (v.updatedBy u)] := by
  rcases e.update_cases now id u ctx s with ⟨hrefused, -⟩ | ⟨r', v', hv', -, -, hmade⟩
  · exact absurd hshape (hrefused r v hv h)
  · obtain ⟨rfl, rfl⟩ := hv.unique hv'
    exact hmade

/-! ### Deletion -/

/-- A deletion succeeds exactly when the active vocabulary is custom. -/
theorem delete_cases (e : Engine) (now : Int64) (id : String) (s : Store) :
    ((∀ r v, Store.Active e.text s id r v → v.custom = false) ∧ (e.delete now id s).Fails s) ∨
    ∃ r v, Store.Active e.text s id r v ∧ v.custom = true ∧
      (e.delete now id s).Succeeds () (TextMap.insert s id (r.deletedAt now)) [] := by
  rw [delete]
  cases hget : Store.get e.text s id with
  | error err =>
    refine .inl ⟨fun r v hv => ?_, ⟨_, rfl⟩, rfl, rfl⟩
    rw [hv.get_eq] at hget
    cases hget
  | ok v =>
    obtain ⟨r, hv⟩ := Store.find_eq_some_iff.1 (Store.get_eq_ok_iff.1 hget)
    dsimp only [fromStore_ok]
    cases hcustom : v.custom with
    | false =>
      rw [checkDeletion, hcustom]
      refine .inl ⟨fun r' w hw => ?_, ⟨_, rfl⟩, rfl, rfl⟩
      obtain ⟨rfl, rfl⟩ := hv.unique hw
      exact hcustom
    | true =>
      rw [checkDeletion, hcustom, Store.softDelete_eq_ok_iff.2 ⟨r, hv.row, hv.active, rfl⟩]
      exact .inr ⟨r, v, hv, hcustom, rfl, rfl, rfl⟩

/-! ### Keywords -/

/-- The vocabulary of keywords is created exactly when it passes as a batch of its own. -/
theorem createKeywords_cases (e : Engine) (now : Int64) (keywords : List String) (ctx : Context)
    (s : Store) :
    (¬ e.AdmitsBatch s [keywordsVocabulary e.config.keywordsVocabulary keywords] ∧
      (e.createKeywords now keywords ctx s).Fails s) ∨
    e.AdmitsBatch s [keywordsVocabulary e.config.keywordsVocabulary keywords] ∧
      (e.createKeywords now keywords ctx s).Succeeds keywords
        (Store.withRows e.text now s ([keywordsVocabulary e.config.keywordsVocabulary
          keywords].map Vocabulary.withUniqueDefault))
        [Notice.about .created ctx (keywordsVocabulary e.config.keywordsVocabulary keywords)] := by
  dsimp only [createKeywords]
  generalize keywordsVocabulary e.config.keywordsVocabulary keywords = doc
  rcases e.create_cases now [doc] ctx s with ⟨hnot, hfails⟩ | ⟨hbatch, hsucceeds⟩
  · obtain ⟨err, herr⟩ := hfails.result
    rw [herr]
    exact .inl ⟨hnot, ⟨err, rfl⟩, hfails.store, hfails.notices⟩
  · rw [hsucceeds.result]
    refine .inr ⟨hbatch, rfl, hsucceeds.store, ?_⟩
    show Journal.notices ((e.create now [doc] ctx s).journal ++ _) = _
    rw [Journal.notices_append, hsucceeds.notices]
    rfl

/-- Keywords are added to their vocabulary exactly when what that leads to passes. -/
theorem extendKeywords_cases (e : Engine) (now : Int64) {existing : Vocabulary} {r : Row}
    (missing : List String) (ctx : Context) {s : Store}
    (hv : Store.Active e.text s e.config.keywordsVocabulary r existing) :
    (¬ e.Accepts s existing (.ofItems (existing.items ++ missing.map Item.named)) ∧
      (e.extendKeywords now existing missing ctx s).Fails s) ∨
    e.Accepts s existing (.ofItems (existing.items ++ missing.map Item.named)) ∧
      (e.extendKeywords now existing missing ctx s).Succeeds missing
        (TextMap.insert s e.config.keywordsVocabulary (Row.written e.text
          (existing.updatedBy (.ofItems (existing.items ++ missing.map Item.named)))
          r.created now))
        [Notice.about .updated ctx
          (existing.updatedBy (.ofItems (existing.items ++ missing.map Item.named)))] := by
  rw [extendKeywords]
  generalize hu : VocabularyUpdate.ofItems (existing.items ++ missing.map Item.named) = u
  have hitems : u.items.isSome = true := by
    rw [← hu]
    rfl
  have hsilent : (e.checkUpdate s u existing).traced.Silent := silent_checkUpdate
  cases hcheck : (e.checkUpdate s u existing).traced.result with
  | error err =>
    refine .inl ⟨fun haccepts => ?_, ⟨err, rfl⟩, rfl, hsilent⟩
    rw [checkUpdate_eq_ok_iff.2 haccepts] at hcheck
    cases hcheck
  | ok _ =>
    have haccepts := checkUpdate_eq_ok_iff.1 hcheck
    -- an update with items was validated as a whole, so the write does not refuse its form
    have hshape := ((accepts_iff_admits hitems).1 haccepts).validateShape
    dsimp only
    rw [(patch_checkUpdate hv haccepts).2 ⟨hshape, rfl, rfl⟩]
    refine .inr ⟨haccepts, rfl, rfl, ?_⟩
    show Journal.notices ((e.checkUpdate s u existing).traced.journal ++ _) = _
    rw [Journal.notices_append, hsilent]
    rfl

section AddMissingKeywords

variable {keywords : List String} {language : Option String}

/-- Without a keyword there is nothing to do. -/
theorem addMissingKeywords_of_blank (h : cleanKeywords keywords = []) :
    (e.addMissingKeywords now keywords language ctx s).Succeeds [] s [] := by
  rw [addMissingKeywords, h]
  exact ⟨rfl, rfl, rfl⟩

/-- When there is no active vocabulary of keywords, it is created if possible. -/
theorem addMissingKeywords_of_none (hcandidates : cleanKeywords keywords ≠ [])
    (hfind : Store.find e.text s e.config.keywordsVocabulary = .ok none) :
    (¬ e.AdmitsBatch s
        [keywordsVocabulary e.config.keywordsVocabulary (cleanKeywords keywords)] ∧
      (e.addMissingKeywords now keywords language ctx s).Fails s) ∨
    e.AdmitsBatch s [keywordsVocabulary e.config.keywordsVocabulary (cleanKeywords keywords)] ∧
      (e.addMissingKeywords now keywords language ctx s).Succeeds (cleanKeywords keywords)
        (Store.withRows e.text now s ([keywordsVocabulary e.config.keywordsVocabulary
          (cleanKeywords keywords)].map Vocabulary.withUniqueDefault))
        [Notice.about .created ctx
          (keywordsVocabulary e.config.keywordsVocabulary (cleanKeywords keywords))] := by
  have hempty : ¬ (cleanKeywords keywords).isEmpty = true := by simpa using hcandidates
  rw [addMissingKeywords]
  dsimp only
  rw [if_neg hempty, hfind]
  rcases e.createKeywords_cases now (cleanKeywords keywords) ctx s with
    ⟨hnot, hfails⟩ | ⟨hbatch, hmade⟩
  · exact .inl ⟨hnot, hfails.result, hfails.store, hfails.notices⟩
  · exact .inr ⟨hbatch, hmade.result, hmade.store, hmade.notices⟩

/-- When nothing is missing from the active vocabulary of keywords, it stays as it is. -/
theorem addMissingKeywords_of_known {r : Row}
    (hv : Store.Active e.text s e.config.keywordsVocabulary r v)
    (hknown : missingKeywords v.items (cleanKeywords keywords) = []) :
    (e.addMissingKeywords now keywords language ctx s).Succeeds [] s [] := by
  rw [addMissingKeywords]
  dsimp only
  split
  case isTrue => exact ⟨rfl, rfl, rfl⟩
  case isFalse =>
    rw [Store.find_eq_some_iff.2 ⟨r, hv⟩, fromStore_ok]
    dsimp only
    rw [hknown]
    exact ⟨rfl, rfl, rfl⟩

/-- What is missing from the active vocabulary of keywords is added if possible. -/
theorem addMissingKeywords_of_missing {r : Row}
    (hv : Store.Active e.text s e.config.keywordsVocabulary r v)
    (hmissing : missingKeywords v.items (cleanKeywords keywords) ≠ []) :
    (¬ e.Accepts s v (.ofItems (v.items ++
          (missingKeywords v.items (cleanKeywords keywords)).map Item.named)) ∧
      (e.addMissingKeywords now keywords language ctx s).Fails s) ∨
    e.Accepts s v (.ofItems (v.items ++
        (missingKeywords v.items (cleanKeywords keywords)).map Item.named)) ∧
      (e.addMissingKeywords now keywords language ctx s).Succeeds
        (missingKeywords v.items (cleanKeywords keywords))
        (TextMap.insert s e.config.keywordsVocabulary (Row.written e.text
          (v.updatedBy (.ofItems (v.items ++
            (missingKeywords v.items (cleanKeywords keywords)).map Item.named))) r.created now))
        [Notice.about .updated ctx (v.updatedBy (.ofItems (v.items ++
          (missingKeywords v.items (cleanKeywords keywords)).map Item.named)))] := by
  have hcandidates : ¬ (cleanKeywords keywords).isEmpty = true := by
    intro hempty
    rw [List.isEmpty_iff.1 hempty] at hmissing
    exact hmissing rfl
  have hempty : ¬ (missingKeywords v.items (cleanKeywords keywords)).isEmpty = true := by
    simpa using hmissing
  rw [addMissingKeywords]
  dsimp only
  rw [if_neg hcandidates, Store.find_eq_some_iff.2 ⟨r, hv⟩, fromStore_ok]
  dsimp only
  rw [if_neg hempty]
  rcases e.extendKeywords_cases now (missingKeywords v.items (cleanKeywords keywords)) ctx hv with
    ⟨hnot, hfails⟩ | ⟨haccepts, hmade⟩
  · exact .inl ⟨hnot, hfails.result, hfails.store, hfails.notices⟩
  · exact .inr ⟨haccepts, hmade.result, hmade.store, hmade.notices⟩

end AddMissingKeywords

/-- Adding keywords fails, or has nothing to add, or creates the vocabulary of keywords, or adds
what is missing to it. -/
theorem addMissingKeywords_cases (e : Engine) (now : Int64) (keywords : List String)
    (language : Option String) (ctx : Context) (s : Store) :
    (e.addMissingKeywords now keywords language ctx s).Fails s ∨
    (e.addMissingKeywords now keywords language ctx s).Succeeds [] s [] ∨
    (cleanKeywords keywords ≠ [] ∧
      e.AdmitsBatch s [keywordsVocabulary e.config.keywordsVocabulary (cleanKeywords keywords)] ∧
      (e.addMissingKeywords now keywords language ctx s).Succeeds (cleanKeywords keywords)
        (Store.withRows e.text now s ([keywordsVocabulary e.config.keywordsVocabulary
          (cleanKeywords keywords)].map Vocabulary.withUniqueDefault))
        [Notice.about .created ctx
          (keywordsVocabulary e.config.keywordsVocabulary (cleanKeywords keywords))]) ∨
    ∃ r v missing, Store.Active e.text s e.config.keywordsVocabulary r v ∧
      missingKeywords v.items (cleanKeywords keywords) = missing ∧ missing ≠ [] ∧
      e.Accepts s v (.ofItems (v.items ++ missing.map Item.named)) ∧
      (e.addMissingKeywords now keywords language ctx s).Succeeds missing
        (TextMap.insert s e.config.keywordsVocabulary (Row.written e.text
          (v.updatedBy (.ofItems (v.items ++ missing.map Item.named))) r.created now))
        [Notice.about .updated ctx
          (v.updatedBy (.ofItems (v.items ++ missing.map Item.named)))] := by
  by_cases hcandidates : cleanKeywords keywords = []
  · exact .inr (.inl (addMissingKeywords_of_blank hcandidates))
  cases hfind : Store.find e.text s e.config.keywordsVocabulary with
  | error err =>
    left
    rw [addMissingKeywords]
    dsimp only
    rw [if_neg (by simpa using hcandidates), hfind]
    exact ⟨⟨_, rfl⟩, rfl, rfl⟩
  | ok found =>
    cases found with
    | none =>
      rcases addMissingKeywords_of_none hcandidates hfind with ⟨-, hfails⟩ | ⟨hbatch, hmade⟩
      · exact .inl hfails
      · exact .inr (.inr (.inl ⟨hcandidates, hbatch, hmade⟩))
    | some v =>
      obtain ⟨r, hv⟩ := Store.find_eq_some_iff.1 hfind
      by_cases hmissing : missingKeywords v.items (cleanKeywords keywords) = []
      · exact .inr (.inl (addMissingKeywords_of_known hv hmissing))
      · rcases addMissingKeywords_of_missing hv hmissing with ⟨-, hfails⟩ | ⟨haccepts, hmade⟩
        · exact .inl hfails
        · exact .inr (.inr (.inr ⟨r, v, _, hv, rfl, hmissing, haccepts, hmade⟩))

end Engine

end Newsroom
