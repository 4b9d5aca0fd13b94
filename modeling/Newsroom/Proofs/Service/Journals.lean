import Newsroom.Proofs.Service.Codes

/-!
# What an operation writes to the journal

For each operation and each way it can end, the code of its answer and its whole journal. The
journal of an operation is that of its checks, followed by entries that name keys, numbers and the
code. Where the ending cannot be told from the answer alone, because a check fails with the same
codes as the write behind it, the code of the check is read off the code of the answer
(`codeOf_checkBatch`, `codeOf_checkUpdate`).
-/

namespace Newsroom

/-- The entries that are written after success only: none if there is the code of an error. -/
def onSuccess (code : Option String) (j : Journal) : Journal := if code.isSome then [] else j

/-- A batch of documents in form is not added only because a key is taken. -/
theorem Store.exists_taken {t : TextLayer} {now : Int64} {s : Store} {docs : List Vocabulary}
    {err : StoreError} (hshape : ∀ v ∈ docs, v.validateShape = .ok ())
    (h : insertAll t now s docs = .error err) : ∃ id, err = .alreadyExists id := by
  induction docs generalizing s with
  | nil => cases h
  | cons d ds ih =>
    obtain ⟨hd, hds⟩ := List.forall_mem_cons.1 hshape
    rw [insertAll] at h
    cases hone : insertOne t now s d with
    | error err' =>
      rw [hone] at h
      cases h
      rw [insertOne, hd] at hone
      dsimp only at hone
      split at hone
      · cases hone
        exact ⟨d.id, rfl⟩
      · cases hone
    | ok s₁ =>
      rw [hone] at h
      dsimp only at h
      cases hrest : insertAll t now s₁ ds with
      | error err' =>
        rw [hrest] at h
        cases h
        exact ih hds hrest
      | ok written =>
        rw [hrest] at h
        cases h

theorem Store.get_of_find_none {t : TextLayer} {s : Store} {id : String}
    (h : find t s id = .ok none) : get t s id = .error (.notFound id) := by
  rw [get, h]

namespace Engine

variable {e : Engine} {s : Store} {v : Vocabulary} {now : Int64} {ctx : Context} {id : String}

/-! ### One candidate -/

/-- A completed check tells of the document, unless there was nothing to check. -/
theorem journal_validate : (e.validate s v).journal =
    match (e.validate s v).result with
    | .error _ => []
    | .ok _ =>
      if v.schema.fields.isEmpty || v.items.isEmpty then []
      else [checkedEntry v (e.runChecks s v).2] := by
  rw [validate]
  cases hshape : (Traced.lift (fromCheck v.validateShape)).result with
  | error err =>
    rw [Traced.bind_of_error hshape]
    rfl
  | ok _ =>
    rw [Traced.bind_of_ok hshape]
    by_cases hempty : (v.schema.fields.isEmpty || v.items.isEmpty) = true
    · simp only [validateItems, if_pos hempty]
      rfl
    · simp only [validateItems, if_neg hempty]
      cases hrun : e.runChecks s v with
      | mk result refs => cases result <;> rfl

/-! ### Creation -/

section

variable {d : Vocabulary} {ds : List Vocabulary}

theorem traced_checkBatch_of_error {err : ServiceError}
    (h : (e.checkNew s d.withUniqueDefault).result = .error err) :
    (e.checkBatch s (d :: ds)).traced =
      ⟨.error err, (e.checkNew s d.withUniqueDefault).journal⟩ := by
  rw [checkBatch_cons, h]

theorem traced_checkBatch_of_ok (h : (e.checkNew s d.withUniqueDefault).result = .ok ()) :
    (e.checkBatch s (d :: ds)).traced =
      ⟨(e.checkBatch s ds).traced.result,
        (e.checkNew s d.withUniqueDefault).journal ++ (e.checkBatch s ds).traced.journal⟩ := by
  rw [checkBatch_cons, h]

end

theorem failsWith_checkNew (hs : s.Readable e.text) :
    (e.checkNew s v).FailsWith (candidateCodes ++ laterCodes) := by
  have hvalid : (e.validate s v).FailsWith (candidateCodes ++ laterCodes) :=
    fun err h => List.mem_append_left _ (failsWith_validate hs err h)
  exact hvalid.bind fun _ err h => List.mem_append_right _ ((quiet_afterNew hs v).fails err h)

theorem failsWith_checkBatch (hs : s.Readable e.text) (docs : List Vocabulary) :
    (e.checkBatch s docs).traced.FailsWith (candidateCodes ++ laterCodes) := by
  induction docs with
  | nil => nofun
  | cons d ds ih =>
    intro err h
    cases hfirst : (e.checkNew s d.withUniqueDefault).result with
    | error err' =>
      rw [traced_checkBatch_of_error hfirst] at h
      cases h
      exact failsWith_checkNew hs err hfirst
    | ok _ =>
      rw [traced_checkBatch_of_ok hfirst] at h
      exact ih err h

/-- The entries of a creation behind those of its checks, by the code of its answer. -/
def creationEntries (ctx : Context) (docs : List Vocabulary) : Option String → Journal
  | some code =>
    [logged .warn ("event=vocabulary_create module=service status=error batch="
      ++ toString docs.length ++ " code=" ++ code)]
  | none =>
    logged .info ("event=vocabulary_create module=service status=ok batch="
      ++ toString (docs.map Vocabulary.id).length ++ " ids="
      ++ ",".intercalate (docs.map Vocabulary.id)) :: docs.map (noticeOf .created ctx)

theorem create_tells (e : Engine) (now : Int64) (docs : List Vocabulary) (ctx : Context)
    (s : Store) : (e.create now docs ctx s).journal = (e.checkBatch s docs).traced.journal ++
      creationEntries ctx docs (codeOf (e.create now docs ctx s).result) := by
  rw [create]
  cases hbatch : (e.checkBatch s docs).traced.result with
  | error err => rfl
  | ok _ =>
    rw [documents_checkBatch hbatch]
    dsimp only
    cases hwrite : Store.insertAll e.text now s (docs.map Vocabulary.withUniqueDefault) with
    | error err => rfl
    | ok written =>
      obtain ⟨ids, s₁⟩ := written
      obtain ⟨-, rfl, -⟩ := (insertAll_withUniqueDefault fun d hd =>
        (checkBatch_eq_ok_iff.1 hbatch d hd).1).1 hwrite
      have hentries : createdEntries ctx (docs.map Vocabulary.withUniqueDefault) =
          docs.map (noticeOf .created ctx) := by
        simp [createdEntries, noticeOf, Function.comp_def]
      rw [fromStore_ok]
      dsimp only
      rw [hentries]
      rfl

/-- A batch that has passed is created, or a key is taken. -/
theorem codeOf_create_of_passed (now : Int64) (ctx : Context) {docs : List Vocabulary}
    (h : (e.checkBatch s docs).traced.result = .ok ()) :
    codeOf (e.create now docs ctx s).result = none ∨
      codeOf (e.create now docs ctx s).result = some "store" := by
  have hshape : ∀ v ∈ docs.map Vocabulary.withUniqueDefault, v.validateShape = .ok () :=
    List.forall_mem_map.2 fun d hd => (checkBatch_eq_ok_iff.1 h d hd).1.validateShape
  rw [create, h, documents_checkBatch h]
  dsimp only
  cases hwrite : Store.insertAll e.text now s (docs.map Vocabulary.withUniqueDefault) with
  | error err =>
    obtain ⟨id, rfl⟩ := Store.exists_taken hshape hwrite
    exact .inr rfl
  | ok written => exact .inl rfl

/-- From the code of a creation one knows the code of the check of the batch. -/
theorem codeOf_checkBatch (now : Int64) (ctx : Context) (hs : s.Readable e.text)
    (docs : List Vocabulary) : codeOf (e.checkBatch s docs).traced.result =
      (codeOf (e.create now docs ctx s).result).filter (· ∈ candidateCodes ++ laterCodes) := by
  cases hbatch : (e.checkBatch s docs).traced.result with
  | error err =>
    have hmem := failsWith_checkBatch hs docs err hbatch
    have hcode : codeOf (e.create now docs ctx s).result = some err.code := by
      rw [create, hbatch]
      rfl
    rw [hcode, Option.filter_some, if_pos (decide_eq_true hmem), codeOf_error]
  | ok _ =>
    rcases codeOf_create_of_passed now ctx hbatch with hcode | hcode <;> rw [hcode] <;> rfl

/-! ### Replacement -/

theorem replace_of_other {doc stored : Vocabulary} {r : Row}
    (hv : Store.Active e.text s id r stored) (hid : doc.id ≠ stored.id) :
    (e.replace now id doc ctx s).journal = [] := by
  rw [replace, hv.get_eq, fromStore_ok]
  dsimp only
  rw [checkReplacement, if_pos hid]
  rfl

/-- A replacement with the right key has the code of its check, and tells more only after
success. -/
theorem replace_of_same (now : Int64) (ctx : Context) {doc stored : Vocabulary} {r : Row}
    (hv : Store.Active e.text s id r stored) (hid : doc.id = stored.id) :
    codeOf (e.replace now id doc ctx s).result =
        codeOf (e.checkFull s doc.withUniqueDefault).result ∧
      (e.replace now id doc ctx s).journal = (e.checkFull s doc.withUniqueDefault).journal ++
        onSuccess (codeOf (e.checkFull s doc.withUniqueDefault).result)
          [replacementEntry doc, noticeOf .updated ctx doc] := by
  cases hcheck : (e.checkFull s doc.withUniqueDefault).result with
  | error err =>
    rw [replace, hv.get_eq, fromStore_ok]
    dsimp only
    rw [checkReplacement, if_neg (not_not_intro hid)]
    simp [hcheck, onSuccess]
  | ok _ =>
    have hadmits := checkFull_eq_ok_iff.1 hcheck
    have hpassed : (e.checkReplacement now s doc stored).traced.result = .ok () :=
      checkReplacement_eq_ok_iff.2 ⟨hid, hadmits⟩
    have hmade := (replace_of_admits now ctx hv (hid.trans hv.id_eq) hadmits).result
    have hjournal : (e.checkReplacement now s doc stored).traced.journal =
        (e.checkFull s doc.withUniqueDefault).journal ++ [replacementEntry doc] := by
      rw [checkReplacement, if_neg (not_not_intro hid)]
      simp [hcheck, replacementEntry]
    have hnotice :
        noticeOf .updated ctx (doc.inPlaceOf stored now) = noticeOf .updated ctx doc := by
      simp [noticeOf, Vocabulary.inPlaceOf]
    refine ⟨by rw [hmade]; rfl, ?_⟩
    rw [replace, hv.get_eq, fromStore_ok] at hmade ⊢
    dsimp only at hmade ⊢
    rw [hpassed, value_checkReplacement hpassed] at hmade ⊢
    dsimp only at hmade ⊢
    cases hwrite : Store.replace e.text now s (doc.inPlaceOf stored now) with
    | error err =>
      rw [hwrite] at hmade
      cases hmade
    | ok s₁ =>
      rw [fromStore_ok, hjournal, hnotice, List.append_assoc]
      rfl

/-! ### Partial update -/

section

variable {u : VocabularyUpdate} {r : Row}

theorem traced_checkUpdate_of_reserved {err : ServiceError}
    (h : e.checkReserved (v.applyUpdate u) = .error err) :
    (e.checkUpdate s u v).traced = Traced.lift (.error err) := by
  rw [checkUpdate, h]

theorem traced_checkUpdate_of_no_items (h : e.checkReserved (v.applyUpdate u) = .ok ())
    (hitems : u.items = none) : (e.checkUpdate s u v).traced =
      Traced.lift (fromCheck (checkUnique (v.applyUpdate u).uniqueField v.items)) := by
  rw [checkUpdate, h]
  dsimp only
  rw [hitems]

/-- An update with items is checked like a document. -/
theorem traced_checkUpdate_of_items (h : e.checkReserved (v.applyUpdate u) = .ok ())
    {items : List Item} (hitems : u.items = some items) :
    (e.checkUpdate s u v).traced = e.validate s (v.updatedBy u) >>= fun _ =>
      Traced.lift (fromCheck (checkUnique (v.updatedBy u).uniqueField items)) := by
  have hmerged := Vocabulary.updatedBy_of_items v (by rw [hitems]; rfl)
  rw [checkUpdate, h, hmerged]
  dsimp only
  rw [hitems]
  dsimp only
  cases hvalid : (e.validate s (v.applyUpdate u).withUniqueDefault).result with
  | error err => rw [Traced.bind_of_error hvalid]
  | ok _ =>
    rw [Traced.bind_of_ok hvalid]
    exact congrArg (Traced.mk _) (List.append_nil _).symm

/-- Without items an update is not refused with the code of a candidate. -/
theorem failsWith_checkUpdate (hitems : u.items = none) :
    (e.checkUpdate s u v).traced.FailsWith laterCodes := by
  cases hreserved : e.checkReserved (v.applyUpdate u) with
  | error err =>
    rw [traced_checkUpdate_of_reserved hreserved]
    rintro _ ⟨⟩
    rw [code_checkReserved hreserved]
    decide
  | ok _ =>
    rw [traced_checkUpdate_of_no_items hreserved hitems]
    exact (quiet_checkUnique _ _).fails

/-- The entries of an update to a document behind those of its check, by the codes of the check and
of the answer: nothing is told of an update that only the store refuses. -/
def updateEntries (id : String) (ctx : Context) (updated : Vocabulary) :
    Option String → Option String → Journal
  | some code, _ =>
    [logged .warn ("event=vocabulary_update module=service status=error vocabulary_id=" ++ id
      ++ " code=" ++ code)]
  | none, some _ => []
  | none, none =>
    [logged .info ("event=vocabulary_update module=service status=ok vocabulary_id=" ++ id
      ++ " items=" ++ toString updated.items.length), noticeOf .updated ctx updated]

theorem update_tells (now : Int64) (ctx : Context) (hv : Store.Active e.text s id r v) :
    (e.update now id u ctx s).journal = (e.checkUpdate s u v).traced.journal ++
      updateEntries id ctx (v.updatedBy u) (codeOf (e.checkUpdate s u v).traced.result)
        (codeOf (e.update now id u ctx s).result) := by
  rw [update, hv.get_eq, fromStore_ok]
  dsimp only
  cases hcheck : (e.checkUpdate s u v).traced.result with
  | error err => rfl
  | ok _ =>
    dsimp only
    cases hwrite : Store.patch e.text now s id (e.checkUpdate s u v).value with
    | error err => exact (List.append_nil _).symm
    | ok written =>
      obtain ⟨updated, s₁⟩ := written
      obtain ⟨-, rfl, -⟩ := (patch_checkUpdate hv (checkUpdate_eq_ok_iff.1 hcheck)).1 hwrite
      rfl

theorem update_of_refused (now : Int64) (ctx : Context) (hv : Store.Active e.text s id r v)
    {err : ServiceError} (h : (e.checkUpdate s u v).traced.result = .error err) :
    (e.update now id u ctx s).result = .error err := by
  rw [update, hv.get_eq, fromStore_ok]
  dsimp only
  rw [h]

/-- An update that has passed is made, unless what it leads to is out of form: with items the form
was checked already. -/
theorem codeOf_update_of_passed (now : Int64) (ctx : Context) (hv : Store.Active e.text s id r v)
    (h : (e.checkUpdate s u v).traced.result = .ok ()) :
    codeOf (e.update now id u ctx s).result = none ∨
      u.items = none ∧ ∃ c ∈ candidateCodes, codeOf (e.update now id u ctx s).result = some c := by
  have haccepts := checkUpdate_eq_ok_iff.1 h
  rw [update, hv.get_eq, fromStore_ok]
  dsimp only
  rw [h]
  dsimp only
  cases hshape : (v.updatedBy u).validateShape with
  | ok _ =>
    rw [(patch_checkUpdate hv haccepts).2 ⟨hshape, rfl, rfl⟩]
    exact .inl rfl
  | error err =>
    have hitems : u.items = none := by
      cases hitems : u.items with
      | none => rfl
      | some items =>
        have hvalid := haccepts.valid (by rw [hitems]; rfl)
        rw [(validate_eq_ok_iff.1 hvalid).1] at hshape
        cases hshape
    have hform : ({ v.applyUpdate (e.checkUpdate s u v).value with
        updated := some now } : Vocabulary).validateShape = .error err := by
      rw [← hshape, ← applyUpdate_value_checkUpdate h]
      rfl
    have hrefused : Store.patch e.text now s id (e.checkUpdate s u v).value =
        .error (.validation err) := by
      rw [Store.patch, hv.get_eq]
      dsimp only
      rw [hform]
    rw [hrefused]
    exact .inr ⟨hitems, err.code, code_validateShape hshape, rfl⟩

/-- From the code of an update one knows the code of its check. -/
theorem codeOf_checkUpdate (now : Int64) (ctx : Context) (hv : Store.Active e.text s id r v) :
    codeOf (e.checkUpdate s u v).traced.result =
      (codeOf (e.update now id u ctx s).result).filter
        fun c => u.items.isSome || c ∈ laterCodes := by
  cases hcheck : (e.checkUpdate s u v).traced.result with
  | error err =>
    have hkept : (u.items.isSome || decide (err.code ∈ laterCodes)) = true := by
      cases hitems : u.items with
      | none => exact decide_eq_true (failsWith_checkUpdate hitems err hcheck)
      | some items => rfl
    rw [update_of_refused now ctx hv hcheck, codeOf_error, codeOf_error, Option.filter_some,
      if_pos hkept]
  | ok _ =>
    rcases codeOf_update_of_passed now ctx hv hcheck with hcode | ⟨hitems, c, hc, hcode⟩
    · rw [hcode]
      rfl
    · have hnot : c ∉ laterCodes := fun h => not_mem_candidateCodes h hc
      rw [hcode, hitems, Option.filter_some, if_neg (by simpa using hnot), codeOf_ok]

end

/-! ### Keywords -/

section

variable {keywords : List String} {existing : Vocabulary} {r : Row}

theorem createKeywords_tells (e : Engine) (now : Int64) (keywords : List String) (ctx : Context)
    (s : Store) :
    codeOf (e.createKeywords now keywords ctx s).result = codeOf (e.create now
        [keywordsVocabulary e.config.keywordsVocabulary keywords] ctx s).result ∧
      (e.createKeywords now keywords ctx s).journal = (e.create now
        [keywordsVocabulary e.config.keywordsVocabulary keywords] ctx s).journal ++
        onSuccess (codeOf (e.createKeywords now keywords ctx s).result)
          [e.keywordsEntry .info "created" (" added=" ++ toString keywords.length)] := by
  dsimp only [createKeywords]
  generalize e.create now [keywordsVocabulary e.config.keywordsVocabulary keywords] ctx s = made
  cases hmade : made.result with
  | error err => exact ⟨rfl, (List.append_nil _).symm⟩
  | ok _ => exact ⟨rfl, rfl⟩

/-- Adding keywords to their vocabulary has the code of its check, and tells more only after
success. -/
theorem extendKeywords_tells (now : Int64) (missing : List String) (ctx : Context)
    (hv : Store.Active e.text s e.config.keywordsVocabulary r existing) {u : VocabularyUpdate}
    (hu : .ofItems (existing.items ++ missing.map Item.named) = u) :
    codeOf (e.extendKeywords now existing missing ctx s).result =
        codeOf (e.checkUpdate s u existing).traced.result ∧
      (e.extendKeywords now existing missing ctx s).journal =
        (e.checkUpdate s u existing).traced.journal ++
          onSuccess (codeOf (e.checkUpdate s u existing).traced.result)
            [noticeOf .updated ctx (existing.updatedBy u),
              e.keywordsEntry .info "ok" (" added=" ++ toString missing.length)] := by
  have hitems : u.items.isSome = true := by
    rw [← hu]
    rfl
  rw [extendKeywords, hu]
  cases hcheck : (e.checkUpdate s u existing).traced.result with
  | error err => exact ⟨rfl, (List.append_nil _).symm⟩
  | ok _ =>
    have haccepts := checkUpdate_eq_ok_iff.1 hcheck
    have hshape := ((accepts_iff_admits hitems).1 haccepts).validateShape
    dsimp only
    rw [(patch_checkUpdate hv haccepts).2 ⟨hshape, rfl, rfl⟩]
    exact ⟨rfl, rfl⟩

/-- The entry at the start of a merge. -/
def keywordsStart (e : Engine) (count : Nat) (language : Option String) : Entry :=
  e.keywordsEntry .debug "start"
    (" candidates=" ++ toString count ++ " language=" ++ language.getD "-")

variable (now : Int64) (language : Option String) (ctx : Context)

theorem addMissingKeywords_tells_of_none (hkeywords : cleanKeywords keywords ≠ [])
    (hfind : Store.find e.text s e.config.keywordsVocabulary = .ok none) :
    codeOf (e.addMissingKeywords now keywords language ctx s).result =
        codeOf (e.createKeywords now (cleanKeywords keywords) ctx s).result ∧
      (e.addMissingKeywords now keywords language ctx s).journal =
        e.keywordsStart (cleanKeywords keywords).length language ::
          (e.createKeywords now (cleanKeywords keywords) ctx s).journal := by
  rw [addMissingKeywords]
  dsimp only
  rw [if_neg (by simpa using hkeywords), hfind]
  exact ⟨rfl, rfl⟩

theorem addMissingKeywords_tells_of_known (hkeywords : cleanKeywords keywords ≠ [])
    (hv : Store.Active e.text s e.config.keywordsVocabulary r existing)
    (hknown : missingKeywords existing.items (cleanKeywords keywords) = []) :
    codeOf (e.addMissingKeywords now keywords language ctx s).result = none ∧
      (e.addMissingKeywords now keywords language ctx s).journal =
        [e.keywordsStart (cleanKeywords keywords).length language] := by
  rw [addMissingKeywords]
  dsimp only
  rw [if_neg (by simpa using hkeywords), Store.find_eq_some_iff.2 ⟨r, hv⟩, fromStore_ok]
  dsimp only
  rw [hknown]
  exact ⟨rfl, rfl⟩

theorem addMissingKeywords_tells_of_missing (hkeywords : cleanKeywords keywords ≠ [])
    (hv : Store.Active e.text s e.config.keywordsVocabulary r existing)
    (hmissing : missingKeywords existing.items (cleanKeywords keywords) ≠ []) :
    codeOf (e.addMissingKeywords now keywords language ctx s).result =
        codeOf (e.extendKeywords now existing
          (missingKeywords existing.items (cleanKeywords keywords)) ctx s).result ∧
      (e.addMissingKeywords now keywords language ctx s).journal =
        e.keywordsStart (cleanKeywords keywords).length language ::
          (e.extendKeywords now existing
            (missingKeywords existing.items (cleanKeywords keywords)) ctx s).journal := by
  rw [addMissingKeywords]
  dsimp only
  rw [if_neg (by simpa using hkeywords), Store.find_eq_some_iff.2 ⟨r, hv⟩, fromStore_ok]
  dsimp only
  rw [if_neg (by simpa using hmissing)]
  exact ⟨rfl, rfl⟩

end

end Engine

end Newsroom
