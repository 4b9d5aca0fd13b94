import Newsroom.Proofs.Service.Alike
import Newsroom.Proofs.Service.Journals
import Newsroom.Proofs.Service.Received

/-!
# The log keeps the contents of items to itself

Messages of errors quote the values of items; the journal tells codes and counts. Let two runs of
an operation differ in the contents of items and in keywords only, in the store and in the arguments
(`Store.Alike`, `Operation.Alike`), and let them take the same course (`Engine.SameCourse`): they
end alike, with the same code for the same document, and come to the same counts. Then their
journals are the same (`Engine.journals_agree`), though their errors may say different things
(`Engine.spellings_untold`).

A journal shows how far each check has come. What has to be proved is that the code of the answer
shows it already: a check is completed in both runs or in neither (`Engine.validate_passes_iff`).
-/

namespace Newsroom

namespace Engine

variable (e : Engine)

/-! ### What a run is known by -/

/-- The number of vocabularies that the check of the items asks the store for. -/
def lookups (s : Store) (v : Vocabulary) : Nat := (e.runChecks s v).2.asked.length

/-- Two documents whose checks, each in its store, come to the same counts if both are completed:
of items, and of vocabularies that are asked for. -/
def SameCounts (s s' : Store) (v w : Vocabulary) : Prop :=
  (e.validate s v).result = .ok () → (e.validate s' w).result = .ok () →
    v.items.length = w.items.length ∧ e.lookups s v = e.lookups s' w

/-- The documents of a batch as they are checked, up to the first one that is refused. -/
def checkedBatch (s : Store) : List Vocabulary → List Vocabulary
  | [] => []
  | v :: vs =>
    v.withUniqueDefault ::
      match (e.checkNew s v.withUniqueDefault).result with
      | .error _ => []
      | .ok _ => checkedBatch s vs

/-- What an update leads to, if its items are checked at all. -/
def checkedUpdate (stored : Vocabulary) (u : VocabularyUpdate) : List Vocabulary :=
  match u.items, e.checkReserved (stored.applyUpdate u) with
  | some _, .ok _ => [stored.updatedBy u]
  | _, _ => []

/-- The vocabulary of keywords as it is checked with the keywords that are new in it. -/
def checkedKeywords (s : Store) (keywords : List String) : List Vocabulary :=
  if cleanKeywords keywords = [] then []
  else
    match Store.find e.text s e.config.keywordsVocabulary with
    | .error _ => []
    | .ok none =>
      e.checkedBatch s [keywordsVocabulary e.config.keywordsVocabulary (cleanKeywords keywords)]
    | .ok (some existing) =>
      if missingKeywords existing.items (cleanKeywords keywords) = [] then []
      else e.checkedUpdate existing (.ofItems (existing.items ++
        (missingKeywords existing.items (cleanKeywords keywords)).map Item.named))

/-- The documents whose items an operation checks, in order. -/
def checked (s : Store) : Operation → List Vocabulary
  | .create docs _ => e.checkedBatch s docs
  | .replace id doc _ =>
    match Store.find e.text s id with
    | .ok (some stored) => if doc.id = stored.id then [doc.withUniqueDefault] else []
    | _ => []
  | .update id u _ =>
    match Store.find e.text s id with
    | .ok (some stored) => e.checkedUpdate stored u
    | _ => []
  | .delete _ => []
  | .addMissingKeywords keywords _ _ => e.checkedKeywords s keywords
  | .onArticlePublished keywords _ _ =>
    if e.config.addKeywordsOnPublish then e.checkedKeywords s keywords else []

end Engine

/-- The keywords of an operation without blank ones and repetitions. -/
def Operation.candidates : Operation → List String
  | .addMissingKeywords keywords _ _ | .onArticlePublished keywords _ _ => cleanKeywords keywords
  | _ => []

namespace Engine

/-- Two runs take the same course: both succeed, or both fail with the same code. They check equally
many documents, so a batch is refused for the same one, with the same counts, where the vocabulary
of keywords counts with those that are added. And equally many keywords are left without
repetitions. -/
structure SameCourse (e : Engine) (now now' : Int64) (s s' : Store) (op op' : Operation) : Prop where
  code : codeOf (e.perform now op s).result = codeOf (e.perform now' op' s').result
  checks : List.Forall₂ (e.SameCounts s s') (e.checked s op) (e.checked s' op')
  keywords : op.candidates.length = op'.candidates.length

variable {e : Engine} {s s' : Store} {v w : Vocabulary}

/-! ### One candidate -/

/-- Checks of documents that agree but for their items tell the same if both are completed with the
same counts, or neither is completed. -/
theorem journal_validate_eq (hagree : v.Agree w)
    (hpass : (e.validate s v).result = .ok () ↔ (e.validate s' w).result = .ok ())
    (hsame : e.SameCounts s s' v w) : (e.validate s v).journal = (e.validate s' w).journal := by
  rw [journal_validate, journal_validate]
  cases hv : (e.validate s v).result with
  | error err =>
    cases hw : (e.validate s' w).result with
    | error err' => rfl
    | ok _ =>
      rw [hpass.2 hw] at hv
      cases hv
  | ok _ =>
    have hw := hpass.1 hv
    obtain ⟨hcount, hlookups⟩ := hsame hv hw
    have hempty : v.items.isEmpty = w.items.isEmpty := by
      rw [Bool.eq_iff_iff, List.isEmpty_iff_length_eq_zero, List.isEmpty_iff_length_eq_zero, hcount]
    rw [lookups, lookups] at hlookups
    rw [hw, hagree.schema_eq, hempty, checkedEntry, checkedEntry, hagree.id_eq, hcount, hlookups]

/-- With quiet checks behind them, checks of documents that agree but for their items tell the same
if they come to the same code and the same counts. -/
theorem journal_validate_bind_eq {f f' : Unit → Traced Unit} (hs : s.Readable e.text)
    (hs' : s'.Readable e.text) (hagree : v.Agree w) (hf : ∀ a, (f a).Quiet laterCodes)
    (hf' : ∀ a, (f' a).Quiet laterCodes)
    (hcode : codeOf (e.validate s v >>= f).result = codeOf (e.validate s' w >>= f').result)
    (hsame : e.SameCounts s s' v w) :
    (e.validate s v >>= f).journal = (e.validate s' w >>= f').journal := by
  rw [Traced.journal_bind_quiet hf, Traced.journal_bind_quiet hf']
  refine journal_validate_eq hagree ?_ hsame
  rw [validate_passes_iff hs hf, validate_passes_iff hs' hf', hcode]

theorem journal_checkNew_eq (hs : s.Readable e.text) (hs' : s'.Readable e.text)
    (hagree : v.Agree w) (hcode : codeOf (e.checkNew s v).result = codeOf (e.checkNew s' w).result)
    (hsame : e.SameCounts s s' v w) : (e.checkNew s v).journal = (e.checkNew s' w).journal :=
  journal_validate_bind_eq hs hs' hagree (fun _ => quiet_afterNew hs v)
    (fun _ => quiet_afterNew hs' w) hcode hsame

theorem journal_checkFull_eq (hs : s.Readable e.text) (hs' : s'.Readable e.text)
    (hagree : v.Agree w)
    (hcode : codeOf (e.checkFull s v).result = codeOf (e.checkFull s' w).result)
    (hsame : e.SameCounts s s' v w) : (e.checkFull s v).journal = (e.checkFull s' w).journal :=
  journal_validate_bind_eq hs hs' hagree
    (fun _ => (quiet_checkUnique _ _).bind fun _ => quiet_checkReserved)
    (fun _ => (quiet_checkUnique _ _).bind fun _ => quiet_checkReserved) hcode hsame

variable {now now' : Int64} {ctx : Context} {id : String}

/-! ### Creation -/

theorem checkedBatch_of_error {d : Vocabulary} {ds : List Vocabulary} {err : ServiceError}
    (h : (e.checkNew s d.withUniqueDefault).result = .error err) :
    e.checkedBatch s (d :: ds) = [d.withUniqueDefault] := by
  rw [checkedBatch, h]

theorem checkedBatch_of_ok {d : Vocabulary} {ds : List Vocabulary}
    (h : (e.checkNew s d.withUniqueDefault).result = .ok ()) :
    e.checkedBatch s (d :: ds) = d.withUniqueDefault :: e.checkedBatch s ds := by
  rw [checkedBatch, h]

/-- The first document of a batch is refused exactly when no other one is checked and the batch
fails. -/
theorem exists_refused_iff (d : Vocabulary) (ds : List Vocabulary) :
    (∃ err, (e.checkNew s d.withUniqueDefault).result = .error err) ↔
      (e.checkedBatch s (d :: ds)).length = 1 ∧
        codeOf (e.checkBatch s (d :: ds)).traced.result ≠ none := by
  cases hfirst : (e.checkNew s d.withUniqueDefault).result with
  | error err =>
    rw [checkedBatch_of_error hfirst, traced_checkBatch_of_error hfirst]
    exact iff_of_true ⟨err, rfl⟩ ⟨rfl, nofun⟩
  | ok _ =>
    rw [checkedBatch_of_ok hfirst, traced_checkBatch_of_ok hfirst]
    refine iff_of_false (fun ⟨_, h⟩ => nomatch h) ?_
    rintro ⟨hlength, hfails⟩
    cases ds with
    | nil => exact hfails rfl
    | cons d' ds => simp [checkedBatch] at hlength

/-- Checks of alike batches tell the same if they come to the same code, for the same document, and
to the same counts. -/
theorem journal_checkBatch_eq (hs : s.Readable e.text) (hs' : s'.Readable e.text)
    {docs docs' : List Vocabulary} (hdocs : List.Forall₂ Vocabulary.Alike docs docs')
    (hcode : codeOf (e.checkBatch s docs).traced.result =
      codeOf (e.checkBatch s' docs').traced.result)
    (hchecks : List.Forall₂ (e.SameCounts s s') (e.checkedBatch s docs)
      (e.checkedBatch s' docs')) :
    (e.checkBatch s docs).traced.journal = (e.checkBatch s' docs').traced.journal := by
  induction hdocs with
  | nil => rfl
  | @cons d d' ds ds' hd _ ih =>
    have hagree := hd.agree.withUniqueDefault
    have hrefused : (∃ err, (e.checkNew s d.withUniqueDefault).result = .error err) ↔
        ∃ err, (e.checkNew s' d'.withUniqueDefault).result = .error err := by
      rw [exists_refused_iff d ds, exists_refused_iff d' ds', hchecks.length_eq, hcode]
    cases hfirst : (e.checkNew s d.withUniqueDefault).result with
    | error err =>
      obtain ⟨err', hfirst'⟩ := hrefused.1 ⟨err, hfirst⟩
      rw [checkedBatch_of_error hfirst, checkedBatch_of_error hfirst'] at hchecks
      rw [traced_checkBatch_of_error hfirst, traced_checkBatch_of_error hfirst'] at hcode ⊢
      rw [← hfirst, ← hfirst'] at hcode
      exact journal_checkNew_eq hs hs' hagree hcode (List.forall₂_cons.1 hchecks).1
    | ok _ =>
      cases hfirst' : (e.checkNew s' d'.withUniqueDefault).result with
      | error err' =>
        obtain ⟨err, herr⟩ := hrefused.2 ⟨err', hfirst'⟩
        rw [hfirst] at herr
        cases herr
      | ok _ =>
        rw [checkedBatch_of_ok hfirst, checkedBatch_of_ok hfirst'] at hchecks
        rw [traced_checkBatch_of_ok hfirst, traced_checkBatch_of_ok hfirst'] at hcode ⊢
        obtain ⟨hsame, hrest⟩ := List.forall₂_cons.1 hchecks
        have hhead : (e.checkNew s d.withUniqueDefault).journal =
            (e.checkNew s' d'.withUniqueDefault).journal :=
          journal_checkNew_eq hs hs' hagree (by rw [hfirst, hfirst']) hsame
        dsimp only
        rw [hhead, ih hcode hrest]

theorem creationEntries_eq {docs docs' : List Vocabulary}
    (hdocs : List.Forall₂ Vocabulary.Alike docs docs') (code : Option String) :
    creationEntries ctx docs code = creationEntries ctx docs' code := by
  cases code with
  | some code => rw [creationEntries, creationEntries, hdocs.length_eq]
  | none =>
    rw [creationEntries, creationEntries, Vocabulary.map_eq_of_alike hdocs fun v w h => h.id_eq,
      Vocabulary.map_eq_of_alike hdocs fun v w h => h.noticeOf_eq .created ctx]

theorem journal_create_eq (hs : s.Readable e.text) (hs' : s'.Readable e.text)
    {docs docs' : List Vocabulary} (hdocs : List.Forall₂ Vocabulary.Alike docs docs')
    (hcode : codeOf (e.create now docs ctx s).result = codeOf (e.create now' docs' ctx s').result)
    (hchecks : List.Forall₂ (e.SameCounts s s') (e.checkedBatch s docs)
      (e.checkedBatch s' docs')) :
    (e.create now docs ctx s).journal = (e.create now' docs' ctx s').journal := by
  have hbatch : codeOf (e.checkBatch s docs).traced.result =
      codeOf (e.checkBatch s' docs').traced.result := by
    rw [codeOf_checkBatch now ctx hs, hcode, ← codeOf_checkBatch now' ctx hs']
  rw [create_tells, create_tells, journal_checkBatch_eq hs hs' hdocs hbatch hchecks, hcode,
    creationEntries_eq hdocs]

/-! ### Replacement -/

theorem journal_replace_eq (hstores : s.Alike e.text s') {doc doc' : Vocabulary}
    (hdoc : doc.Alike doc')
    (hcode : codeOf (e.replace now id doc ctx s).result =
      codeOf (e.replace now' id doc' ctx s').result)
    (hchecks : List.Forall₂ (e.SameCounts s s') (e.checked s (.replace id doc ctx))
      (e.checked s' (.replace id doc' ctx))) :
    (e.replace now id doc ctx s).journal = (e.replace now' id doc' ctx s').journal := by
  rcases hstores.find_cases id with ⟨hnone, hnone'⟩ | ⟨r, r', v, w, hv, hw, halike⟩
  · rw [replace, replace, Store.get_of_find_none hnone, Store.get_of_find_none hnone']
    rfl
  by_cases hid : doc.id = v.id
  · have hid' : doc'.id = w.id := by rw [← hdoc.agree.id_eq, hid, halike.agree.id_eq]
    obtain ⟨hresult, htold⟩ := replace_of_same now ctx hv hid
    obtain ⟨hresult', htold'⟩ := replace_of_same now' ctx hw hid'
    rw [hresult, hresult'] at hcode
    rw [checked, checked, Store.find_eq_some_iff.2 ⟨r, hv⟩,
      Store.find_eq_some_iff.2 ⟨r', hw⟩] at hchecks
    dsimp only at hchecks
    rw [if_pos hid, if_pos hid'] at hchecks
    have hcheck := journal_checkFull_eq hstores.readable_left hstores.readable_right
      hdoc.agree.withUniqueDefault hcode (List.forall₂_cons.1 hchecks).1
    rw [htold, htold', hcheck, hcode, replacementEntry, replacementEntry, hdoc.agree.id_eq,
      hdoc.agree.noticeOf_eq]
  · have hid' : doc'.id ≠ w.id := by rwa [← hdoc.agree.id_eq, ← halike.agree.id_eq]
    rw [replace_of_other hv hid, replace_of_other hw hid']

/-! ### Partial update -/

section

variable {u u' : VocabularyUpdate}

theorem checkedUpdate_of_items (h : e.checkReserved (v.applyUpdate u) = .ok ())
    (hitems : u.items.isSome = true) : e.checkedUpdate v u = [v.updatedBy u] := by
  obtain ⟨items, hitems⟩ := Option.isSome_iff_exists.1 hitems
  rw [checkedUpdate, hitems, h]

/-- Checks of updates that agree but for their items tell the same if they come to the same code
and the same counts. -/
theorem journal_checkUpdate_eq (hs : s.Readable e.text) (hs' : s'.Readable e.text)
    (hagree : v.Agree w) (hu : u.Agree u')
    (hcode : codeOf (e.checkUpdate s u v).traced.result =
      codeOf (e.checkUpdate s' u' w).traced.result)
    (hchecks : List.Forall₂ (e.SameCounts s s') (e.checkedUpdate v u) (e.checkedUpdate w u')) :
    (e.checkUpdate s u v).traced.journal = (e.checkUpdate s' u' w).traced.journal := by
  have hsame := (hagree.applyUpdate hu).checkReserved_eq e
  cases hreserved : e.checkReserved (v.applyUpdate u) with
  | error err =>
    rw [traced_checkUpdate_of_reserved hreserved,
      traced_checkUpdate_of_reserved (hsame.symm.trans hreserved)]
  | ok _ =>
    have hreserved' : e.checkReserved (w.applyUpdate u') = .ok () := hsame.symm.trans hreserved
    have hcarries := hu.carries
    cases hitems : u.items with
    | none =>
      rw [hitems, eq_comm, Option.isSome_none, Option.isSome_eq_false_iff,
        Option.isNone_iff_eq_none] at hcarries
      rw [traced_checkUpdate_of_no_items hreserved hitems,
        traced_checkUpdate_of_no_items hreserved' hcarries]
      rfl
    | some items =>
      have hsome : u.items.isSome = true := by rw [hitems]; rfl
      obtain ⟨items', hitems'⟩ := Option.isSome_iff_exists.1 (hcarries ▸ hsome)
      rw [checkedUpdate_of_items hreserved hsome,
        checkedUpdate_of_items hreserved' (hcarries ▸ hsome)] at hchecks
      rw [traced_checkUpdate_of_items hreserved hitems,
        traced_checkUpdate_of_items hreserved' hitems'] at hcode ⊢
      exact journal_validate_bind_eq hs hs' (hagree.updatedBy hu)
        (fun _ => quiet_checkUnique _ _) (fun _ => quiet_checkUnique _ _) hcode
        (List.forall₂_cons.1 hchecks).1

end

theorem journal_update_eq (hstores : s.Alike e.text s') {u u' : VocabularyUpdate}
    (hu : u.Alike u')
    (hcode : codeOf (e.update now id u ctx s).result =
      codeOf (e.update now' id u' ctx s').result)
    (hchecks : List.Forall₂ (e.SameCounts s s') (e.checked s (.update id u ctx))
      (e.checked s' (.update id u' ctx))) :
    (e.update now id u ctx s).journal = (e.update now' id u' ctx s').journal := by
  rcases hstores.find_cases id with ⟨hnone, hnone'⟩ | ⟨r, r', v, w, hv, hw, halike⟩
  · rw [update, update, Store.get_of_find_none hnone, Store.get_of_find_none hnone']
    rfl
  have hcheckCode : codeOf (e.checkUpdate s u v).traced.result =
      codeOf (e.checkUpdate s' u' w).traced.result := by
    rw [codeOf_checkUpdate now ctx hv, codeOf_checkUpdate now' ctx hw, hcode, hu.agree.carries]
  rw [checked, checked, Store.find_eq_some_iff.2 ⟨r, hv⟩,
    Store.find_eq_some_iff.2 ⟨r', hw⟩] at hchecks
  have hcheck := journal_checkUpdate_eq hstores.readable_left hstores.readable_right
    halike.agree hu.agree hcheckCode hchecks
  have hentries : ∀ check code, updateEntries id ctx (v.updatedBy u) check code =
      updateEntries id ctx (w.updatedBy u') check code := by
    rintro (_ | _) (_ | _)
    · rw [updateEntries, updateEntries, halike.count_updatedBy hu,
        (halike.agree.updatedBy hu.agree).noticeOf_eq]
    all_goals rfl
  rw [update_tells now ctx hv, update_tells now' ctx hw, hcheck, hcheckCode, hcode, hentries]

/-! ### Deletion -/

theorem journal_delete_eq (hstores : s.Alike e.text s') :
    (e.delete now id s).journal = (e.delete now' id s').journal := by
  rcases hstores.find_cases id with ⟨hnone, hnone'⟩ | ⟨r, r', v, w, hv, hw, halike⟩
  · rw [delete, delete, Store.get_of_find_none hnone, Store.get_of_find_none hnone']
    rfl
  · rw [delete, delete, hv.get_eq, hw.get_eq, fromStore_ok, fromStore_ok]
    dsimp only
    rw [checkDeletion, checkDeletion, ← halike.agree.custom_eq]
    cases v.custom with
    | false => rfl
    | true =>
      rw [Store.softDelete_eq_ok_iff.2 ⟨r, hv.row, hv.active, rfl⟩,
        Store.softDelete_eq_ok_iff.2 ⟨r', hw.row, hw.active, rfl⟩]
      rfl

/-! ### Keywords -/

section

variable {keywords keywords' missing missing' : List String} {language : Option String}
  {existing existing' : Vocabulary} {r r' : Row}

theorem alike_keywordsVocabulary (id : String) (h : keywords.length = keywords'.length) :
    (keywordsVocabulary id keywords).Alike (keywordsVocabulary id keywords') :=
  ⟨rfl, by simp [keywordsVocabulary, h]⟩

theorem journal_createKeywords_eq (hs : s.Readable e.text) (hs' : s'.Readable e.text)
    (hcount : keywords.length = keywords'.length)
    (hcode : codeOf (e.createKeywords now keywords ctx s).result =
      codeOf (e.createKeywords now' keywords' ctx s').result)
    (hchecks : List.Forall₂ (e.SameCounts s s')
      (e.checkedBatch s [keywordsVocabulary e.config.keywordsVocabulary keywords])
      (e.checkedBatch s' [keywordsVocabulary e.config.keywordsVocabulary keywords'])) :
    (e.createKeywords now keywords ctx s).journal =
      (e.createKeywords now' keywords' ctx s').journal := by
  obtain ⟨hresult, htold⟩ := e.createKeywords_tells now keywords ctx s
  obtain ⟨hresult', htold'⟩ := e.createKeywords_tells now' keywords' ctx s'
  have hdocs := List.Forall₂.cons
    (alike_keywordsVocabulary e.config.keywordsVocabulary hcount) List.Forall₂.nil
  have hcreated := journal_create_eq hs hs' hdocs (by rw [← hresult, ← hresult', hcode]) hchecks
  rw [htold, htold', hcreated, hcode, hcount]

theorem journal_extendKeywords_eq (hs : s.Readable e.text) (hs' : s'.Readable e.text)
    (hv : Store.Active e.text s e.config.keywordsVocabulary r existing)
    (hw : Store.Active e.text s' e.config.keywordsVocabulary r' existing')
    (halike : existing.Alike existing')
    (hcode : codeOf (e.extendKeywords now existing missing ctx s).result =
      codeOf (e.extendKeywords now' existing' missing' ctx s').result)
    (hchecks : List.Forall₂ (e.SameCounts s s')
      (e.checkedUpdate existing (.ofItems (existing.items ++ missing.map Item.named)))
      (e.checkedUpdate existing' (.ofItems (existing'.items ++ missing'.map Item.named)))) :
    (e.extendKeywords now existing missing ctx s).journal =
      (e.extendKeywords now' existing' missing' ctx s').journal := by
  obtain ⟨hresult, htold⟩ := extendKeywords_tells now missing ctx hv rfl
  obtain ⟨hresult', htold'⟩ := extendKeywords_tells now' missing' ctx hw rfl
  have hu := VocabularyUpdate.agree_ofItems (existing.items ++ missing.map Item.named)
    (existing'.items ++ missing'.map Item.named)
  have hupdated := halike.agree.updatedBy hu
  rw [hresult, hresult'] at hcode
  rw [htold, htold', journal_checkUpdate_eq hs hs' halike.agree hu hcode hchecks, ← hcode,
    hupdated.noticeOf_eq]
  rcases cases_of_codeOf_eq hcode with ⟨err, err', hrefused, -⟩ | ⟨_, _, hpassed, hpassed'⟩
  · rw [hrefused]
    rfl
  · -- both checks are completed, so they are made with equally many items
    have haccepts := checkUpdate_eq_ok_iff.1 hpassed
    have haccepts' := checkUpdate_eq_ok_iff.1 hpassed'
    rw [checkedUpdate_of_items (checkReserved_updatedBy.1 haccepts.reserved) rfl,
      checkedUpdate_of_items (checkReserved_updatedBy.1 haccepts'.reserved) rfl] at hchecks
    have hsame := (List.forall₂_cons.1 hchecks).1
    have hitems := (hsame (haccepts.valid rfl) (haccepts'.valid rfl)).1
    have hcount : missing.length = missing'.length := by
      simpa [VocabularyUpdate.ofItems, halike.count] using hitems
    rw [hcount]

theorem checkedKeywords_of_none (hkeywords : cleanKeywords keywords ≠ [])
    (hfind : Store.find e.text s e.config.keywordsVocabulary = .ok none) :
    e.checkedKeywords s keywords =
      e.checkedBatch s
        [keywordsVocabulary e.config.keywordsVocabulary (cleanKeywords keywords)] := by
  rw [checkedKeywords, if_neg hkeywords, hfind]

theorem checkedKeywords_of_active (hkeywords : cleanKeywords keywords ≠ [])
    (hv : Store.Active e.text s e.config.keywordsVocabulary r existing) :
    e.checkedKeywords s keywords =
      if missingKeywords existing.items (cleanKeywords keywords) = [] then []
      else e.checkedUpdate existing (.ofItems (existing.items ++
        (missingKeywords existing.items (cleanKeywords keywords)).map Item.named)) := by
  rw [checkedKeywords, if_neg hkeywords, Store.find_eq_some_iff.2 ⟨r, hv⟩]

/-- Nothing is missing exactly when the merge succeeds without a check. -/
theorem missing_eq_nil_iff (now : Int64) (language : Option String) (ctx : Context)
    (hkeywords : cleanKeywords keywords ≠ [])
    (hv : Store.Active e.text s e.config.keywordsVocabulary r existing) :
    missingKeywords existing.items (cleanKeywords keywords) = [] ↔
      codeOf (e.addMissingKeywords now keywords language ctx s).result = none ∧
        (e.checkedKeywords s keywords).length = 0 := by
  rw [checkedKeywords_of_active hkeywords hv]
  by_cases hmissing : missingKeywords existing.items (cleanKeywords keywords) = []
  · rw [if_pos hmissing]
    exact iff_of_true hmissing
      ⟨(addMissingKeywords_tells_of_known now language ctx hkeywords hv hmissing).1, rfl⟩
  · rw [if_neg hmissing]
    refine iff_of_false hmissing ?_
    rintro ⟨hcode, hnone⟩
    rw [(addMissingKeywords_tells_of_missing now language ctx hkeywords hv hmissing).1,
      (extendKeywords_tells now _ ctx hv rfl).1] at hcode
    cases hcheck : (e.checkUpdate s (.ofItems (existing.items ++
        (missingKeywords existing.items (cleanKeywords keywords)).map Item.named))
        existing).traced.result with
    | error err =>
      rw [hcheck] at hcode
      cases hcode
    | ok _ =>
      have haccepts := checkUpdate_eq_ok_iff.1 hcheck
      rw [checkedUpdate_of_items (checkReserved_updatedBy.1 haccepts.reserved) rfl] at hnone
      cases hnone

theorem journal_addMissingKeywords_eq (hstores : s.Alike e.text s')
    (hcount : (cleanKeywords keywords).length = (cleanKeywords keywords').length)
    (hcode : codeOf (e.addMissingKeywords now keywords language ctx s).result =
      codeOf (e.addMissingKeywords now' keywords' language ctx s').result)
    (hchecks : List.Forall₂ (e.SameCounts s s') (e.checkedKeywords s keywords)
      (e.checkedKeywords s' keywords')) :
    (e.addMissingKeywords now keywords language ctx s).journal =
      (e.addMissingKeywords now' keywords' language ctx s').journal := by
  have hs := hstores.readable_left
  have hs' := hstores.readable_right
  by_cases hkeywords : cleanKeywords keywords = []
  · rw [hkeywords, List.length_nil, eq_comm, List.length_eq_zero_iff] at hcount
    rw [addMissingKeywords, addMissingKeywords, hkeywords, hcount]
    rfl
  have hkeywords' : cleanKeywords keywords' ≠ [] := by
    intro hnone
    rw [hnone, List.length_nil, List.length_eq_zero_iff] at hcount
    exact hkeywords hcount
  rcases hstores.find_cases e.config.keywordsVocabulary with
    ⟨hnone, hnone'⟩ | ⟨r, r', v, w, hv, hw, halike⟩
  · obtain ⟨hresult, htold⟩ := addMissingKeywords_tells_of_none now language ctx hkeywords
      hnone
    obtain ⟨hresult', htold'⟩ := addMissingKeywords_tells_of_none now' language ctx hkeywords'
      hnone'
    rw [checkedKeywords_of_none hkeywords hnone,
      checkedKeywords_of_none hkeywords' hnone'] at hchecks
    rw [hresult, hresult'] at hcode
    rw [htold, htold', journal_createKeywords_eq hs hs' hcount hcode hchecks, hcount]
  · have hmissing_iff : missingKeywords v.items (cleanKeywords keywords) = [] ↔
        missingKeywords w.items (cleanKeywords keywords') = [] := by
      rw [missing_eq_nil_iff now language ctx hkeywords hv,
        missing_eq_nil_iff now' language ctx hkeywords' hw, hcode, hchecks.length_eq]
    by_cases hmissing : missingKeywords v.items (cleanKeywords keywords) = []
    · have hmissing' := hmissing_iff.1 hmissing
      rw [(addMissingKeywords_tells_of_known now language ctx hkeywords hv hmissing).2,
        (addMissingKeywords_tells_of_known now' language ctx hkeywords' hw hmissing').2, hcount]
    · have hmissing' := fun h => hmissing (hmissing_iff.2 h)
      obtain ⟨hresult, htold⟩ := addMissingKeywords_tells_of_missing now language ctx hkeywords
        hv hmissing
      obtain ⟨hresult', htold'⟩ := addMissingKeywords_tells_of_missing now' language ctx
        hkeywords' hw hmissing'
      rw [checkedKeywords_of_active hkeywords hv, if_neg hmissing,
        checkedKeywords_of_active hkeywords' hw, if_neg hmissing'] at hchecks
      rw [hresult, hresult'] at hcode
      rw [htold, htold', journal_extendKeywords_eq hs hs' hv hw halike hcode hchecks, hcount]

end

/-! ### Every operation -/

theorem codeOf_map {α β : Type} (f : α → β) (o : Outcome α) :
    codeOf (o.map f).result = codeOf o.result := by
  rw [Outcome.map]
  cases o.result <;> rfl

/-- **Item contents never reach the log**: two runs of an operation, at any time, that differ in
the contents of items and in keywords only, in the store and in the arguments, and that take the
same course, have the same journal. So their log records are the same at all levels, and so are
their events, also where these are published by logging them. -/
theorem journals_agree (e : Engine) (now now' : Int64) (s s' : Store) (op op' : Operation)
    (hstores : s.Alike e.text s') (hop : op.Alike op')
    (hcourse : e.SameCourse now now' s s' op op') :
    (e.perform now op s).journal = (e.perform now' op' s').journal := by
  obtain ⟨hcode, hchecks, hkeywords⟩ := hcourse
  have hs := hstores.readable_left
  have hs' := hstores.readable_right
  cases hop with
  | create hdocs =>
    simp only [perform, codeOf_map] at hcode
    exact journal_create_eq hs hs' hdocs hcode hchecks
  | replace hdoc =>
    simp only [perform, codeOf_map] at hcode
    exact journal_replace_eq hstores hdoc hcode hchecks
  | update hu =>
    simp only [perform, codeOf_map] at hcode
    exact journal_update_eq hstores hu hcode hchecks
  | delete => exact journal_delete_eq hstores
  | addMissingKeywords =>
    simp only [perform, codeOf_map] at hcode
    exact journal_addMissingKeywords_eq hstores hkeywords hcode hchecks
  | @onArticlePublished keywords keywords' language ctx =>
    simp only [perform, codeOf_map, onArticlePublished] at hcode
    show (e.onArticlePublished now keywords language ctx s).journal =
      (e.onArticlePublished now' keywords' language ctx s').journal
    rw [onArticlePublished, onArticlePublished]
    rw [checked, checked] at hchecks
    split
    case isTrue hset =>
      rw [if_pos hset, if_pos hset] at hcode hchecks
      exact journal_addMissingKeywords_eq hstores hkeywords hcode hchecks
    case isFalse => rfl

/-- A store with one keyword. -/
def keywordStore (keyword : String) : Store :=
  TextMap.insert ∅ "keywords" (Row.written .json (keywordsVocabulary "keywords" [keyword]) 1 1)

/-- The update of the keywords to two. -/
def twoKeywords (first second : String) : VocabularyUpdate :=
  .ofItems [Item.named first, Item.named second]

theorem active_keywordStore (keyword : String) :
    Store.Active (ofConfig .default).text (keywordStore keyword) "keywords"
      (Row.written .json (keywordsVocabulary "keywords" [keyword]) 1 1)
      ((keywordsVocabulary "keywords" [keyword]).marked false 1 1) := by
  have hread := Row.vocabulary_written (TextLayer.keepsKeywords_json "keywords" [keyword] 1 1)
    (Operation.wellFormed_keywordsVocabulary _ _)
  exact ⟨TextMap.get?_insert_self _ _ _, rfl, hread⟩

theorem alike_keywordStore (keyword keyword' : String) :
    (keywordStore keyword).Alike (ofConfig .default).text (keywordStore keyword') := by
  intro id
  by_cases hid : "keywords" = id
  · subst hid
    have hv := active_keywordStore keyword
    have hw := active_keywordStore keyword'
    rw [hv.row, hw.row]
    exact .some ⟨_, _, hv.read, hw.read, rfl, rfl⟩
  · have hnone : ∀ k, (keywordStore k).get? id = none := fun k => by
      rw [keywordStore, TextMap.get?_insert, if_neg hid]
      rfl
    rw [hnone, hnone]
    exact .none

theorem checked_twoKeywords (keyword first second : String) :
    (ofConfig .default).checked (keywordStore keyword)
        (.update "keywords" (twoKeywords first second) .blank) =
      [((keywordsVocabulary "keywords" [keyword]).marked false 1 1).updatedBy
        (twoKeywords first second)] := by
  rw [checked, Store.find_eq_some_iff.2 ⟨_, active_keywordStore keyword⟩]
  exact checkedUpdate_of_items rfl rfl

theorem perform_twoKeywords (now : Int64) {keyword first second : String} {err : ServiceError}
    (h : ((ofConfig .default).checkUpdate (keywordStore keyword) (twoKeywords first second)
      ((keywordsVocabulary "keywords" [keyword]).marked false 1 1)).traced.result = .error err) :
    ((ofConfig .default).perform now (.update "keywords" (twoKeywords first second) .blank)
      (keywordStore keyword)).result = .error err := by
  rw [perform, Outcome.map, update_of_refused now .blank (active_keywordStore keyword) h]
  rfl

/-- Two spellings of Kyiv are refused in one store, two of Lima in another: the messages quote
them, the log tells the same. -/
theorem spellings_untold :
    (keywordStore "Rome").Alike (ofConfig .default).text (keywordStore "Oslo") ∧
      ((ofConfig .default).perform 2 (.update "keywords" (twoKeywords "Kyiv" "KYIV") .blank)
        (keywordStore "Rome")).result =
          .error (.validation (.duplicateValue "name" "KYIV" 1)) ∧
      ((ofConfig .default).perform 3 (.update "keywords" (twoKeywords "Lima" "lima") .blank)
        (keywordStore "Oslo")).result =
          .error (.validation (.duplicateValue "name" "lima" 1)) ∧
      ((ofConfig .default).perform 2 (.update "keywords" (twoKeywords "Kyiv" "KYIV") .blank)
        (keywordStore "Rome")).journal =
      ((ofConfig .default).perform 3 (.update "keywords" (twoKeywords "Lima" "lima") .blank)
        (keywordStore "Oslo")).journal := by
  have hkyiv : ((ofConfig .default).checkUpdate (keywordStore "Rome") (twoKeywords "Kyiv" "KYIV")
      ((keywordsVocabulary "keywords" ["Rome"]).marked false 1 1)).traced.result =
        .error (.validation (.duplicateValue "name" "KYIV" 1)) := rfl
  have hlima : ((ofConfig .default).checkUpdate (keywordStore "Oslo") (twoKeywords "Lima" "lima")
      ((keywordsVocabulary "keywords" ["Oslo"]).marked false 1 1)).traced.result =
        .error (.validation (.duplicateValue "name" "lima" 1)) := rfl
  have hresult := perform_twoKeywords 2 hkyiv
  have hresult' := perform_twoKeywords 3 hlima
  have hlookups : (ofConfig .default).lookups (keywordStore "Rome")
      (((keywordsVocabulary "keywords" ["Rome"]).marked false 1 1).updatedBy
        (twoKeywords "Kyiv" "KYIV")) = 0 := rfl
  have hlookups' : (ofConfig .default).lookups (keywordStore "Oslo")
      (((keywordsVocabulary "keywords" ["Oslo"]).marked false 1 1).updatedBy
        (twoKeywords "Lima" "lima")) = 0 := rfl
  have hcourse : (ofConfig .default).SameCourse 2 3 (keywordStore "Rome") (keywordStore "Oslo")
      (.update "keywords" (twoKeywords "Kyiv" "KYIV") .blank)
      (.update "keywords" (twoKeywords "Lima" "lima") .blank) := by
    refine ⟨by rw [hresult, hresult']; rfl, ?_, rfl⟩
    rw [checked_twoKeywords, checked_twoKeywords]
    exact .cons (fun _ _ => ⟨rfl, hlookups.trans hlookups'.symm⟩) .nil
  exact ⟨alike_keywordStore _ _, hresult, hresult',
    journals_agree (ofConfig .default) 2 3 _ _ _ _ (alike_keywordStore _ _)
      (.update ⟨rfl, rfl⟩) hcourse⟩

end Engine

end Newsroom
