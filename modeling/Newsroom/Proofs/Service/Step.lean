import Newsroom.Proofs.Service.Outcomes

/-!
# What one operation does to one row

An operation leaves a row alone, or it creates, replaces, updates or deletes it
(`Engine.RowStep`). `Engine.perform_rowStep` says so once, for every operation and every key, with
all that the checks of that write have established; what holds of rows over whole runs is derived
from it, without looking into the operations again.
-/

namespace Newsroom

namespace Operation

/-- The operation brings the whole document `v` to be stored. -/
def Brings (c : Config) : Operation → Vocabulary → Prop
  | .create docs _, v => v ∈ docs
  | .replace _ doc _, v => v = doc
  | .update _ _ _, _ => False
  | .delete _, _ => False
  | .addMissingKeywords keywords _ _, v | .onArticlePublished keywords _ _, v =>
    v = keywordsVocabulary c.keywordsVocabulary (cleanKeywords keywords)

/-- The operation applies the update `u` to the stored document `v` with the key `id`. -/
def Applies (c : Config) : Operation → String → Vocabulary → VocabularyUpdate → Prop
  | .create _ _, _, _, _ => False
  | .replace _ _ _, _, _, _ => False
  | .update target given _, id, _, u => id = target ∧ u = given
  | .delete _, _, _, _ => False
  | .addMissingKeywords keywords _ _, id, v, u | .onArticlePublished keywords _ _, id, v, u =>
    id = c.keywordsVocabulary ∧ u = .ofItems
      (v.items ++ (missingKeywords v.items (cleanKeywords keywords)).map Item.named)

/-- The operation, when it succeeds with the answer, has written the row under `id`. -/
def Writes (c : Config) : Operation → Answer → String → Prop
  | .create docs _, _, id => ∃ d ∈ docs, d.id = id
  | .replace target _ _, _, id => target = id
  | .update target _ _, _, id => target = id
  | .delete target, _, id => target = id
  | .addMissingKeywords _ _ _, a, id | .onArticlePublished _ _ _, a, id =>
    c.keywordsVocabulary = id ∧ a ≠ .keywords []

end Operation

theorem Answer.keywords_ne {added : List String} (h : added ≠ []) :
    Answer.keywords added ≠ .keywords [] := by
  rintro ⟨⟩
  exact h rfl

namespace Engine

/-- The operation has succeeded and has written the row under `id`. -/
def HasWritten (e : Engine) (op : Operation) (result : Except ServiceError Answer) (id : String) :
    Prop :=
  ∃ a, result = .ok a ∧ op.Writes e.config a id

/-- What an operation that comes to `result` may do to the row under a key: it writes the row
exactly when it succeeds and its answer says so. -/
inductive RowStep (e : Engine) (now : Int64) (op : Operation) (s : Store) (id : String)
    (result : Except ServiceError Answer) : Option Row → Option Row → Prop
  /-- The operation fails or writes other rows: the row, if there is one, stays as it is. -/
  | kept (r : Option Row) (h : ¬ e.HasWritten op result id) : RowStep e now op s id result r r
  /-- A document that passes gets a row of its own. -/
  | created {v : Vocabulary} (hok : e.HasWritten op result id) (hop : op.Brings e.config v)
      (hid : v.id = id) (h : e.Admits s v.withUniqueDefault) :
      RowStep e now op s id result none (some
        (Row.written e.text v.withUniqueDefault (v.created.getD now) (v.updated.getD now)))
  /-- A document that passes takes the place of the one in an active row. -/
  | replaced {v : Vocabulary} {r : Row} (hok : e.HasWritten op result id)
      (hop : op.Brings e.config v) (hid : v.id = id) (hactive : r.deleted = 0)
      (h : e.Admits s v.withUniqueDefault) :
      RowStep e now op s id result (some r)
        (some (Row.written e.text v.withUniqueDefault r.created now))
  /-- An update that passes is applied to the document of an active row. -/
  | updated {v : Vocabulary} {u : VocabularyUpdate} {r : Row} (hok : e.HasWritten op result id)
      (hop : op.Applies e.config id v u) (hactive : r.deleted = 0)
      (hread : r.vocabulary e.text id = .ok v) (h : e.Accepts s v u) :
      RowStep e now op s id result (some r)
        (some (Row.written e.text (v.updatedBy u) r.created now))
  /-- An active row with a custom document is marked as deleted. -/
  | deleted {v : Vocabulary} {r : Row} (hok : e.HasWritten op result id)
      (hop : op = .delete id) (hactive : r.deleted = 0)
      (hread : r.vocabulary e.text id = .ok v) (hcustom : v.custom = true) :
      RowStep e now op s id result (some r) (some (r.deletedAt now))

variable {e : Engine} {now : Int64} {op : Operation} {s s' : Store} {id : String} {ctx : Context}
  {result : Except ServiceError Answer}

/-- A row that the operation does not write stays as it is. -/
theorem RowStep.eq_of_not_written {before after : Option Row}
    (h : e.RowStep now op s id result before after) (hnot : ¬ e.HasWritten op result id) :
    after = before := by
  cases h with
  | kept => rfl
  | created hok => exact absurd hok hnot
  | replaced hok => exact absurd hok hnot
  | updated hok => exact absurd hok hnot
  | deleted hok => exact absurd hok hnot

/-- A failed operation leaves every row alone. -/
theorem rowStep_fails {o : Outcome Answer} (h : o.Fails s) :
    e.RowStep now op s id o.result (s.get? id) (o.store.get? id) := by
  obtain ⟨err, herr⟩ := h.result
  rw [herr, h.store]
  refine .kept _ ?_
  rintro ⟨_, ⟨⟩, _⟩

/-- For an operation that succeeds, the answer and the store that it comes to decide. -/
theorem rowStep_succeeds {o : Outcome Answer} {a : Answer} {notices : List Notice}
    (h : o.Succeeds a s' notices)
    (hstep : e.RowStep now op s id (.ok a) (s.get? id) (s'.get? id)) :
    e.RowStep now op s id o.result (s.get? id) (o.store.get? id) := by
  rw [h.result, h.store]
  exact hstep

/-- An operation that writes nothing leaves every row alone. -/
theorem rowStep_idle {a : Answer} (h : ¬ op.Writes e.config a id) (r : Option Row) :
    e.RowStep now op s id (.ok a) r r := by
  refine .kept r ?_
  rintro ⟨_, ⟨⟩, hwrites⟩
  exact h hwrites

/-! ### Kinds of writes -/

/-- A write of one row is a step of every row when it is a step of that one. -/
theorem rowStep_insert {target : String} {r : Row} {a : Answer}
    (h : e.RowStep now op s target (.ok a) (s.get? target) (some r))
    (hwrites : ∀ id, op.Writes e.config a id → target = id) :
    e.RowStep now op s id (.ok a) (s.get? id) ((TextMap.insert s target r).get? id) := by
  by_cases hid : target = id
  · rw [← hid, TextMap.get?_insert_self]
    exact h
  · rw [TextMap.get?_insert, if_neg hid]
    exact rowStep_idle (fun hw => hid (hwrites id hw)) _

/-- A batch that was added is a step of every row. -/
theorem rowStep_withRows {docs : List Vocabulary} {a : Answer} (hbatch : e.AdmitsBatch s docs)
    (hop : ∀ d ∈ docs, op.Brings e.config d)
    (hwrites : ∀ id, op.Writes e.config a id ↔ ∃ d ∈ docs, d.id = id) :
    e.RowStep now op s id (.ok a) (s.get? id)
      ((Store.withRows e.text now s (docs.map Vocabulary.withUniqueDefault)).get? id) := by
  by_cases hid : ∃ d ∈ docs, d.id = id
  · obtain ⟨d, hd, rfl⟩ := hid
    rw [hbatch.get?_row hd, hbatch.free d hd]
    exact .created ⟨a, rfl, (hwrites _).2 ⟨d, hd, rfl⟩⟩ (hop d hd) rfl (hbatch.admitted d hd)
  · rw [hbatch.get?_other fun d hd heq => hid ⟨d, hd, heq⟩]
    exact rowStep_idle (fun hw => hid ((hwrites id).1 hw)) _

/-- An update of an active row is a step of every row. -/
theorem rowStep_updated {target : String} {r : Row} {v : Vocabulary} {u : VocabularyUpdate}
    {a : Answer} (hv : Store.Active e.text s target r v) (haccepts : e.Accepts s v u)
    (hop : op.Applies e.config target v u)
    (hwrites : ∀ id, op.Writes e.config a id ↔ target = id) :
    e.RowStep now op s id (.ok a) (s.get? id)
      ((TextMap.insert s target (Row.written e.text (v.updatedBy u) r.created now)).get? id) := by
  refine rowStep_insert ?_ fun id => (hwrites id).1
  rw [hv.row]
  exact .updated ⟨a, rfl, (hwrites target).2 rfl⟩ hop hv.active hv.read haccepts

/-! ### Every operation -/

theorem addMissingKeywords_rowStep {keywords : List String} {language : Option String}
    (hnew : op.Brings e.config
      (keywordsVocabulary e.config.keywordsVocabulary (cleanKeywords keywords)))
    (hmore : ∀ v, op.Applies e.config e.config.keywordsVocabulary v (.ofItems
      (v.items ++ (missingKeywords v.items (cleanKeywords keywords)).map Item.named)))
    (hwrites : ∀ a id, op.Writes e.config a id ↔
      e.config.keywordsVocabulary = id ∧ a ≠ .keywords []) :
    e.RowStep now op s id
      ((e.addMissingKeywords now keywords language ctx s).map Answer.keywords).result (s.get? id)
      (((e.addMissingKeywords now keywords language ctx s).map Answer.keywords).store.get? id) := by
  have hsome : ∀ {added : List String}, added ≠ [] →
      ∀ id, op.Writes e.config (.keywords added) id ↔ e.config.keywordsVocabulary = id := by
    intro added hadded id
    rw [hwrites, and_iff_left (Answer.keywords_ne hadded)]
  rcases e.addMissingKeywords_cases now keywords language ctx s with hfails | hidle |
    ⟨hadded, hbatch, hmade⟩ | ⟨r, v, _, hv, rfl, hadded, haccepts, hmade⟩
  · exact rowStep_fails (hfails.map _)
  · exact rowStep_succeeds (hidle.map _) (rowStep_idle (fun hw => ((hwrites _ _).1 hw).2 rfl) _)
  · refine rowStep_succeeds (hmade.map _) (rowStep_withRows hbatch ?_ fun id => ?_)
    · exact List.forall_mem_singleton.2 hnew
    · rw [hsome hadded]
      simp [keywordsVocabulary, Vocabulary.new]
  · exact rowStep_succeeds (hmade.map _) (rowStep_updated hv haccepts (hmore v) (hsome hadded))

/-- Whatever an operation does to a row is one of the five steps. -/
theorem perform_rowStep (e : Engine) (now : Int64) (op : Operation) (s : Store) (id : String) :
    e.RowStep now op s id (e.perform now op s).result (s.get? id)
      ((e.perform now op s).store.get? id) := by
  cases op with
  | create docs ctx =>
    rcases e.create_cases now docs ctx s with ⟨-, hfails⟩ | ⟨hbatch, hmade⟩
    · exact rowStep_fails (hfails.map _)
    · exact rowStep_succeeds (hmade.map _)
        (rowStep_withRows hbatch (fun d hd => hd) fun id => Iff.rfl)
  | replace target doc ctx =>
    rcases e.replace_cases now target doc ctx s with
      ⟨-, hfails⟩ | ⟨r, v, hv, htarget, hadmits, hmade⟩
    · exact rowStep_fails (hfails.map _)
    · refine rowStep_succeeds (hmade.map _) (rowStep_insert ?_ fun id hid => hid)
      rw [hv.row]
      exact .replaced ⟨_, rfl, rfl⟩ rfl htarget hv.active hadmits
  | update target u ctx =>
    rcases e.update_cases now target u ctx s with ⟨-, hfails⟩ | ⟨r, v, hv, haccepts, -, hmade⟩
    · exact rowStep_fails (hfails.map _)
    · exact rowStep_succeeds (hmade.map _)
        (rowStep_updated hv haccepts ⟨rfl, rfl⟩ fun id => Iff.rfl)
  | delete target =>
    rcases e.delete_cases now target s with ⟨-, hfails⟩ | ⟨r, v, hv, hcustom, hmade⟩
    · exact rowStep_fails (hfails.map _)
    · refine rowStep_succeeds (hmade.map _) (rowStep_insert ?_ fun id hid => hid)
      rw [hv.row]
      exact .deleted ⟨_, rfl, rfl⟩ rfl hv.active hv.read hcustom
  | addMissingKeywords keywords language ctx =>
    exact addMissingKeywords_rowStep rfl (fun v => ⟨rfl, rfl⟩) fun a id => Iff.rfl
  | onArticlePublished keywords language ctx =>
    rw [perform, onArticlePublished]
    split
    · exact addMissingKeywords_rowStep rfl (fun v => ⟨rfl, rfl⟩) fun a id => Iff.rfl
    · refine rowStep_idle ?_ (s.get? id)
      rintro ⟨-, ha⟩
      exact ha rfl

end Engine

end Newsroom
