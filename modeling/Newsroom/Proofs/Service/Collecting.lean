import Newsroom.Proofs.Service.Received
import Newsroom.Proofs.Service.Spellings
import Newsroom.Proofs.Store.ReadBack
import Newsroom.Proofs.Text.Casing

/-!
# Collecting keywords

A store that only merges of keywords have touched holds one vocabulary, whose items are the new
spellings of all keywords so far (`Engine.Collects`). Merges tell keywords apart by lower case, but
the names that they store must differ in upper case. So every merge of a run succeeds exactly when
the new spellings of the run differ in upper case (`Engine.merges_succeed_iff`). They do if the
keywords of the run never agree in upper case without agreeing in lower case. The text layer has to
read back vocabularies of keywords, and compact JSON does (`TextLayer.keepsKeywords_json`).
-/

namespace Newsroom

/-- The keywords of one merge, with what else comes with them. -/
structure KeywordCall where
  /-- The clock reading. -/
  now : Int64
  /-- The keywords. -/
  keywords : List String
  /-- Their language. -/
  language : Option String
  /-- Who merges them. -/
  ctx : Context

namespace KeywordCall

/-- The names with the new spellings of the merge behind them. -/
def extend (c : KeywordCall) (names : List String) : List String :=
  names ++ newSpellings (names.map Text.lower) (spellings c.keywords)

theorem nonempty_extend {c : KeywordCall} {names : List String} (h : ∀ k ∈ names, k ≠ "") :
    ∀ k ∈ c.extend names, k ≠ "" := by
  intro k hk
  rcases List.mem_append.1 hk with hk | hk
  · exact h k hk
  · exact ne_empty_of_mem_spellings (mem_of_mem_newSpellings hk)

end KeywordCall

/-! ### Items of keywords -/

theorem names_named (names : List String) :
    (names.map Item.named).filterMap Item.name = names := by
  rw [List.filterMap_map]
  exact List.filterMap_some

namespace Engine

variable {e : Engine} {s : Store} {id : String} {names : List String} {c : KeywordCall}

/-- A vocabulary of keywords passes when its names differ in upper case. -/
theorem admits_keywordsVocabulary (hid : isValidId id = true) (h : ∀ k ∈ names, k ≠ "") :
    e.Admits s (keywordsVocabulary id names) ↔ (names.map Text.upper).Nodup := by
  have hshape : (keywordsVocabulary id names).validateShape = .ok () := by
    simp [Vocabulary.validateShape, keywordsVocabulary, Vocabulary.new, hid]
  have hrules : (keywordsVocabulary id names).FollowsRules e.text s := by
    intro item hitem f hf rule hrule
    obtain ⟨k, hk, rfl⟩ := List.mem_map.1 hitem
    rcases List.mem_cons.1 hf with rfl | hf
    · obtain rfl : rule = .unique := List.mem_singleton.1 hrule
      exact hasValue_named (h k hk)
    · obtain rfl := List.mem_singleton.1 hf
      cases hrule
  have hunique : checkUnique (keywordsVocabulary id names).uniqueField
      (keywordsVocabulary id names).items = .ok () ↔ (names.map Text.upper).Nodup := by
    rw [← distinctValues_named h, checkUnique_eq_ok_iff]
    exact ⟨fun hvalues => hvalues "name" rfl, fun hvalues field hfield =>
      Option.some.inj hfield ▸ hvalues⟩
  rw [admits_iff, hunique]
  exact ⟨fun hadmits => hadmits.2.2.1, fun hnodup => ⟨hshape, hrules, hnodup, rfl⟩⟩

/-- Merges the keywords of a call. -/
def merge (e : Engine) (c : KeywordCall) (s : Store) : Outcome (List String) :=
  e.addMissingKeywords c.now c.keywords c.language c.ctx s

/-- Every merge of the run succeeds, from the store on. -/
def MergesSucceed (e : Engine) : List KeywordCall → Store → Prop
  | [], _ => True
  | c :: cs, s =>
    (∃ added, (e.merge c s).result = .ok added) ∧ MergesSucceed e cs (e.merge c s).store

/-- The vocabulary of keywords has exactly the items of `names`; it is not there before the first
of them. -/
structure Collects (e : Engine) (s : Store) (names : List String) : Prop where
  row : (names = [] ∧ s.get? e.config.keywordsVocabulary = none) ∨
    ∃ created updated, s.get? e.config.keywordsVocabulary = some (Row.written e.text
      (keywordsVocabulary e.config.keywordsVocabulary names) created updated)
  nonempty : ∀ k ∈ names, k ≠ ""
  distinct : (names.map Text.upper).Nodup

theorem collects_empty (e : Engine) : e.Collects ∅ [] :=
  ⟨.inl ⟨rfl, rfl⟩, List.forall_mem_nil _, List.nodup_nil⟩

/-- What a merge does to a store that collects names. -/
inductive CollectStep (e : Engine) (c : KeywordCall) (s : Store) (names : List String) : Prop
  /-- All names differ in upper case with the new spellings, and these are added. -/
  | added (hdistinct : ((c.extend names).map Text.upper).Nodup)
      (hresult : (e.merge c s).result =
        .ok (newSpellings (names.map Text.lower) (spellings c.keywords)))
      (hstore : e.Collects (e.merge c s).store (c.extend names))
  /-- Two names would agree in upper case, and nothing is added. -/
  | refused (hclash : ¬ ((c.extend names).map Text.upper).Nodup)
      (hfails : (e.merge c s).Fails s)

theorem collectStep_idle (hs : e.Collects s names)
    (hnew : newSpellings (names.map Text.lower) (spellings c.keywords) = [])
    (hdone : (e.merge c s).Succeeds [] s []) : e.CollectStep c s names := by
  have hafter : c.extend names = names := by
    rw [KeywordCall.extend, hnew, List.append_nil]
  refine .added ?_ ?_ ?_
  · rw [hafter]
    exact hs.distinct
  · rw [hnew]
    exact hdone.result
  · rw [hafter, hdone.store]
    exact hs

/-- The first merge with a keyword creates the vocabulary. -/
theorem collectStep_of_none (hid : isValidId e.config.keywordsVocabulary = true)
    (hs : e.Collects s [])
    (hrow : s.get? e.config.keywordsVocabulary = none) : e.CollectStep c s [] := by
  have hafter : c.extend [] = cleanKeywords c.keywords := (cleanKeywords_eq _).symm
  have hnonempty : ∀ k ∈ cleanKeywords c.keywords, k ≠ "" := by
    rw [← hafter]
    exact KeywordCall.nonempty_extend hs.nonempty
  have hfind : Store.find e.text s e.config.keywordsVocabulary = .ok none := by
    rw [Store.find, Store.findWith, hrow]
  by_cases hblank : cleanKeywords c.keywords = []
  · refine collectStep_idle hs ?_ (addMissingKeywords_of_blank hblank)
    exact (cleanKeywords_eq _).symm.trans hblank
  have hadmits : e.AdmitsBatch s
      [keywordsVocabulary e.config.keywordsVocabulary (cleanKeywords c.keywords)] ↔
      ((cleanKeywords c.keywords).map Text.upper).Nodup := by
    rw [← admits_keywordsVocabulary (e := e) (s := s) hid hnonempty]
    refine ⟨fun hbatch => hbatch.admitted _ (List.mem_singleton_self _), fun hadmits => ?_⟩
    exact ⟨List.pairwise_singleton _ _, List.forall_mem_singleton.2 hrow,
      List.forall_mem_singleton.2 hadmits⟩
  rcases addMissingKeywords_of_none hblank hfind with ⟨hnot, hfails⟩ | ⟨hbatch, hmade⟩
  · refine .refused ?_ hfails
    rw [hafter, ← hadmits]
    exact hnot
  · refine .added ?_ (hmade.result.trans ?_) ?_
    · rw [hafter]
      exact hadmits.1 hbatch
    · exact congrArg Except.ok (cleanKeywords_eq _)
    · rw [hafter]
      refine ⟨.inr ⟨c.now, c.now, ?_⟩, hnonempty, hadmits.1 hbatch⟩
      show (e.addMissingKeywords c.now c.keywords c.language c.ctx s).store.get? _ = _
      rw [hmade.store]
      exact hbatch.get?_row (List.mem_singleton_self _)

/-- What a stored vocabulary of keywords becomes when items are put behind its own. -/
theorem updatedBy_keywordsVocabulary (created updated : Int64) (new : List String) :
    ((keywordsVocabulary id names).marked false created updated).updatedBy
      (.ofItems (names.map Item.named ++ new.map Item.named)) =
      (keywordsVocabulary id (names ++ new)).marked false created updated := by
  rw [Vocabulary.updatedBy_of_items _ rfl, Vocabulary.withUniqueDefault_of_isSome rfl,
    ← List.map_append]
  rfl

/-- The marks of a row do not matter to the checks. -/
theorem admits_marked {v : Vocabulary} (deleted : Bool) (created updated : Int64) :
    e.Admits s (v.marked deleted created updated) ↔ e.Admits s v :=
  ⟨fun h => ⟨h.valid, h.unique, h.reserved⟩, fun h => ⟨h.valid, h.unique, h.reserved⟩⟩

/-- Later merges extend it. -/
theorem collectStep_of_row (ht : e.text.KeepsKeywords)
    (hid : isValidId e.config.keywordsVocabulary = true) (hs : e.Collects s names)
    {created updated : Int64} (hrow : s.get? e.config.keywordsVocabulary = some (Row.written e.text
      (keywordsVocabulary e.config.keywordsVocabulary names) created updated)) :
    e.CollectStep c s names := by
  have hread := Row.vocabulary_written (ht e.config.keywordsVocabulary names created updated)
    (Operation.wellFormed_keywordsVocabulary e.config.keywordsVocabulary names)
  have hactive : Store.Active e.text s e.config.keywordsVocabulary _ _ := ⟨hrow, rfl, hread⟩
  have hitems : ((keywordsVocabulary e.config.keywordsVocabulary names).marked false created
      updated).items = names.map Item.named := rfl
  have hmissing : missingKeywords (names.map Item.named) (cleanKeywords c.keywords) =
      newSpellings (names.map Text.lower) (spellings c.keywords) := by
    rw [missingKeywords_eq, names_named]
  by_cases hnew : newSpellings (names.map Text.lower) (spellings c.keywords) = []
  · exact collectStep_idle hs hnew (addMissingKeywords_of_known hactive (hmissing.trans hnew))
  have hnonempty : ∀ k ∈ names ++ newSpellings (names.map Text.lower) (spellings c.keywords),
      k ≠ "" := KeywordCall.nonempty_extend hs.nonempty
  have hmerge : (¬ e.Accepts s _ _ ∧ (e.merge c s).Fails s) ∨
      e.Accepts s _ _ ∧ (e.merge c s).Succeeds _ _ _ :=
    addMissingKeywords_of_missing hactive (hmissing.trans_ne hnew)
  rw [hitems, hmissing, accepts_iff_admits rfl, updatedBy_keywordsVocabulary, admits_marked,
    admits_keywordsVocabulary hid hnonempty] at hmerge
  rcases hmerge with ⟨hclash, hfails⟩ | ⟨hdistinct, hmade⟩
  · exact .refused hclash hfails
  · refine .added hdistinct hmade.result ⟨.inr ⟨created, c.now, ?_⟩,
      KeywordCall.nonempty_extend hs.nonempty, hdistinct⟩
    rw [hmade.store]
    exact TextMap.get?_insert_self _ _ _

theorem collectStep (ht : e.text.KeepsKeywords)
    (hid : isValidId e.config.keywordsVocabulary = true) (hs : e.Collects s names) :
    e.CollectStep c s names := by
  rcases hs.row with ⟨rfl, hrow⟩ | ⟨created, updated, hrow⟩
  · exact collectStep_of_none hid hs hrow
  · exact collectStep_of_row ht hid hs hrow

/-- Every merge of a run succeeds exactly when the names that are there and the new spellings of
the run differ in upper case. -/
theorem mergesSucceed_iff (ht : e.text.KeepsKeywords)
    (hid : isValidId e.config.keywordsVocabulary = true) (calls : List KeywordCall)
    (hs : e.Collects s names) :
    e.MergesSucceed calls s ↔ ((names ++ newSpellings (names.map Text.lower)
      (calls.flatMap fun c => spellings c.keywords)).map Text.upper).Nodup := by
  induction calls generalizing s names with
  | nil =>
    refine iff_of_true trivial ?_
    rw [List.flatMap_nil, newSpellings_eq_nil (List.forall_mem_nil _), List.append_nil]
    exact hs.distinct
  | cons c cs ih =>
    have hall : names ++ newSpellings (names.map Text.lower)
        ((c :: cs).flatMap fun c => spellings c.keywords) =
        c.extend names ++ newSpellings ((c.extend names).map Text.lower)
          (cs.flatMap fun c => spellings c.keywords) := by
      rw [List.flatMap_cons, newSpellings_append, ← List.append_assoc, ← List.map_append]
      rfl
    rw [hall, MergesSucceed]
    cases collectStep ht hid hs with
    | added hdistinct hresult hstore =>
      rw [ih hstore]
      exact and_iff_right ⟨_, hresult⟩
    | refused hclash hfails =>
      refine iff_of_false ?_ fun hnodup => hclash ?_
      · rintro ⟨⟨added, hadded⟩, -⟩
        exact hfails.result_ne added hadded
      · rw [List.map_append] at hnodup
        exact (List.nodup_append.1 hnodup).1

/-- New spellings differ in upper case wherever keywords that agree in upper case agree in lower
case. -/
theorem nodup_upper_newSpellings {seen ks : List String} (h : ∀ a ∈ ks, ∀ b ∈ ks,
    Text.upper a = Text.upper b → Text.lower a = Text.lower b) :
    ((newSpellings seen ks).map Text.upper).Nodup := by
  have hlower := nodup_lower_newSpellings seen ks
  rw [List.Nodup, List.pairwise_map] at hlower ⊢
  refine hlower.imp_of_mem fun ha hb hne hupper => hne ?_
  exact h _ (mem_of_mem_newSpellings ha) _ (mem_of_mem_newSpellings hb) hupper

/-- **Collecting keywords**: on a store that starts empty and that only merges touch, every merge of
a run succeeds exactly when the spellings of the run that are new in lower case differ in upper
case. So every merge succeeds if keywords of the run that agree in upper case agree in lower case
too, and in particular if all of them are ASCII. -/
theorem merges_succeed_iff (e : Engine) (ht : e.text.KeepsKeywords)
    (hid : isValidId e.config.keywordsVocabulary = true) (calls : List KeywordCall)
    (ks : List String) (hks : (calls.flatMap fun c => spellings c.keywords) = ks) :
    (e.MergesSucceed calls ∅ ↔ ((newSpellings [] ks).map Text.upper).Nodup) ∧
    ((∀ a ∈ ks, ∀ b ∈ ks, Text.upper a = Text.upper b → Text.lower a = Text.lower b) →
      e.MergesSucceed calls ∅) ∧
    ((∀ k ∈ ks, Text.IsAscii k) → e.MergesSucceed calls ∅) := by
  subst hks
  have hiff := mergesSucceed_iff ht hid calls e.collects_empty
  refine ⟨hiff, fun h => hiff.2 (nodup_upper_newSpellings h), fun h => hiff.2 ?_⟩
  exact nodup_upper_newSpellings fun a ha b hb => Text.lower_eq_of_upper_eq (h a ha) (h b hb)

/-- Merges of Rome, in several spellings, and of Ostia. -/
def romeCalls : List KeywordCall :=
  [⟨1, ["Rome", " ROME ", ""], none, .blank⟩, ⟨2, ["ostia", "rome", "Ostia"], some "it", .blank⟩]

/-- All merges of Rome and Ostia succeed. -/
theorem romeCalls_succeed : (ofConfig .default).MergesSucceed romeCalls ∅ := by
  obtain ⟨-, -, hascii⟩ := merges_succeed_iff (ofConfig .default) TextLayer.keepsKeywords_json
    (by decide) romeCalls ["Rome", "ROME", "ostia", "rome", "Ostia"] (by decide +kernel)
  exact hascii (by decide +kernel)

/-- Two spellings that differ in lower case only are refused, although both are keywords of one
merge on the empty store. -/
theorem strasse_refused :
    ((ofConfig .default).merge ⟨1, ["Straße", "Strasse"], none, .blank⟩ ∅).result =
      .error (.validation (.duplicateValue "name" "Strasse" 1)) ∧
    ¬ (ofConfig .default).MergesSucceed [⟨1, ["Straße", "Strasse"], none, .blank⟩] ∅ := by
  have hrefused : ((ofConfig .default).merge ⟨1, ["Straße", "Strasse"], none, .blank⟩ ∅).result =
      .error (.validation (.duplicateValue "name" "Strasse" 1)) := by decide +kernel
  refine ⟨hrefused, ?_⟩
  rintro ⟨⟨added, hadded⟩, -⟩
  rw [hrefused] at hadded
  cases hadded

end Engine

end Newsroom
