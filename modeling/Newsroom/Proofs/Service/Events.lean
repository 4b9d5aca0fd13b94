import Newsroom.Proofs.Service.Step

/-!
# What operations publish

An operation that fails leaves the store as it was and publishes nothing. One that succeeds
publishes the events that it announces (`Operation.announces`), each of which tells of a row that
was stored with it (`Notice.Tells`). `Engine.perform_cases` says so for every operation, and
`Engine.perform_atomic` adds what happens to the rows. Nothing is asked of the store: its rows may
read as documents or not.
-/

namespace Newsroom

namespace Operation

/-- The user of the request that the operation serves. Deletions publish nothing and have none. -/
def user : Operation → Option String
  | .create _ ctx | .replace _ _ ctx | .update _ _ ctx | .addMissingKeywords _ _ ctx
  | .onArticlePublished _ _ ctx => ctx.user
  | .delete _ => none

/-- The changes that the operation publishes when it succeeds with the answer, in order, each with
the key of the vocabulary that it is about. -/
def announces (c : Config) (s : Store) : Operation → Answer → List (Change × String)
  | .create docs _, _ => docs.map fun d => (.created, d.id)
  | .replace id _ _, _ | .update id _ _, _ => [(.updated, id)]
  | .delete _, _ => []
  | .addMissingKeywords _ _ _, a | .onArticlePublished _ _ _, a =>
    if a = .keywords [] then []
    else [(if s.contains c.keywordsVocabulary then .updated else .created, c.keywordsVocabulary)]

end Operation

/-- The event has the key and the display name of the document in the row under that key. -/
def Notice.Tells (t : TextLayer) (s : Store) (n : Notice) : Prop :=
  ∃ (v : Vocabulary) (created updated : Int64),
    s.get? n.id = some (Row.written t v created updated) ∧ n.id = v.id ∧
      n.vocabulary = v.displayName

/-- What is found under the key of an event has that key and the display name of the event. -/
theorem Notice.Tells.of_find {t : TextLayer} {s : Store} {n : Notice} {w : Vocabulary}
    (ht : t.KeepsDisplayNames) (h : n.Tells t s) (hfind : Store.find t s n.id = .ok (some w)) :
    w.id = n.id ∧ w.displayName = n.vocabulary := by
  obtain ⟨v, created, updated, hrow, -, hname⟩ := h
  obtain ⟨r, hw⟩ := Store.find_eq_some_iff.1 hfind
  obtain rfl : r = Row.written t v created updated := Option.some.inj (hw.row.symm.trans hrow)
  refine ⟨hw.id_eq, ?_⟩
  obtain ⟨u, hread, -, hu⟩ := Row.vocabulary_eq_ok_iff.1 hw.read
  have hsame : u.displayName = v.displayName := ht (v.marked false created updated) u hread
  obtain ⟨-, rfl⟩ | ⟨-, rfl⟩ := hu
  · exact hsame.trans hname.symm
  · exact hsame.trans hname.symm

namespace Engine

/-- What a successful operation publishes: the events that it announces, in order, each for its
user and about a row of the new store. -/
structure Publishes (e : Engine) (op : Operation) (s : Store) (a : Answer) (s' : Store)
    (notices : List Notice) : Prop where
  announced : notices.map (fun n => (n.change, n.id)) = op.announces e.config s a
  user : ∀ n ∈ notices, n.user = op.user
  tells : ∀ n ∈ notices, n.Tells e.text s'

variable {e : Engine} {now : Int64} {op : Operation} {s s' : Store} {id : String} {a : Answer}
  {ctx : Context} {v : Vocabulary}

/-! ### Kinds of writes -/

/-- An operation that announces nothing publishes nothing. -/
theorem publishes_nil (h : op.announces e.config s a = []) : e.Publishes op s a s' [] :=
  ⟨h.symm, List.forall_mem_nil _, List.forall_mem_nil _⟩

/-- The event of a document that was written under its key. -/
theorem publishes_insert {change : Change} {created updated : Int64} (hid : v.id = id)
    (h : op.announces e.config s a = [(change, id)]) (huser : op.user = ctx.user) :
    e.Publishes op s a (TextMap.insert s id (Row.written e.text v created updated))
      [Notice.about change ctx v] := by
  subst hid
  exact {
    announced := h.symm
    user := List.forall_mem_singleton.2 huser.symm
    tells := List.forall_mem_singleton.2
      ⟨v, created, updated, TextMap.get?_insert_self _ _ _, rfl, rfl⟩ }

/-- The events of a batch that was added. -/
theorem publishes_withRows {docs : List Vocabulary} (hbatch : e.AdmitsBatch s docs)
    (h : op.announces e.config s a = docs.map fun d => (.created, d.id))
    (huser : op.user = ctx.user) :
    e.Publishes op s a (Store.withRows e.text now s (docs.map Vocabulary.withUniqueDefault))
      (docs.map (Notice.about .created ctx)) where
  announced := by
    rw [h, List.map_map]
    rfl
  user := List.forall_mem_map.2 fun d _ => huser.symm
  tells := List.forall_mem_map.2 fun d hd =>
    ⟨_, _, _, hbatch.get?_row hd, (Vocabulary.id_withUniqueDefault d).symm,
      (Vocabulary.displayName_withUniqueDefault d).symm⟩

/-! ### Every operation -/

theorem addMissingKeywords_publishes (op : Operation) (now : Int64) (keywords : List String)
    (language : Option String) (ctx : Context) (s : Store)
    (h : ∀ a, op.announces e.config s a = if a = .keywords [] then [] else
      [(if s.contains e.config.keywordsVocabulary then .updated else .created,
        e.config.keywordsVocabulary)])
    (huser : op.user = ctx.user) :
    (e.addMissingKeywords now keywords language ctx s).Fails s ∨ ∃ added s' notices,
      (e.addMissingKeywords now keywords language ctx s).Succeeds added s' notices ∧
        e.Publishes op s (.keywords added) s' notices := by
  rcases e.addMissingKeywords_cases now keywords language ctx s with hfails | hidle |
    ⟨hadded, hbatch, hmade⟩ | ⟨r, v, _, hv, rfl, hadded, -, hmade⟩
  · exact .inl hfails
  · exact .inr ⟨_, _, _, hidle, publishes_nil ((h _).trans (if_pos rfl))⟩
  · refine .inr ⟨_, _, _, hmade, publishes_withRows hbatch ?_ huser⟩
    have hfree : s.get? e.config.keywordsVocabulary = none :=
      hbatch.free _ (List.mem_singleton_self _)
    rw [h, if_neg (Answer.keywords_ne hadded), TextMap.contains, hfree]
    rfl
  · refine .inr ⟨_, _, _, hmade,
      publishes_insert ((Vocabulary.id_updatedBy v _).trans hv.id_eq) ?_ huser⟩
    rw [h, if_neg (Answer.keywords_ne hadded), TextMap.contains, hv.row]
    rfl

/-- An operation fails, or it publishes what it announces. -/
theorem perform_cases (e : Engine) (now : Int64) (op : Operation) (s : Store) :
    (e.perform now op s).Fails s ∨
    ∃ a s' notices, (e.perform now op s).Succeeds a s' notices ∧
      e.Publishes op s a s' notices := by
  cases op with
  | create docs ctx =>
    rcases e.create_cases now docs ctx s with ⟨-, hfails⟩ | ⟨hbatch, hmade⟩
    · exact .inl (hfails.map _)
    · exact .inr ⟨_, _, _, hmade.map _, publishes_withRows hbatch rfl rfl⟩
  | replace target doc ctx =>
    rcases e.replace_cases now target doc ctx s with
      ⟨-, hfails⟩ | ⟨r, v, -, rfl, -, hmade⟩
    · exact .inl (hfails.map _)
    · refine .inr ⟨_, _, _, hmade.map _, ?_⟩
      rw [← about_withUniqueDefault]
      exact publishes_insert (Vocabulary.id_withUniqueDefault doc) rfl rfl
  | update target u ctx =>
    rcases e.update_cases now target u ctx s with ⟨-, hfails⟩ | ⟨r, v, hv, -, -, hmade⟩
    · exact .inl (hfails.map _)
    · exact .inr ⟨_, _, _, hmade.map _,
        publishes_insert ((Vocabulary.id_updatedBy v u).trans hv.id_eq) rfl rfl⟩
  | delete target =>
    rcases e.delete_cases now target s with ⟨-, hfails⟩ | ⟨r, v, -, -, hmade⟩
    · exact .inl (hfails.map _)
    · exact .inr ⟨_, _, _, hmade.map _, publishes_nil rfl⟩
  | addMissingKeywords keywords language ctx =>
    rcases addMissingKeywords_publishes (.addMissingKeywords keywords language ctx) now keywords
      language ctx s (fun _ => rfl) rfl with hfails | ⟨added, s', notices, hmade, hpublishes⟩
    · exact .inl (hfails.map _)
    · exact .inr ⟨_, _, _, hmade.map _, hpublishes⟩
  | onArticlePublished keywords language ctx =>
    rw [perform, onArticlePublished]
    split
    · rcases addMissingKeywords_publishes (.onArticlePublished keywords language ctx) now keywords
        language ctx s (fun _ => rfl) rfl with hfails | ⟨added, s', notices, hmade, hpublishes⟩
      · exact .inl (hfails.map _)
      · exact .inr ⟨_, _, _, hmade.map _, hpublishes⟩
    · exact .inr ⟨_, _, _, ⟨rfl, rfl, rfl⟩, publishes_nil rfl⟩

/-- **All or nothing**: from every store, an operation that fails leaves the store as it was and
publishes nothing. One that succeeds leaves alone every row that it does not write, and publishes
the events that it announces, in order; each of them has the user of the operation, and the key and
the display name of the document that is stored under that key, which are also those that are found
there if the text layer keeps display names, as compact JSON does. -/
theorem perform_atomic (e : Engine) (now : Int64) (op : Operation) (s : Store) :
    (∀ err, (e.perform now op s).result = .error err →
      (e.perform now op s).store = s ∧ (e.perform now op s).journal.notices = []) ∧
    ∀ a, (e.perform now op s).result = .ok a →
      (∀ id, ¬ op.Writes e.config a id → (e.perform now op s).store.get? id = s.get? id) ∧
      (e.perform now op s).journal.notices.map (fun n => (n.change, n.id)) =
        op.announces e.config s a ∧
      ∀ n ∈ (e.perform now op s).journal.notices,
        n.user = op.user ∧ n.Tells e.text (e.perform now op s).store ∧
        (e.text.KeepsDisplayNames → ∀ w,
          Store.find e.text (e.perform now op s).store n.id = .ok (some w) →
            w.id = n.id ∧ w.displayName = n.vocabulary) := by
  have hrows : ∀ a id, (e.perform now op s).result = .ok a → ¬ op.Writes e.config a id →
      (e.perform now op s).store.get? id = s.get? id := by
    intro a id ha hnot
    refine (e.perform_rowStep now op s id).eq_of_not_written ?_
    rintro ⟨b, hb, hwrites⟩
    obtain rfl := Except.ok.inj (ha.symm.trans hb)
    exact hnot hwrites
  rcases e.perform_cases now op s with hfails | ⟨a, s', notices, hmade, hpublishes⟩
  · exact ⟨fun _ _ => ⟨hfails.store, hfails.notices⟩, fun a ha => absurd ha (hfails.result_ne a)⟩
  · refine ⟨fun err herr => ?_, fun b hb => ⟨fun id => hrows b id hb, ?_⟩⟩
    · rw [hmade.result] at herr
      cases herr
    · obtain rfl := Except.ok.inj (hmade.result.symm.trans hb)
      rw [hmade.notices, hmade.store]
      refine ⟨hpublishes.announced, fun n hn => ⟨hpublishes.user n hn, hpublishes.tells n hn, ?_⟩⟩
      exact fun ht w hfind => (hpublishes.tells n hn).of_find ht hfind

end Engine

end Newsroom
