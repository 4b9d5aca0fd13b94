import Newsroom.Proofs.Vocabulary.Update
import Newsroom.Store.Basic

/-!
# What a row says

Every document is written to a row in the same form (`Row.written`): active, with the timestamps
of the row as its own. What the text layer keeps reads back (`Row.vocabulary_written`), also after
the row was deleted (`Row.vocabulary_deletedAt`). Each store operation has one lemma that says what
its success comes to.
-/

namespace Newsroom

/-! ### What is asked of the text layer -/

/-- The text layer reads this document back. -/
def TextLayer.Keeps (t : TextLayer) (v : Vocabulary) : Prop :=
  t.read (t.print v.toJson) = some v.toJson

instance (t : TextLayer) (v : Vocabulary) : Decidable (t.Keeps v) :=
  inferInstanceAs (Decidable (t.read (t.print v.toJson) = some v.toJson))

/-- Whatever document the text layer finds in the text of another has the field type of that
other one. -/
def TextLayer.KeepsFieldTypes (t : TextLayer) : Prop :=
  ∀ (v w : Vocabulary), (t.read (t.print v.toJson)).bind Vocabulary.ofJson? = some w →
    w.fieldType = v.fieldType

/-- Whatever document the text layer finds in the text of another has the unique field of that
other one and declares the same fields. -/
def TextLayer.KeepsUniqueFields (t : TextLayer) : Prop :=
  ∀ (v w : Vocabulary), (t.read (t.print v.toJson)).bind Vocabulary.ofJson? = some w →
    w.uniqueField = v.uniqueField ∧ ∀ field, w.schema.declares field = v.schema.declares field

/-- Whatever document the text layer finds in the text of another has the display name of that
other one. -/
def TextLayer.KeepsDisplayNames (t : TextLayer) : Prop :=
  ∀ (v w : Vocabulary), (t.read (t.print v.toJson)).bind Vocabulary.ofJson? = some w →
    w.displayName = v.displayName

namespace Row

variable {t : TextLayer}

/-! ### Reading a row -/

/-- A row reads as a document when its text does, under its own key, and its deletion column is
zero or one. -/
theorem vocabulary_eq_ok_iff {id : String} {r : Row} {v : Vocabulary} :
    r.vocabulary t id = .ok v ↔
      ∃ w, (t.read r.document).bind Vocabulary.ofJson? = some w ∧ w.id = id ∧
        (r.deleted = 0 ∧ v = w.marked false r.created r.updated ∨
          r.deleted = 1 ∧ v = w.marked true r.created r.updated) := by
  rw [vocabulary]
  cases hread : (t.read r.document).bind Vocabulary.ofJson? with
  | none => simp
  | some w =>
    by_cases hid : w.id = id
    · by_cases h0 : r.deleted = 0
      · simp [hid, h0, Vocabulary.marked, eq_comm]
      · by_cases h1 : r.deleted = 1
        · simp [hid, h1, Vocabulary.marked, eq_comm]
        · simp [hid, h0, h1]
    · simp [hid]

/-- The key of a document that was read is that of its row. -/
theorem id_of_vocabulary {id : String} {r : Row} {v : Vocabulary}
    (h : r.vocabulary t id = .ok v) : v.id = id := by
  obtain ⟨w, -, hid, ⟨-, rfl⟩ | ⟨-, rfl⟩⟩ := vocabulary_eq_ok_iff.1 h
  · exact hid
  · exact hid

/-- A document that was read from an active row has the marks of that row. -/
theorem eq_marked_of_vocabulary {id : String} {r : Row} {v : Vocabulary}
    (h : r.vocabulary t id = .ok v) (hactive : r.deleted = 0) :
    v = v.marked false r.created r.updated := by
  obtain ⟨w, -, -, ⟨-, rfl⟩ | ⟨h1, -⟩⟩ := vocabulary_eq_ok_iff.1 h
  · rfl
  · rw [hactive] at h1
    cases h1

/-! ### Writing a document -/

/-- The row of an active document with its timestamps given. -/
def written (t : TextLayer) (v : Vocabulary) (created updated : Int64) : Row :=
  ofDocument t (v.marked false created updated) 0 created updated

/-- A row that is marked as deleted. -/
def deletedAt (now : Int64) (r : Row) : Row := { r with deleted := 1, updated := now }

/-- What is written reads back, if the text layer keeps it. -/
theorem vocabulary_written {v : Vocabulary} {created updated : Int64}
    (hkeeps : t.Keeps (v.marked false created updated)) (hv : v.WellFormed) :
    (written t v created updated).vocabulary t v.id = .ok (v.marked false created updated) := by
  refine vocabulary_eq_ok_iff.2 ⟨v.marked false created updated, ?_, rfl, .inl ⟨rfl, rfl⟩⟩
  show (t.read (t.print (v.marked false created updated).toJson)).bind Vocabulary.ofJson? = _
  rw [hkeeps, Option.bind_some, Vocabulary.ofJson?_toJson (hv.marked false created updated)]

/-- A deleted row still reads as its document. -/
theorem vocabulary_deletedAt {id : String} {r : Row} {v : Vocabulary}
    (h : r.vocabulary t id = .ok v) (now : Int64) :
    (r.deletedAt now).vocabulary t id = .ok (v.marked true r.created now) := by
  obtain ⟨w, hread, hid, hv⟩ := vocabulary_eq_ok_iff.1 h
  refine vocabulary_eq_ok_iff.2 ⟨w, hread, hid, .inr ⟨rfl, ?_⟩⟩
  obtain ⟨-, rfl⟩ | ⟨-, rfl⟩ := hv <;> rfl

end Row

namespace Store

variable {t : TextLayer} {s s' : Store} {id : String} {v : Vocabulary} {now : Int64}

/-! ### Reading -/

theorem findWith_eq_some_iff {deleted : Int64} : findWith t deleted s id = .ok (some v) ↔
    ∃ r, s.get? id = some r ∧ r.deleted = deleted ∧ r.vocabulary t id = .ok v := by
  rw [findWith]
  cases hrow : s.get? id with
  | none => simp
  | some r =>
    by_cases hdeleted : r.deleted = deleted
    · cases hread : r.vocabulary t id <;> simp [hdeleted, hread, Except.map]
    · simp [hdeleted]

theorem get_eq_ok_iff : get t s id = .ok v ↔ find t s id = .ok (some v) := by
  rw [get]
  split
  case h_1 h => simp [h]
  case h_2 h => simp [h]
  case h_3 h => simp [h]

/-- The active row under a key, and the document that it reads as. -/
structure Active (t : TextLayer) (s : Store) (id : String) (r : Row) (v : Vocabulary) : Prop where
  row : s.get? id = some r
  active : r.deleted = 0
  read : r.vocabulary t id = .ok v

theorem find_eq_some_iff : find t s id = .ok (some v) ↔ ∃ r, Active t s id r v := by
  rw [find, findWith_eq_some_iff]
  exact exists_congr fun r => ⟨fun ⟨hrow, hactive, hread⟩ => ⟨hrow, hactive, hread⟩,
    fun ⟨hrow, hactive, hread⟩ => ⟨hrow, hactive, hread⟩⟩

namespace Active

variable {r r' : Row} {w : Vocabulary}

theorem get_eq (h : Active t s id r v) : get t s id = .ok v :=
  get_eq_ok_iff.2 (find_eq_some_iff.2 ⟨r, h⟩)

theorem id_eq (h : Active t s id r v) : v.id = id := Row.id_of_vocabulary h.read

theorem eq_marked (h : Active t s id r v) : v = v.marked false r.created r.updated :=
  Row.eq_marked_of_vocabulary h.read h.active

/-- The marks of the row are the document's own, but for the time of its last change. -/
theorem marked_applyUpdate (h : Active t s id r v) (u : VocabularyUpdate) (now : Int64) :
    (v.applyUpdate u).marked false r.created now =
      { v.applyUpdate u with updated := some now } := by
  rw [h.eq_marked]
  rfl

/-- There is at most one active row, and it reads as one document. -/
theorem unique (h : Active t s id r v) (h' : Active t s id r' w) : r = r' ∧ v = w := by
  obtain rfl : r = r' := Option.some.inj (h.row.symm.trans h'.row)
  exact ⟨rfl, Except.ok.inj (h.read.symm.trans h'.read)⟩

end Active

/-! ### Writing -/

theorem insertOne_eq_ok_iff : insertOne t now s v = .ok s' ↔
    v.validateShape = .ok () ∧ s.get? v.id = none ∧
      TextMap.insert s v.id (Row.written t v (v.created.getD now) (v.updated.getD now)) = s' := by
  rw [insertOne]
  cases hshape : v.validateShape with
  | error err => simp
  | ok _ =>
    cases hrow : s.get? v.id with
    | none => simp [TextMap.contains, hrow, Row.written, stamped, Vocabulary.marked]
    | some r => simp [TextMap.contains, hrow]

theorem insertAll_cons_eq_ok_iff {d : Vocabulary} {ds : List Vocabulary} {ids : List String} :
    insertAll t now s (d :: ds) = .ok (ids, s') ↔
      ∃ s₁ rest, insertOne t now s d = .ok s₁ ∧ insertAll t now s₁ ds = .ok (rest, s') ∧
        d.id :: rest = ids := by
  rw [insertAll]
  cases insertOne t now s d with
  | error err => simp
  | ok s₁ =>
    cases hrest : insertAll t now s₁ ds with
    | error err => simp [hrest]
    | ok written =>
      obtain ⟨rest, s₂⟩ := written
      dsimp only
      rw [hrest]
      constructor
      · rintro ⟨⟩
        exact ⟨s₁, rest, rfl, hrest, rfl⟩
      · rintro ⟨_, rest', ⟨⟩, hrest', rfl⟩
        rw [hrest] at hrest'
        cases hrest'
        rfl

/-- The entry of a new document. -/
def newEntry (t : TextLayer) (now : Int64) (v : Vocabulary) : String × Row :=
  (v.id, Row.written t v (v.created.getD now) (v.updated.getD now))

/-- The store with a row of its own for every document of a batch. -/
def withRows (t : TextLayer) (now : Int64) (s : Store) (docs : List Vocabulary) : Store :=
  (docs.map (newEntry t now)).foldl (fun m e => TextMap.insert m e.1 e.2) s

section Batches

variable {docs : List Vocabulary}

theorem keys_newEntries : (docs.map (newEntry t now)).map Prod.fst = docs.map Vocabulary.id := by
  rw [List.map_map]
  rfl

theorem get?_withRows (h : (docs.map Vocabulary.id).Nodup) (id : String) :
    (withRows t now s docs).get? id =
      (Entries.find? id (docs.map (newEntry t now))).or (s.get? id) :=
  TextMap.get?_foldl_insert (by rwa [keys_newEntries]) s id

/-- Every document of the batch has its row. -/
theorem get?_withRows_of_mem (h : (docs.map Vocabulary.id).Nodup) (hv : v ∈ docs) :
    (withRows t now s docs).get? v.id =
      some (Row.written t v (v.created.getD now) (v.updated.getD now)) := by
  have hentry : Entries.find? v.id (docs.map (newEntry t now)) = some (newEntry t now v).2 :=
    Entries.find?_of_nodup (by rwa [keys_newEntries]) (List.mem_map_of_mem hv)
  rw [get?_withRows h, hentry]
  rfl

/-- Every other row is as it was. -/
theorem get?_withRows_of_forall_ne (h : (docs.map Vocabulary.id).Nodup)
    (hid : ∀ v ∈ docs, v.id ≠ id) : (withRows t now s docs).get? id = s.get? id := by
  have hentry : Entries.find? id (docs.map (newEntry t now)) = none := by
    refine Entries.find?_eq_none_iff.2 fun e he => ?_
    obtain ⟨v, hv, rfl⟩ := List.mem_map.1 he
    exact hid v hv
  rw [get?_withRows h, hentry, Option.none_or]

/-- A batch is added exactly when its keys are distinct and free and its documents are in form. -/
theorem insertAll_eq_ok_iff {ids : List String} : insertAll t now s docs = .ok (ids, s') ↔
    (docs.map Vocabulary.id).Nodup ∧
      (∀ v ∈ docs, v.validateShape = .ok () ∧ s.get? v.id = none) ∧
      docs.map Vocabulary.id = ids ∧ withRows t now s docs = s' := by
  induction docs generalizing s ids with
  | nil => simp [insertAll, withRows]
  | cons d ds ih =>
    rw [insertAll_cons_eq_ok_iff, List.map_cons, List.nodup_cons, List.forall_mem_cons]
    -- a row under another key is there after the first document exactly if it was there before
    have hrest : ∀ r, d.id ∉ ds.map Vocabulary.id →
        ((∀ v ∈ ds, v.validateShape = .ok () ∧ (TextMap.insert s d.id r).get? v.id = none) ↔
          ∀ v ∈ ds, v.validateShape = .ok () ∧ s.get? v.id = none) := by
      intro r hfresh
      refine forall₂_congr fun v hv => ?_
      rw [TextMap.get?_insert, if_neg fun heq => hfresh (List.mem_map.2 ⟨v, hv, heq.symm⟩)]
    constructor
    · rintro ⟨s₁, rest, hone, hall, rfl⟩
      obtain ⟨hshape, hfree, rfl⟩ := insertOne_eq_ok_iff.1 hone
      obtain ⟨hdistinct, hds, rfl, rfl⟩ := ih.1 hall
      have hfresh : d.id ∉ ds.map Vocabulary.id := by
        intro hmem
        obtain ⟨v, hv, heq⟩ := List.mem_map.1 hmem
        have hnone := (hds v hv).2
        rw [heq, TextMap.get?_insert_self] at hnone
        cases hnone
      exact ⟨⟨hfresh, hdistinct⟩, ⟨⟨hshape, hfree⟩, (hrest _ hfresh).1 hds⟩, rfl, rfl⟩
    · rintro ⟨⟨hfresh, hdistinct⟩, ⟨⟨hshape, hfree⟩, hds⟩, rfl, rfl⟩
      exact ⟨_, _, insertOne_eq_ok_iff.2 ⟨hshape, hfree, rfl⟩,
        ih.2 ⟨hdistinct, (hrest _ hfresh).2 hds, rfl, rfl⟩, rfl⟩

end Batches

theorem writeActive_eq_ok_iff : writeActive t now s v = .ok s' ↔
    ∃ r, s.get? v.id = some r ∧ r.deleted = 0 ∧
      TextMap.insert s v.id
        (Row.ofDocument t v 0 (v.created.getD r.created) (v.updated.getD now)) = s' := by
  rw [writeActive]
  cases hrow : s.get? v.id with
  | none => simp
  | some r => by_cases hactive : r.deleted = 0 <;> simp [hactive]

/-- Patching writes the updated document over the active row it was read from, if it is in
form. -/
theorem patch_eq_ok_iff {u : VocabularyUpdate} {w : Vocabulary} :
    patch t now s id u = .ok (w, s') ↔ ∃ r v, Active t s id r v ∧
      (v.applyUpdate u).validateShape = .ok () ∧ (v.applyUpdate u).marked false r.created now = w ∧
      TextMap.insert s id (Row.written t (v.applyUpdate u) r.created now) = s' := by
  rw [patch]
  cases hget : get t s id with
  | error err =>
    constructor
    · rintro ⟨⟩
    · rintro ⟨r, v, hv, -⟩
      rw [hv.get_eq] at hget
      cases hget
  | ok v =>
    obtain ⟨r, hv⟩ := find_eq_some_iff.1 (get_eq_ok_iff.1 hget)
    have hwrite : writeActive t now s ((v.applyUpdate u).marked false r.created now) =
        .ok (TextMap.insert s id (Row.written t (v.applyUpdate u) r.created now)) := by
      obtain rfl := hv.id_eq
      exact writeActive_eq_ok_iff.2 ⟨r, hv.row, hv.active, rfl⟩
    have hshape : ((v.applyUpdate u).marked false r.created now).validateShape =
        (v.applyUpdate u).validateShape := rfl
    dsimp only
    rw [← hv.marked_applyUpdate, hshape, hwrite]
    constructor
    · intro h
      cases hform : (v.applyUpdate u).validateShape with
      | error err =>
        rw [hform] at h
        cases h
      | ok _ =>
        rw [hform] at h
        cases h
        exact ⟨r, v, hv, hform, rfl, rfl⟩
    · rintro ⟨r', v', hv', hform, rfl, rfl⟩
      obtain ⟨rfl, rfl⟩ := hv.unique hv'
      rw [hform]
      rfl

/-- Replacing writes the document over an active row, if it is in form. -/
theorem replace_eq_ok_iff : replace t now s v = .ok s' ↔
    v.validateShape = .ok () ∧ ∃ r, s.get? v.id = some r ∧ r.deleted = 0 ∧
      TextMap.insert s v.id (Row.written t v (v.created.getD now) (v.updated.getD now)) = s' := by
  rw [replace]
  cases hshape : v.validateShape with
  | error err => simp
  | ok _ =>
    refine writeActive_eq_ok_iff.trans ?_
    rw [and_iff_right rfl]
    rfl

theorem softDelete_eq_ok_iff : softDelete now s id = .ok s' ↔
    ∃ r, s.get? id = some r ∧ r.deleted = 0 ∧ TextMap.insert s id (r.deletedAt now) = s' := by
  rw [softDelete]
  cases hrow : s.get? id with
  | none => simp
  | some r => by_cases hactive : r.deleted = 0 <;> simp [hactive, Row.deletedAt]

end Store

end Newsroom
