import Newsroom.Proofs.Store.TextLayer

/-!
# Columns repeat documents

A row reads as a well-formed document, and its columns say the same as that document
(`Row.Mirrors`). What is written is so, and deletion keeps it so; hence every row is so after every
run of store operations on received documents and updates (`Store.run_mirrored`). Of the text layer
this asks that it reads back the documents that the run stores (`Store.KeepsRun`), as compact JSON
does when what the operations bring is legible (`Store.keepsRun_json`).
-/

namespace Newsroom

/-- The row under `id` reads as the well-formed document, and its columns repeat it. -/
structure Row.Mirrors (t : TextLayer) (id : String) (r : Row) (v : Vocabulary) : Prop where
  read : r.vocabulary t id = .ok v
  wellFormed : v.WellFormed
  kind : r.kind = v.kind.name
  fieldType : r.fieldType = v.fieldType
  selection : r.selection = v.selection.map SelectionKind.name
  hasService : r.hasService = Row.ofFlag v.service.isSome
  deleted : r.deleted = Row.ofFlag v.deleted

namespace Row

variable {t : TextLayer} {id : String} {r : Row} {v : Vocabulary} {now : Int64}

/-- What is written mirrors its document, if the text layer keeps that. -/
theorem mirrors_written {created updated : Int64}
    (hkeeps : t.Keeps (v.marked false created updated)) (hv : v.WellFormed) :
    (written t v created updated).Mirrors t v.id (v.marked false created updated) where
  read := vocabulary_written hkeeps hv
  wellFormed := hv.marked false created updated
  kind := rfl
  fieldType := rfl
  selection := rfl
  hasService := rfl
  deleted := rfl

theorem Mirrors.deletedAt (h : r.Mirrors t id v) (now : Int64) :
    (r.deletedAt now).Mirrors t id (v.marked true r.created now) where
  read := vocabulary_deletedAt h.read now
  wellFormed := h.wellFormed.marked true r.created now
  kind := h.kind
  fieldType := h.fieldType
  selection := h.selection
  hasService := h.hasService
  deleted := rfl

/-- A row mirrors at most one document. -/
theorem Mirrors.unique {w : Vocabulary} (h : r.Mirrors t id v) (hw : r.vocabulary t id = .ok w) :
    v = w :=
  Except.ok.inj (h.read.symm.trans hw)

end Row

/-! ### Properties of stored documents -/

/-- The row mirrors a document with the property. -/
def Row.Holds (t : TextLayer) (P : Vocabulary → Prop) (id : String) (r : Row) : Prop :=
  ∃ v, r.Mirrors t id v ∧ P v

/-- Every row mirrors a document with the property. -/
def Store.Holds (t : TextLayer) (P : Vocabulary → Prop) (s : Store) : Prop :=
  ∀ id, ∀ r ∈ s.get? id, r.Holds t P id

/-- The marks of a row do not matter to the property. -/
def MarkFree (P : Vocabulary → Prop) : Prop :=
  ∀ (v : Vocabulary) (deleted : Bool) (created updated : Int64),
    P v → P (v.marked deleted created updated)

section

variable {t : TextLayer} {P : Vocabulary → Prop} {id : String} {r : Row} {v : Vocabulary}

theorem Store.holds_empty : Holds t P ∅ := by
  intro id r hr
  cases hr

/-- What is written holds a document with the property. -/
theorem Row.holds_written (hP : MarkFree P) {created updated : Int64}
    (hkeeps : t.Keeps (v.marked false created updated)) (hv : v.WellFormed) (h : P v) :
    (written t v created updated).Holds t P v.id :=
  ⟨_, mirrors_written hkeeps hv, hP v false created updated h⟩

theorem Row.Holds.deletedAt (hP : MarkFree P) (h : r.Holds t P id) (now : Int64) :
    (r.deletedAt now).Holds t P id := by
  obtain ⟨v, hmirrors, hv⟩ := h
  exact ⟨_, hmirrors.deletedAt now, hP v true r.created now hv⟩

theorem markFree_true : MarkFree fun _ => True := fun _ _ _ _ h => h

theorem markFree_legible : MarkFree Vocabulary.Legible := fun _ _ _ _ h => h.marked _ _ _

end

/-! ### What an operation stores -/

namespace StoreOperation

/-- The documents and updates of the operation were read from JSON. -/
def Received : StoreOperation → Prop
  | .insert docs => ∀ d ∈ docs, ∃ j, Vocabulary.ofJson? j = some d
  | .patch _ u | .systemUpdate _ u => ∃ j, VocabularyUpdate.ofJson? j = some u
  | .replace doc => ∃ j, Vocabulary.ofJson? j = some doc
  | .softDelete _ => True

/-- The text of what the operation brings is read back. -/
def Legible : StoreOperation → Prop
  | .insert docs => ∀ d ∈ docs, d.Legible
  | .patch _ u | .systemUpdate _ u => u.Legible
  | .replace doc => doc.Legible
  | .softDelete _ => True

/-- The operation, when it succeeds, stores the document `w`. -/
def Stores (t : TextLayer) (now : Int64) (s : Store) : StoreOperation → Vocabulary → Prop
  | .insert docs, w => ∃ d ∈ docs, w = Store.stamped now d
  | .patch id u, w | .systemUpdate id u, w =>
    ∃ r v, Store.Active t s id r v ∧ w = (v.applyUpdate u).marked false r.created now
  | .replace doc, w => w = Store.stamped now doc
  | .softDelete _, _ => False

theorem map_snd_eq_ok_iff {α : Type} {x : Except StoreError (α × Store)} {s' : Store} :
    x.map Prod.snd = .ok s' ↔ ∃ a, x = .ok (a, s') := by
  cases x with
  | error err => exact iff_of_false nofun nofun
  | ok made =>
    obtain ⟨a, s⟩ := made
    simp [Except.map]

/-- What an operation that succeeds leaves under a key: the row that was there, that row marked as
deleted, or the row of a document that it stores. -/
theorem row_cases {t : TextLayer} {now : Int64} {s s' : Store} {op : StoreOperation} {id : String}
    {r : Row} (h : op.apply t now s = .ok s') (hr : s'.get? id = some r) :
    s.get? id = some r ∨ (∃ r₀, s.get? id = some r₀ ∧ r = r₀.deletedAt now) ∨
      ∃ v created updated, v.id = id ∧ op.Stores t now s (v.marked false created updated) ∧
        r = Row.written t v created updated := by
  cases op with
  | insert docs =>
    obtain ⟨ids, hwrite⟩ := map_snd_eq_ok_iff.1 h
    obtain ⟨hdistinct, -, -, rfl⟩ := Store.insertAll_eq_ok_iff.1 hwrite
    by_cases hid : ∃ d ∈ docs, d.id = id
    · obtain ⟨d, hd, rfl⟩ := hid
      rw [Store.get?_withRows_of_mem hdistinct hd] at hr
      exact .inr (.inr ⟨d, _, _, rfl, ⟨d, hd, rfl⟩, (Option.some.inj hr).symm⟩)
    · rw [Store.get?_withRows_of_forall_ne hdistinct fun d hd heq => hid ⟨d, hd, heq⟩] at hr
      exact .inl hr
  | patch target u | systemUpdate target u =>
    obtain ⟨w, hwrite⟩ := map_snd_eq_ok_iff.1 h
    obtain ⟨r₀, v, hv, -, -, rfl⟩ := Store.patch_eq_ok_iff.1 hwrite
    rw [TextMap.get?_insert] at hr
    split at hr
    case isTrue htarget =>
      exact .inr (.inr ⟨v.applyUpdate u, _, _, hv.id_eq.trans htarget, ⟨r₀, v, hv, rfl⟩,
        (Option.some.inj hr).symm⟩)
    case isFalse => exact .inl hr
  | replace doc =>
    obtain ⟨-, r₀, -, -, rfl⟩ := Store.replace_eq_ok_iff.1 h
    rw [TextMap.get?_insert] at hr
    split at hr
    case isTrue htarget => exact .inr (.inr ⟨doc, _, _, htarget, rfl, (Option.some.inj hr).symm⟩)
    case isFalse => exact .inl hr
  | softDelete target =>
    obtain ⟨r₀, hrow, -, rfl⟩ := Store.softDelete_eq_ok_iff.1 h
    rw [TextMap.get?_insert] at hr
    split at hr
    case isTrue htarget => exact .inr (.inl ⟨r₀, htarget ▸ hrow, (Option.some.inj hr).symm⟩)
    case isFalse => exact .inl hr

end StoreOperation

namespace Store

/-- Every operation of the run is received. -/
def Received (ops : List (Int64 × StoreOperation)) : Prop := ∀ step ∈ ops, step.2.Received

/-- The text layer reads back the documents that the operation stores. -/
def KeepsStep (t : TextLayer) (now : Int64) (op : StoreOperation) (s : Store) : Prop :=
  ∀ s', op.apply t now s = .ok s' → ∀ w, op.Stores t now s w → t.Keeps w

/-- The text layer reads back the documents that the run stores. -/
def KeepsRun (t : TextLayer) : List (Int64 × StoreOperation) → Store → Prop
  | [], _ => True
  | (now, op) :: rest, s => KeepsStep t now op s ∧ KeepsRun t rest (perform t now op s)

variable {t : TextLayer} {now : Int64} {s s' : Store} {op : StoreOperation}
  {ops : List (Int64 × StoreOperation)} {w : Vocabulary} {P : Vocabulary → Prop}

/-- What a received operation stores is well-formed: a patch goes over the document that the row
mirrors. -/
theorem Holds.wellFormed_of_stores (hs : s.Holds t P) (hop : op.Received)
    (h : op.Stores t now s w) : w.WellFormed := by
  cases op with
  | insert docs =>
    obtain ⟨d, hd, rfl⟩ := h
    obtain ⟨j, hj⟩ := hop d hd
    exact (Vocabulary.wellFormed_of_ofJson? hj).marked false _ _
  | patch id u | systemUpdate id u =>
    obtain ⟨r, v, hv, rfl⟩ := h
    obtain ⟨j, hj⟩ := hop
    obtain ⟨v', hmirrors, -⟩ := hs id r hv.row
    obtain rfl := hmirrors.unique hv.read
    have hu : u.WellFormed := VocabularyUpdate.wellFormed_of_ofJson? hj
    exact (hmirrors.wellFormed.applyUpdate hu).marked false _ _
  | replace doc =>
    obtain rfl := h
    obtain ⟨j, hj⟩ := hop
    exact (Vocabulary.wellFormed_of_ofJson? hj).marked false _ _
  | softDelete id => cases h

/-- A property that all rows have and all documents that are stored is kept by the operation,
whether it succeeds or fails. -/
theorem Holds.perform (hP : MarkFree P) (hs : s.Holds t P) (hop : op.Received)
    (hkeeps : KeepsStep t now op s) (hstored : ∀ w, op.Stores t now s w → P w) :
    (perform t now op s).Holds t P := by
  intro id r hr
  rw [Store.perform] at hr
  split at hr
  case h_1 => exact hs id r hr
  case h_2 s' h =>
    rcases StoreOperation.row_cases h hr with hsame | ⟨r₀, hrow, rfl⟩ |
      ⟨v, created, updated, rfl, hstores, rfl⟩
    · exact hs id r hsame
    · exact (hs id r₀ hrow).deletedAt hP now
    · exact ⟨_, Row.mirrors_written (hkeeps s' h _ hstores)
        (hs.wellFormed_of_stores hop hstores).of_marked, hstored _ hstores⟩

/-- Every row mirrors a document after every received run. -/
theorem run_mirrored (hops : Received ops) (hkeeps : KeepsRun t ops s)
    (hs : s.Holds t fun _ => True) : (run t ops s).Holds t fun _ => True := by
  induction ops generalizing s with
  | nil => exact hs
  | cons step rest ih =>
    obtain ⟨hop, hrest⟩ := List.forall_mem_cons.1 hops
    exact ih hrest hkeeps.2 (hs.perform markFree_true hop hkeeps.1 fun _ _ => trivial)

/-! ### Runs that compact JSON reads back -/

/-- What a legible operation stores over legible documents is legible. -/
theorem Holds.legible_of_stores (hs : s.Holds t Vocabulary.Legible) (hop : op.Legible)
    (h : op.Stores t now s w) : w.Legible := by
  cases op with
  | insert docs =>
    obtain ⟨d, hd, rfl⟩ := h
    exact (hop d hd).marked false _ _
  | patch id u | systemUpdate id u =>
    obtain ⟨r, v, hv, rfl⟩ := h
    obtain ⟨v', hmirrors, hlegible⟩ := hs id r hv.row
    obtain rfl := hmirrors.unique hv.read
    have hu : u.Legible := hop
    exact (hlegible.applyUpdate hu).marked false _ _
  | replace doc =>
    obtain rfl := h
    have hdoc : doc.Legible := hop
    exact hdoc.marked false _ _
  | softDelete id => cases h

/-- **Compact JSON** reads back all that a run of received operations stores, if what they bring is
legible. -/
theorem keepsRun_json (hops : Received ops) (hlegible : ∀ step ∈ ops, step.2.Legible)
    (hs : s.Holds .json Vocabulary.Legible) : KeepsRun .json ops s := by
  induction ops generalizing s with
  | nil => trivial
  | cons step rest ih =>
    obtain ⟨now, op⟩ := step
    obtain ⟨hop, hrest⟩ := List.forall_mem_cons.1 hops
    obtain ⟨hop', hrest'⟩ := List.forall_mem_cons.1 hlegible
    have hkeeps : KeepsStep .json now op s := fun _ _ _ hw =>
      TextLayer.keeps_json_iff.2 (hs.legible_of_stores hop' hw)
    exact ⟨hkeeps, ih hrest hrest' (hs.perform markFree_legible hop hkeeps
      fun _ hw => hs.legible_of_stores hop' hw)⟩

end Store

end Newsroom
