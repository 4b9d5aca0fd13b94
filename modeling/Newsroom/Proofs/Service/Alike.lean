import Mathlib.Data.List.Forall2
import Newsroom.Proofs.Service.Codes

/-!
# Documents that differ in the contents of items only

Two documents agree if they are the same but for their items (`Vocabulary.Agree`), and they are
alike if they have equally many items as well (`Vocabulary.Alike`). Updates, rows, stores and
operations are alike if the documents in them are; keywords may be any. What an operation looks at
beside the items of a document is the same for documents that agree.
-/

namespace Newsroom

/-! ### Documents and updates -/

namespace Vocabulary

variable {v w : Vocabulary} {u u' : VocabularyUpdate}

/-- The documents agree but for their items. -/
def Agree (v w : Vocabulary) : Prop := { v with items := w.items } = w

/-- The documents agree but for what their items say: they have equally many. -/
structure Alike (v w : Vocabulary) : Prop where
  agree : v.Agree w
  count : v.items.length = w.items.length

theorem Agree.exists_items (h : v.Agree w) : ∃ items, w = { v with items := items } :=
  ⟨w.items, h.symm⟩

theorem Agree.id_eq (h : v.Agree w) : v.id = w.id := by
  obtain ⟨items, rfl⟩ := h.exists_items
  rfl

theorem Agree.schema_eq (h : v.Agree w) : v.schema = w.schema := by
  obtain ⟨items, rfl⟩ := h.exists_items
  rfl

theorem Agree.custom_eq (h : v.Agree w) : v.custom = w.custom := by
  obtain ⟨items, rfl⟩ := h.exists_items
  rfl

theorem Agree.deleted_eq (h : v.Agree w) : v.deleted = w.deleted := by
  obtain ⟨items, rfl⟩ := h.exists_items
  rfl

theorem Agree.noticeOf_eq (h : v.Agree w) (change : Change) (ctx : Context) :
    noticeOf change ctx v = noticeOf change ctx w := by
  obtain ⟨items, rfl⟩ := h.exists_items
  rfl

theorem Agree.checkReserved_eq (h : v.Agree w) (e : Engine) :
    e.checkReserved v = e.checkReserved w := by
  obtain ⟨items, rfl⟩ := h.exists_items
  rfl

theorem Agree.withUniqueDefault (h : v.Agree w) :
    v.withUniqueDefault.Agree w.withUniqueDefault := by
  obtain ⟨items, rfl⟩ := h.exists_items
  dsimp only [Agree, Vocabulary.withUniqueDefault]
  split <;> rfl

/-- What is read off documents beside their items is the same for alike lists of documents. -/
theorem map_eq_of_alike {α : Type} {f : Vocabulary → α} {docs docs' : List Vocabulary}
    (hdocs : List.Forall₂ Vocabulary.Alike docs docs')
    (hf : ∀ v w : Vocabulary, v.Agree w → f v = f w) : docs.map f = docs'.map f := by
  rw [← List.forall₂_eq_eq_eq, List.forall₂_map_left_iff, List.forall₂_map_right_iff]
  exact hdocs.imp fun v w h => hf v w h.agree

end Vocabulary

namespace VocabularyUpdate

variable {u u' : VocabularyUpdate}

/-- The updates agree but for the items that both of them carry or do not carry. -/
structure Agree (u u' : VocabularyUpdate) : Prop where
  rest : { u with items := u'.items } = u'
  carries : u.items.isSome = u'.items.isSome

/-- The updates agree but for what the items say that they carry: they carry equally many. -/
structure Alike (u u' : VocabularyUpdate) : Prop where
  rest : { u with items := u'.items } = u'
  count : u.items.map List.length = u'.items.map List.length

theorem Alike.agree (h : u.Alike u') : u.Agree u' := by
  refine ⟨h.rest, ?_⟩
  have hsome := congrArg Option.isSome h.count
  rwa [Option.isSome_map, Option.isSome_map] at hsome

theorem Agree.exists_items (h : u.Agree u') : ∃ items, u' = { u with items := items } :=
  ⟨u'.items, h.rest.symm⟩

theorem agree_ofItems (items items' : List Item) : (ofItems items).Agree (ofItems items') :=
  ⟨rfl, rfl⟩

end VocabularyUpdate

namespace Vocabulary

variable {v w : Vocabulary} {u u' : VocabularyUpdate}

theorem Agree.applyUpdate (h : v.Agree w) (hu : u.Agree u') :
    (v.applyUpdate u).Agree (w.applyUpdate u') := by
  obtain ⟨items, rfl⟩ := h.exists_items
  obtain ⟨items', rfl⟩ := hu.exists_items
  rfl

theorem Agree.updatedBy (h : v.Agree w) (hu : u.Agree u') :
    (v.updatedBy u).Agree (w.updatedBy u') := by
  rw [Vocabulary.updatedBy, Vocabulary.updatedBy, ← hu.carries]
  split
  · exact (h.applyUpdate hu).withUniqueDefault
  · exact h.applyUpdate hu

/-- What alike updates lead to from alike documents has equally many items. -/
theorem Alike.count_updatedBy (h : v.Alike w) (hu : u.Alike u') :
    (v.updatedBy u).items.length = (w.updatedBy u').items.length := by
  have hcount := hu.count
  rw [items_updatedBy, items_updatedBy]
  cases hitems : u.items with
  | none =>
    rw [hitems, Option.map_none, eq_comm, Option.map_eq_none_iff] at hcount
    rw [hcount]
    exact h.count
  | some items =>
    rw [hitems, Option.map_some, eq_comm, Option.map_eq_some_iff] at hcount
    obtain ⟨items', hitems', hlength⟩ := hcount
    rw [hitems']
    exact hlength.symm

end Vocabulary

/-! ### Rows, stores and operations -/

/-- The rows read under `id` as documents that are alike. -/
def Row.Alike (t : TextLayer) (id : String) (r r' : Row) : Prop :=
  ∃ v w, r.vocabulary t id = .ok v ∧ r'.vocabulary t id = .ok w ∧ v.Alike w

theorem Row.Alike.deleted_eq {t : TextLayer} {id : String} {r r' : Row} (h : r.Alike t id r') :
    r.deleted = r'.deleted := by
  obtain ⟨v, w, hv, hw, halike⟩ := h
  have hdeleted := halike.agree.deleted_eq
  obtain ⟨_, -, -, ⟨h0, rfl⟩ | ⟨h1, rfl⟩⟩ := Row.vocabulary_eq_ok_iff.1 hv <;>
    obtain ⟨_, -, -, ⟨h0', rfl⟩ | ⟨h1', rfl⟩⟩ := Row.vocabulary_eq_ok_iff.1 hw
  · rw [h0, h0']
  · cases hdeleted
  · cases hdeleted
  · rw [h1, h1']

namespace Store

variable {t : TextLayer} {s s' : Store}

/-- The stores have the same keys, under which they have documents that are alike. -/
def Alike (t : TextLayer) (s s' : Store) : Prop :=
  ∀ id, Option.Rel (Row.Alike t id) (s.get? id) (s'.get? id)

theorem Alike.get?_cases (h : Alike t s s') (id : String) :
    (s.get? id = none ∧ s'.get? id = none) ∨
      ∃ r r', s.get? id = some r ∧ s'.get? id = some r' ∧ r.Alike t id r' := by
  have hrel := h id
  generalize s.get? id = o at hrel ⊢
  generalize s'.get? id = o' at hrel ⊢
  cases hrel with
  | none => exact .inl ⟨rfl, rfl⟩
  | some hrow => exact .inr ⟨_, _, rfl, rfl, hrow⟩

theorem Alike.readable_left (h : Alike t s s') : Readable t s := by
  intro id r hr
  rcases h.get?_cases id with ⟨hnone, -⟩ | ⟨_, _, hrow, -, v, -, hv, -⟩
  · rw [hr] at hnone
    cases hnone
  · obtain rfl := Option.some.inj (hr.symm.trans hrow)
    exact ⟨v, hv⟩

theorem Alike.readable_right (h : Alike t s s') : Readable t s' := by
  intro id r hr
  rcases h.get?_cases id with ⟨-, hnone⟩ | ⟨_, _, -, hrow, -, w, -, hw, -⟩
  · rw [hr] at hnone
    cases hnone
  · obtain rfl := Option.some.inj (hr.symm.trans hrow)
    exact ⟨w, hw⟩

/-- Under every key neither store has an active vocabulary, or they have alike ones. -/
theorem Alike.find_cases (h : Alike t s s') (id : String) :
    (find t s id = .ok none ∧ find t s' id = .ok none) ∨
      ∃ r r' v w, Active t s id r v ∧ Active t s' id r' w ∧ v.Alike w := by
  rcases h.get?_cases id with ⟨hr, hr'⟩ | ⟨r, r', hr, hr', hrow⟩
  · left
    rw [find, find, findWith, findWith, hr, hr']
    exact ⟨rfl, rfl⟩
  · have hdeleted := hrow.deleted_eq
    by_cases hactive : r.deleted = 0
    · obtain ⟨v, w, hv, hw, halike⟩ := hrow
      exact .inr ⟨r, r', v, w, ⟨hr, hactive, hv⟩, ⟨hr', hdeleted ▸ hactive, hw⟩, halike⟩
    · left
      rw [find, find, findWith, findWith, hr, hr']
      dsimp only
      rw [if_neg hactive, if_neg (hdeleted ▸ hactive)]
      exact ⟨rfl, rfl⟩

end Store

namespace Operation

/-- The operations differ in the contents of items and in keywords only. -/
inductive Alike : Operation → Operation → Prop where
  | create {docs docs' : List Vocabulary} {ctx : Context}
      (hdocs : List.Forall₂ Vocabulary.Alike docs docs') :
      Alike (.create docs ctx) (.create docs' ctx)
  | replace {id : String} {doc doc' : Vocabulary} {ctx : Context} (hdoc : doc.Alike doc') :
      Alike (.replace id doc ctx) (.replace id doc' ctx)
  | update {id : String} {u u' : VocabularyUpdate} {ctx : Context} (hu : u.Alike u') :
      Alike (.update id u ctx) (.update id u' ctx)
  | delete {id : String} : Alike (.delete id) (.delete id)
  | addMissingKeywords {keywords keywords' : List String} {language : Option String}
      {ctx : Context} : Alike (.addMissingKeywords keywords language ctx)
        (.addMissingKeywords keywords' language ctx)
  | onArticlePublished {keywords keywords' : List String} {language : Option String}
      {ctx : Context} : Alike (.onArticlePublished keywords language ctx)
        (.onArticlePublished keywords' language ctx)

end Operation

end Newsroom
