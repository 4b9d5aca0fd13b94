import Newsroom.Proofs.Store.Columns
import Newsroom.Proofs.Text.Bytes

/-!
# Lists

A query selects rows by their columns (`ListQuery.selects`). Where the columns repeat the documents,
that is the same as to select documents by what they say (`ListQuery.MatchedBy`,
`ListQuery.selects_iff`). So a list over such a store succeeds and consists of the documents that
match, in the order of the bytes of their keys (`Store.list_matches`).
-/

namespace Newsroom

/-! ### Queries about documents -/

/-- Whether a field type is as the filter asks. -/
def FieldTypeFilter.Admits : FieldTypeFilter → Option String → Prop
  | .any, _ => True
  | .present, fieldType => fieldType ≠ none
  | .absent, fieldType => fieldType = none
  | .equals value, fieldType => fieldType = some value

/-- The document is as the query asks. -/
structure ListQuery.MatchedBy (q : ListQuery) (v : Vocabulary) : Prop where
  active : q.includeDeleted = true ∨ v.deleted = false
  kind : ∀ k, q.kind = some k → v.kind = k
  fieldType : q.fieldType.Admits v.fieldType
  hasService : ∀ b, q.hasService = some b → v.service.isSome = b
  selection : ∀ k, q.selection = some k → v.selection = some k

theorem Row.ofFlag_inj {a b : Bool} : ofFlag a = ofFlag b ↔ a = b := by
  cases a <;> cases b <;> decide

theorem VocabularyKind.name_inj {k l : VocabularyKind} : k.name = l.name ↔ k = l :=
  ⟨name_injective, congrArg name⟩

theorem SelectionKind.name_inj {k l : SelectionKind} : k.name = l.name ↔ k = l :=
  ⟨name_injective, congrArg name⟩

/-- Where the columns repeat a document, to ask the columns is to ask the document. -/
theorem ListQuery.selects_iff {q : ListQuery} {t : TextLayer} {id : String} {r : Row}
    {v : Vocabulary} (h : r.Mirrors t id v) : q.selects r = true ↔ q.MatchedBy v := by
  have hparts : q.selects r = true ↔
      ((((q.includeDeleted = true ∨ v.deleted = false) ∧ ∀ k, q.kind = some k → v.kind = k) ∧
        q.fieldType.Admits v.fieldType) ∧ ∀ b, q.hasService = some b → v.service.isSome = b) ∧
        ∀ k, q.selection = some k → v.selection = some k := by
    rw [selects, Bool.and_eq_true, Bool.and_eq_true, Bool.and_eq_true, Bool.and_eq_true, h.kind,
      h.fieldType, h.hasService, h.selection]
    refine and_congr (and_congr (and_congr (and_congr ?_ ?_) ?_) ?_) ?_
    · rw [Bool.or_eq_true, Row.active, decide_eq_true_iff, h.deleted]
      exact or_congr_right (Row.ofFlag_inj (b := false))
    · cases q.kind with
      | none => simp
      | some k => simp [VocabularyKind.name_inj]
    · cases q.fieldType with
      | any => exact iff_of_true rfl trivial
      | present => exact Option.isSome_iff_ne_none
      | absent => exact Option.isNone_iff_eq_none
      | equals value => exact decide_eq_true_iff
    · cases q.hasService with
      | none => simp
      | some b => simp [Row.ofFlag_inj]
    · cases q.selection with
      | none => simp
      | some k => simp [SelectionKind.name_inj]
  exact hparts.trans ⟨fun ⟨⟨⟨⟨hactive, hkind⟩, hfield⟩, hservice⟩, hselection⟩ =>
      ⟨hactive, hkind, hfield, hservice, hselection⟩,
    fun ⟨hactive, hkind, hfield, hservice, hselection⟩ =>
      ⟨⟨⟨⟨hactive, hkind⟩, hfield⟩, hservice⟩, hselection⟩⟩

/-! ### Lists over mirrored stores -/

/-- What is known for every element is known for the traversal. -/
theorem traverse_eq_ok {α β ε : Type} {f : α → Except ε β} {g : α → β} {xs : List α}
    (h : ∀ x ∈ xs, f x = .ok (g x)) : traverse f xs = .ok (xs.map g) := by
  induction xs with
  | nil => rfl
  | cons x xs ih =>
    obtain ⟨hx, hxs⟩ := List.forall_mem_cons.1 h
    rw [traverse, hx]
    dsimp only
    rw [ih hxs]
    rfl

namespace Store

variable {t : TextLayer} {s : Store} {P : Vocabulary → Prop}

/-- A list over a store whose columns repeat the documents consists of the documents that match,
in the order of the bytes of their keys. -/
theorem Holds.list (hs : s.Holds t P) (q : ListQuery) : ∃ vs, list t s q = .ok vs ∧
    vs.Pairwise (fun v w => Text.utf8 v.id < Text.utf8 w.id) ∧
    ∀ v, v ∈ vs ↔ (∃ r, s.get? v.id = some r ∧ r.vocabulary t v.id = .ok v) ∧ q.MatchedBy v := by
  have hentries : ∀ e ∈ s.entries, ∃ v, e.2.Mirrors t e.1 v := by
    intro e he
    obtain ⟨v, hv, -⟩ := hs e.1 e.2 (TextMap.mem_entries_iff.1 he)
    exact ⟨v, hv⟩
  choose! g hg using hentries
  have hid : ∀ e ∈ s.entries, (g e).id = e.1 := fun e he => Row.id_of_vocabulary (hg e he).read
  refine ⟨(s.entries.filter fun e => q.selects e.2).map g, ?_, ?_, fun v => ?_⟩
  · rw [Store.list]
    exact traverse_eq_ok fun e he => (hg e (List.mem_of_mem_filter he)).read
  · refine List.pairwise_map.2 ((s.ascending.filter _).imp_of_mem fun he he' hlt => ?_)
    rw [hid _ (List.mem_of_mem_filter he), hid _ (List.mem_of_mem_filter he')]
    exact Text.utf8_lt_of_lt hlt
  · rw [List.mem_map]
    constructor
    · rintro ⟨e, he, rfl⟩
      obtain ⟨hmem, hselects⟩ := List.mem_filter.1 he
      have hmirrors := hg e hmem
      rw [hid e hmem]
      exact ⟨⟨e.2, TextMap.mem_entries_iff.1 hmem, hmirrors.read⟩,
        (ListQuery.selects_iff hmirrors).1 hselects⟩
    · rintro ⟨⟨r, hrow, hread⟩, hmatched⟩
      have hmem : (v.id, r) ∈ s.entries := TextMap.mem_entries_iff.2 hrow
      have hmirrors : r.Mirrors t v.id (g (v.id, r)) := hg _ hmem
      have hdocument : g (v.id, r) = v := hmirrors.unique hread
      rw [hdocument] at hmirrors
      exact ⟨_, List.mem_filter.2 ⟨hmem, (ListQuery.selects_iff hmirrors).2 hmatched⟩, hdocument⟩

/-- **Lists**: after every run of store operations on received documents and updates from the empty
store, whose documents the text layer reads back, every row reads as a vocabulary, and every list
succeeds. It has the stored vocabularies that match the query and no others, each once, in the order
of the bytes of their keys. -/
theorem list_matches (t : TextLayer) (ops : List (Int64 × StoreOperation)) (hops : Received ops)
    (hkeeps : KeepsRun t ops ∅) (q : ListQuery) :
    (∀ id r, (run t ops ∅).get? id = some r → ∃ v, r.vocabulary t id = .ok v) ∧
    ∃ vs, list t (run t ops ∅) q = .ok vs ∧
      vs.Pairwise (fun v w => Text.utf8 v.id < Text.utf8 w.id) ∧
      ∀ v, v ∈ vs ↔
        (∃ r, (run t ops ∅).get? v.id = some r ∧ r.vocabulary t v.id = .ok v) ∧
          q.MatchedBy v := by
  have hmirrored := run_mirrored hops hkeeps holds_empty
  refine ⟨fun id r hr => ?_, hmirrored.list q⟩
  obtain ⟨v, hv, -⟩ := hmirrored id r hr
  exact ⟨v, hv.read⟩

/-- Countries: a custom vocabulary that is bound to a service and not shown. -/
def countries : Vocabulary :=
  { Vocabulary.new "countries" "Countries" .unmanageable with
    fieldType := some "text"
    selection := some .hidden
    service := some (TextMap.ofList [("all", 1)]) }

/-- The query for such vocabularies, deleted or not. -/
def hiddenCustom : ListQuery :=
  ⟨some .unmanageable, .present, some true, some .hidden, true⟩

/-- The run that adds the countries and deletes them. -/
def countriesRun : List (Int64 × StoreOperation) :=
  [(1, .insert [countries]), (2, .softDelete "countries")]

theorem received_countries : Vocabulary.ofJson? countries.toJson = some countries := by
  decide +kernel

/-- The deleted countries are listed when deleted vocabularies are. -/
theorem countries_listed : ∃ vs,
    list .json (run .json countriesRun ∅) hiddenCustom = .ok vs ∧
      countries.marked true 1 2 ∈ vs := by
  have hops : Received countriesRun := List.forall_mem_cons.2
    ⟨List.forall_mem_singleton.2 ⟨_, received_countries⟩, List.forall_mem_singleton.2 trivial⟩
  have hcountries : countries.Legible := Vocabulary.legible_toJson_iff.1 (by decide +kernel)
  have hkeeps : KeepsRun .json countriesRun ∅ := keepsRun_json hops
    (List.forall_mem_cons.2 ⟨List.forall_mem_singleton.2 hcountries,
      List.forall_mem_singleton.2 trivial⟩) holds_empty
  have hrow : (run .json countriesRun ∅).get? "countries" =
      some ((Row.written .json countries 1 1).deletedAt 2) := rfl
  have hkept : TextLayer.json.Keeps (countries.marked false 1 1) :=
    TextLayer.keeps_json_iff.2 (hcountries.marked false 1 1)
  have hread := Row.vocabulary_written hkept (Vocabulary.wellFormed_of_ofJson? received_countries)
  obtain ⟨-, vs, hvs, -, hmem⟩ := list_matches .json countriesRun hops hkeeps hiddenCustom
  refine ⟨vs, hvs, (hmem _).2 ⟨⟨_, hrow, Row.vocabulary_deletedAt hread 2⟩, ?_⟩⟩
  exact {
    active := .inl rfl
    kind := by decide
    fieldType := Option.some_ne_none "text"
    hasService := by decide
    selection := by decide }

end Store

end Newsroom
