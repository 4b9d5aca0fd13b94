import Mathlib.Data.List.Nodup
import Newsroom.Proofs.Service.Step
import Newsroom.Proofs.Store.Columns

/-!
# Rows under received operations

Requests bring documents and updates that were read from JSON (`Engine.Received`), and the text
layer reads back the documents that a run stores (`Engine.KeepsRun`). Under such runs every row
mirrors a document, and a property of documents that every write establishes holds of all of them
(`Engine.run_holds`). Compact JSON reads back whatever a run stores if what its operations bring is
legible (`Engine.keepsRun_json`).
-/

namespace Newsroom

namespace Operation

/-- The documents and updates of the operation were read from JSON. -/
def Received : Operation → Prop
  | .create docs _ => ∀ d ∈ docs, ∃ j, Vocabulary.ofJson? j = some d
  | .replace _ doc _ => ∃ j, Vocabulary.ofJson? j = some doc
  | .update _ u _ => ∃ j, VocabularyUpdate.ofJson? j = some u
  | .delete _ | .addMissingKeywords _ _ _ | .onArticlePublished _ _ _ => True

/-- The parts of the operation's documents and updates that may hold any JSON values are as they
should be. -/
def ConsistsOf (I : Item → Prop) (S : Schema → Prop) (M : TextMap Json → Prop) : Operation → Prop
  | .create docs _ => ∀ d ∈ docs, d.ConsistsOf I S M
  | .replace _ doc _ => doc.ConsistsOf I S M
  | .update _ u _ => u.ConsistsOf I S M
  | .delete _ | .addMissingKeywords _ _ _ | .onArticlePublished _ _ _ => True

/-- The text of what the operation brings is read back. -/
abbrev Legible : Operation → Prop := ConsistsOf Item.Legible Schema.Legible Json.LegibleMap

section Parts

variable {I : Item → Prop} {S : Schema → Prop} {M : TextMap Json → Prop} {op : Operation}
  {c : Config} {id : String} {v : Vocabulary} {u : VocabularyUpdate}

theorem consistsOf_keywordsVocabulary (hitem : ∀ k, I (.named k))
    (hschema : S (keywordsVocabulary id []).schema) (keywords : List String) :
    (keywordsVocabulary id keywords).ConsistsOf I S M where
  items := by
    intro i hi
    obtain ⟨k, -, rfl⟩ := List.mem_map.1 hi
    exact hitem k
  schema := hschema
  fieldOptions := nofun
  customFieldConfig := nofun

/-- Items of keywords behind those of a document are as they should be when these are. -/
theorem consistsOf_ofItems_named (hitem : ∀ k, I (.named k)) (hv : v.ConsistsOf I S M)
    (keywords : List String) :
    (VocabularyUpdate.ofItems (v.items ++ keywords.map Item.named)).ConsistsOf I S M := by
  refine VocabularyUpdate.consistsOf_ofItems fun i hi => ?_
  rcases List.mem_append.1 hi with hi | hi
  · exact hv.items i hi
  · obtain ⟨k, -, rfl⟩ := List.mem_map.1 hi
    exact hitem k

/-- What is true of the parts of an operation and of keywords is true of what it brings. -/
theorem ConsistsOf.of_brings (h : op.ConsistsOf I S M) (hitem : ∀ k, I (.named k))
    (hschema : ∀ id, S (keywordsVocabulary id []).schema) (hop : op.Brings c v) :
    v.ConsistsOf I S M := by
  cases op with
  | create docs ctx => exact h v hop
  | replace id doc ctx =>
    rw [hop]
    exact h
  | update id u ctx => cases hop
  | delete id => cases hop
  | addMissingKeywords keywords language ctx =>
    rw [hop]
    exact consistsOf_keywordsVocabulary hitem (hschema _) _
  | onArticlePublished keywords language ctx =>
    rw [hop]
    exact consistsOf_keywordsVocabulary hitem (hschema _) _

/-- It is also true of what the operation applies to a document of which it is true. -/
theorem ConsistsOf.of_applies (h : op.ConsistsOf I S M) (hitem : ∀ k, I (.named k))
    (hop : op.Applies c id v u) (hv : v.ConsistsOf I S M) : u.ConsistsOf I S M := by
  cases op with
  | create docs ctx => cases hop
  | replace id doc ctx => cases hop
  | update id u ctx =>
    rw [hop.2]
    exact h
  | delete id => cases hop
  | addMissingKeywords keywords language ctx =>
    rw [hop.2]
    exact consistsOf_ofItems_named hitem hv _
  | onArticlePublished keywords language ctx =>
    rw [hop.2]
    exact consistsOf_ofItems_named hitem hv _

/-! ### Received operations -/

theorem wellFormed_keywordsVocabulary (id : String) (keywords : List String) :
    (keywordsVocabulary id keywords).WellFormed := by
  refine consistsOf_keywordsVocabulary Item.wellFormed_named ?_ keywords
  refine Schema.wellFormed_ofList fun d hd => ?_
  simp only [List.mem_cons, List.not_mem_nil, or_false] at hd
  rcases hd with rfl | rfl
  · exact FieldSpec.wellFormed_blank
  · exact FieldSpec.wellFormed_blank

theorem Received.consistsOf (h : op.Received) :
    op.ConsistsOf Item.WellFormed Schema.WellFormed Json.NormalMap := by
  cases op with
  | create docs ctx =>
    intro d hd
    obtain ⟨j, hj⟩ := h d hd
    exact Vocabulary.wellFormed_of_ofJson? hj
  | replace id doc ctx =>
    obtain ⟨j, hj⟩ := h
    exact Vocabulary.wellFormed_of_ofJson? hj
  | update id u ctx =>
    obtain ⟨j, hj⟩ := h
    exact VocabularyUpdate.wellFormed_of_ofJson? hj
  | delete | addMissingKeywords | onArticlePublished => trivial

/-- What a received operation brings is well-formed. -/
theorem Received.wellFormed (h : op.Received) (hop : op.Brings c v) : v.WellFormed :=
  h.consistsOf.of_brings Item.wellFormed_named
    (fun id => (wellFormed_keywordsVocabulary id []).schema) hop

/-- What a received operation applies to a well-formed document is well-formed. -/
theorem Received.wellFormed_update (h : op.Received) (hop : op.Applies c id v u)
    (hv : v.WellFormed) : u.WellFormed :=
  h.consistsOf.of_applies Item.wellFormed_named hop hv

end Parts

end Operation

theorem Item.legible_named (k : String) : (named k).Legible := rfl

theorem Schema.legible_keywords (id : String) : (keywordsVocabulary id []).schema.Legible := rfl

/-- The text layer reads back vocabularies of keywords. -/
def TextLayer.KeepsKeywords (t : TextLayer) : Prop :=
  ∀ (id : String) (names : List String) (created updated : Int64),
    t.Keeps ((keywordsVocabulary id names).marked false created updated)

theorem TextLayer.keepsKeywords_json : json.KeepsKeywords := fun id names created updated =>
  keeps_json_iff.2 ((Operation.consistsOf_keywordsVocabulary Item.legible_named
    (Schema.legible_keywords id) names).marked false created updated)

namespace Engine

/-! ### What an operation stores -/

/-- The operation stores the document: a new one, one that takes the place of another, or one that
is updated. -/
inductive Stores (e : Engine) (now : Int64) (op : Operation) (s : Store) : Vocabulary → Prop
  /-- The key is free. -/
  | created {v : Vocabulary} (hok : e.HasWritten op (e.perform now op s).result v.id)
      (hop : op.Brings e.config v) (hrow : s.get? v.id = none) :
      Stores e now op s
        (v.withUniqueDefault.marked false (v.created.getD now) (v.updated.getD now))
  /-- There is a row under the key. -/
  | replaced {v : Vocabulary} {r : Row} (hok : e.HasWritten op (e.perform now op s).result v.id)
      (hop : op.Brings e.config v) (hrow : s.get? v.id = some r) :
      Stores e now op s (v.withUniqueDefault.marked false r.created now)
  /-- The update is applied to the document under its key. -/
  | updated {v : Vocabulary} {u : VocabularyUpdate} {r : Row}
      (hok : e.HasWritten op (e.perform now op s).result v.id)
      (hop : op.Applies e.config v.id v u) (hv : Store.Active e.text s v.id r v) :
      Stores e now op s ((v.updatedBy u).marked false r.created now)

/-- The text layer reads back the documents that the operation stores. -/
def KeepsStep (e : Engine) (now : Int64) (op : Operation) (s : Store) : Prop :=
  ∀ w, e.Stores now op s w → e.text.Keeps w

/-- The text layer reads back the documents that the run stores. -/
def KeepsRun (e : Engine) : List (Int64 × Operation) → Store → Prop
  | [], _ => True
  | (now, op) :: rest, s => e.KeepsStep now op s ∧ KeepsRun e rest (e.perform now op s).store

/-- Every operation of the run is received. -/
def Received (ops : List (Int64 × Operation)) : Prop := ∀ step ∈ ops, step.2.Received

variable {e : Engine} {now : Int64} {op : Operation} {s : Store} {id : String}
  {ops more : List (Int64 × Operation)} {P Q : Vocabulary → Prop}

theorem keepsRun_append : e.KeepsRun (ops ++ more) s ↔
    e.KeepsRun ops s ∧ e.KeepsRun more (e.run ops s) := by
  induction ops generalizing s with
  | nil => simp [KeepsRun]
  | cons step rest ih =>
    obtain ⟨now, op⟩ := step
    simp [KeepsRun, ih, and_assoc]

theorem keepsRun_concat : e.KeepsRun (ops ++ [(now, op)]) s ↔
    e.KeepsRun ops s ∧ e.KeepsStep now op (e.run ops s) := by
  simp [keepsRun_append, KeepsRun]

/-- What holds of a store and is kept by every operation whose documents are read back holds after
every run whose documents are. -/
theorem KeepsRun.invariant {I : Store → Prop} (hkeeps : e.KeepsRun ops s) (h : I s)
    (keep : ∀ step ∈ ops, ∀ s, e.KeepsStep step.1 step.2 s → I s →
      I (e.perform step.1 step.2 s).store) : I (e.run ops s) := by
  induction ops generalizing s with
  | nil => exact h
  | cons step rest ih =>
    obtain ⟨hstep, hrest⟩ := hkeeps
    obtain ⟨hfirst, hothers⟩ := List.forall_mem_cons.1 keep
    exact ih hrest (hfirst s hstep h) hothers

/-! ### Properties of stored documents -/

/-- A received operation leads from rows with `P` to rows with `Q`, if each kind of write that the
operation may make does. -/
theorem KeepsStep.holds (hkeeps : e.KeepsStep now op s) (hop : op.Received) (hQ : MarkFree Q)
    (hs : ∀ r ∈ s.get? id, r.Holds e.text P id)
    (hkept : ¬ e.HasWritten op (e.perform now op s).result id ∨ op = .delete id → ∀ v, P v → Q v)
    (hbrought : ∀ v, op.Brings e.config v → e.Admits s v.withUniqueDefault → Q v.withUniqueDefault)
    (hupdated : ∀ v u, e.HasWritten op (e.perform now op s).result id →
      op.Applies e.config id v u → e.Accepts s v u → P v → Q (v.updatedBy u)) :
    ∀ r ∈ (e.perform now op s).store.get? id, r.Holds e.text Q id := by
  have hstep := e.perform_rowStep now op s id
  generalize hrow : s.get? id = before at hstep hs
  generalize (e.perform now op s).store.get? id = after at hstep
  cases hstep with
  | kept _ hnot =>
    intro r hr
    obtain ⟨v, hmirrors, hP⟩ := hs r hr
    exact ⟨v, hmirrors, hkept (.inl hnot) v hP⟩
  | @created v hok hbrings hid hadmits =>
    rintro _ ⟨⟩
    subst hid
    rw [← v.id_withUniqueDefault]
    exact Row.holds_written hQ (hkeeps _ (.created hok hbrings hrow))
      (hop.wellFormed hbrings).withUniqueDefault (hbrought v hbrings hadmits)
  | @replaced v r hok hbrings hid hactive hadmits =>
    rintro _ ⟨⟩
    subst hid
    rw [← v.id_withUniqueDefault]
    exact Row.holds_written hQ (hkeeps _ (.replaced hok hbrings hrow))
      (hop.wellFormed hbrings).withUniqueDefault (hbrought v hbrings hadmits)
  | @updated v u r hok happlies hactive hread haccepts =>
    rintro _ ⟨⟩
    obtain ⟨w, hmirrors, hP⟩ := hs r rfl
    obtain rfl := hmirrors.unique hread
    obtain rfl := Row.id_of_vocabulary hread
    have hkept := hkeeps _ (.updated hok happlies ⟨hrow, hactive, hread⟩)
    rw [← Vocabulary.id_updatedBy w u]
    exact Row.holds_written hQ hkept
      (hmirrors.wellFormed.updatedBy (hop.wellFormed_update happlies hmirrors.wellFormed))
      (hupdated w u hok happlies haccepts hP)
  | @deleted v r hok hdelete hactive hread _ =>
    rintro _ ⟨⟩
    obtain ⟨w, hmirrors, hP⟩ := hs r rfl
    exact ⟨_, hmirrors.deletedAt now, hQ w true r.created now (hkept (.inr hdelete) w hP)⟩

/-- A property that every document that passes has, and every update that passes keeps, holds of
every row after every received run. -/
theorem run_holds (hP : MarkFree P) (hops : Received ops) (hkeeps : e.KeepsRun ops ∅)
    (hbrought : ∀ s v, e.Admits s v → P v)
    (hupdated : ∀ s v u, e.Accepts s v u → P v → P (v.updatedBy u)) :
    (e.run ops ∅).Holds e.text P := by
  refine hkeeps.invariant Store.holds_empty fun step hstep s hkept hs id => ?_
  exact hkept.holds (hops step hstep) hP (hs id) (fun _ v hv => hv)
    (fun v _ => hbrought s v.withUniqueDefault) fun v u _ _ => hupdated s v u

/-- After every received run every row mirrors a document. -/
theorem run_mirrored (hops : Received ops) (hkeeps : e.KeepsRun ops ∅) :
    (e.run ops ∅).Holds e.text fun _ => True :=
  run_holds markFree_true hops hkeeps (fun _ _ _ => trivial) fun _ _ _ _ _ => trivial

/-! ### Runs that compact JSON reads back -/

/-- What a legible operation stores over legible documents is legible. -/
theorem Stores.legible {w : Vocabulary} (h : e.Stores now op s w) (hop : op.Legible)
    (hs : s.Holds e.text Vocabulary.Legible) : w.Legible := by
  have hbrought : ∀ v, op.Brings e.config v → v.withUniqueDefault.Legible := fun v hv =>
    (hop.of_brings Item.legible_named Schema.legible_keywords hv).withUniqueDefault
  cases h with
  | created _ hbrings => exact (hbrought _ hbrings).marked false _ _
  | replaced _ hbrings => exact (hbrought _ hbrings).marked false _ _
  | updated _ happlies hv =>
    obtain ⟨w, hmirrors, hw⟩ := hs _ _ hv.row
    obtain rfl := hmirrors.unique hv.read
    exact (hw.updatedBy (hop.of_applies Item.legible_named happlies hw)).marked false _ _

/-- **Compact JSON** reads back all that a run of received operations stores, if what they bring is
legible. -/
theorem keepsRun_json {c : Config} (hops : Received ops) (hlegible : ∀ step ∈ ops, step.2.Legible)
    (hs : s.Holds .json Vocabulary.Legible) : (ofConfig c).KeepsRun ops s := by
  induction ops generalizing s with
  | nil => trivial
  | cons step rest ih =>
    obtain ⟨now, op⟩ := step
    obtain ⟨hop, hrest⟩ := List.forall_mem_cons.1 hops
    obtain ⟨hop', hrest'⟩ := List.forall_mem_cons.1 hlegible
    have hkeeps : (ofConfig c).KeepsStep now op s := fun w hw =>
      TextLayer.keeps_json_iff.2 (hw.legible hop' hs)
    refine ⟨hkeeps, ih hrest hrest' fun id => ?_⟩
    refine hkeeps.holds hop markFree_legible (hs id) (fun _ v hv => hv) ?_ ?_
    · intro v hv _
      exact (hop'.of_brings Item.legible_named Schema.legible_keywords hv).withUniqueDefault
    · intro v u _ happlies _ hv
      exact hv.updatedBy (hop'.of_applies Item.legible_named happlies hv)

/-! ### Documents that are created and updated -/

/-- The run that creates one vocabulary. -/
def creationOf (v : Vocabulary) : List (Int64 × Operation) := [(1, .create [v] .blank)]

section

variable {c : Config} {v : Vocabulary} {u : VocabularyUpdate}

theorem received_creationOf (hv : v.WellFormed) : Received (creationOf v) :=
  List.forall_mem_singleton.2
    (List.forall_mem_singleton.2 ⟨v.toJson, Vocabulary.ofJson?_toJson hv⟩)

theorem legible_creationOf (h : v.Legible) : ∀ step ∈ creationOf v, step.2.Legible :=
  List.forall_mem_singleton.2 (List.forall_mem_singleton.2 h)

theorem keepsRun_creationOf (hv : v.WellFormed) (h : v.Legible) :
    (ofConfig c).KeepsRun (creationOf v) ∅ :=
  keepsRun_json (received_creationOf hv) (legible_creationOf h) Store.holds_empty

/-- What is stored when a vocabulary is created and an operation follows is read back. -/
theorem keepsRun_creationOf_concat (hv : v.WellFormed) (h : v.Legible) (hop : op.Received)
    (hop' : op.Legible) : (ofConfig c).KeepsRun (creationOf v ++ [(now, op)]) ∅ :=
  keepsRun_json
    (List.forall_mem_append.2 ⟨received_creationOf hv, List.forall_mem_singleton.2 hop⟩)
    (List.forall_mem_append.2 ⟨legible_creationOf h, List.forall_mem_singleton.2 hop'⟩)
    Store.holds_empty

/-- A single document that passes on the empty store is a batch that does. -/
theorem admitsBatch_singleton (h : e.Admits ∅ v.withUniqueDefault) : e.AdmitsBatch ∅ [v] where
  distinct := List.pairwise_singleton _ _
  free := List.forall_mem_singleton.2 rfl
  admitted := List.forall_mem_singleton.2 h

theorem run_creationOf (h : e.Admits ∅ v.withUniqueDefault) :
    e.run (creationOf v) ∅ = Store.withRows e.text 1 ∅ [v.withUniqueDefault] :=
  (create_of_admits 1 .blank (admitsBatch_singleton h)).store

/-- A document that passes is there after its creation. -/
theorem active_creationOf (hv : v.WellFormed) (hlegible : v.Legible)
    (h : (ofConfig c).Admits ∅ v.withUniqueDefault) :
    Store.Active .json ((ofConfig c).run (creationOf v) ∅) v.id
      (Row.written .json v.withUniqueDefault (v.created.getD 1) (v.updated.getD 1))
      (v.withUniqueDefault.marked false (v.created.getD 1) (v.updated.getD 1)) := by
  have hkept : TextLayer.json.Keeps
      (v.withUniqueDefault.marked false (v.created.getD 1) (v.updated.getD 1)) :=
    TextLayer.keeps_json_iff.2 (hlegible.withUniqueDefault.marked false _ _)
  have hread := Row.vocabulary_written hkept hv.withUniqueDefault
  rw [v.id_withUniqueDefault] at hread
  rw [run_creationOf h]
  exact ⟨(admitsBatch_singleton h).get?_row (List.mem_singleton_self v), rfl, hread⟩

/-- What an update that passes makes of a document is there after it. -/
theorem active_update (now : Int64) (ctx : Context) {r : Row} (hv : Store.Active .json s id r v)
    (haccepts : (ofConfig c).Accepts s v u) (hshape : (v.updatedBy u).validateShape = .ok ())
    (hwf : (v.updatedBy u).WellFormed) (hlegible : (v.updatedBy u).Legible) :
    Store.Active .json ((ofConfig c).perform now (.update id u ctx) s).store id
      (Row.written .json (v.updatedBy u) r.created now)
      ((v.updatedBy u).marked false r.created now) := by
  have hmade := (update_of_accepts now ctx hv haccepts hshape).map Answer.document
  have hkept : TextLayer.json.Keeps ((v.updatedBy u).marked false r.created now) :=
    TextLayer.keeps_json_iff.2 (hlegible.marked false _ _)
  have hread := Row.vocabulary_written hkept hwf
  rw [Vocabulary.id_updatedBy, hv.id_eq] at hread
  rw [perform, hmade.store]
  exact ⟨TextMap.get?_insert_self _ _ _, rfl, hread⟩

end

/-! ### A small run -/

/-- Three places, of which one is not active and has no code. Names are required. -/
def places : Vocabulary :=
  { Vocabulary.new "places" "Places" .manageable with
    items := [{ Item.blank with name := some "Rome", qcode := some "1" },
      { Item.blank with name := some "Kyiv", qcode := some "3" },
      { Item.blank with name := some "Troy", isActive := some false }]
    schema := Schema.ofList [("name", .ofRequired)] }

/-- The update that makes names the unique field. -/
def uniqueNames : VocabularyUpdate := { VocabularyUpdate.blank with uniqueField := some "name" }

/-- The run that creates the places. -/
def placesCreated : List (Int64 × Operation) := creationOf places

/-- The run that creates the places and then makes their names unique. -/
def placesRun : List (Int64 × Operation) :=
  placesCreated ++ [(2, .update "places" uniqueNames .blank)]

theorem received_places : Vocabulary.ofJson? places.toJson = some places := by decide +kernel

theorem wellFormed_places : places.WellFormed := Vocabulary.wellFormed_of_ofJson? received_places

theorem legible_places : places.Legible := Vocabulary.legible_toJson_iff.1 (by decide +kernel)

theorem admits_places : (ofConfig .default).Admits ∅ places.withUniqueDefault :=
  ⟨by decide +kernel, by decide +kernel, by decide +kernel⟩

theorem received_placesCreated : Received placesCreated := received_creationOf wellFormed_places

/-- The places are there after they were created. -/
theorem active_places : Store.Active .json ((ofConfig .default).run placesCreated ∅) "places"
    (Row.written .json places 1 1) (places.marked false 1 1) :=
  active_creationOf wellFormed_places legible_places admits_places

theorem received_uniqueNames : ∃ j, VocabularyUpdate.ofJson? j = some uniqueNames :=
  ⟨.object [("unique_field", .string "name")], by decide +kernel⟩

theorem received_placesRun : Received placesRun :=
  List.forall_mem_append.2 ⟨received_placesCreated,
    List.forall_mem_singleton.2 received_uniqueNames⟩

theorem keepsRun_placesRun : (ofConfig .default).KeepsRun placesRun ∅ :=
  keepsRun_creationOf_concat wellFormed_places legible_places received_uniqueNames
    ⟨nofun, nofun, nofun, nofun⟩

theorem accepts_uniqueNames : (ofConfig .default).Accepts ((ofConfig .default).run placesCreated ∅)
    (places.marked false 1 1) uniqueNames :=
  ⟨nofun, by decide +kernel, by decide +kernel⟩

/-- The places as they are when their names were made unique. -/
def namedPlaces : Vocabulary := ((places.marked false 1 1).updatedBy uniqueNames).marked false 1 2

/-- They are there after the run. -/
theorem active_namedPlaces : Store.Active .json ((ofConfig .default).run placesRun ∅) "places"
    (Row.written .json ((places.marked false 1 1).updatedBy uniqueNames) 1 2) namedPlaces := by
  obtain ⟨j, hj⟩ := received_uniqueNames
  have hwf : ((places.marked false 1 1).updatedBy uniqueNames).WellFormed :=
    (wellFormed_places.marked false 1 1).updatedBy (VocabularyUpdate.wellFormed_of_ofJson? hj)
  have hlegible : ((places.marked false 1 1).updatedBy uniqueNames).Legible :=
    (legible_places.marked false 1 1).updatedBy ⟨nofun, nofun, nofun, nofun⟩
  have hactive := active_update 2 .blank active_places accepts_uniqueNames (by decide) hwf hlegible
  rw [placesRun, run_append, run_cons, run_nil]
  exact hactive

end Engine

end Newsroom
