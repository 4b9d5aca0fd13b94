import Mathlib.Data.List.Induction
import Newsroom.Proofs.Service.Presence

/-!
# Codes that are to be unique

A vocabulary that declares codes and names no unique field gets codes as its unique field when it
is created or replaced, and when an update brings items. An update without items goes past this
default. So there is one way to a stored vocabulary that declares codes and has no unique field:
such an update declares them on a document without unique field (`Engine.DeclaresCodes`), and
whatever writes the row after it is an update without items and unique field that leaves codes
declared, or its deletion. `Engine.CodesSlipped` says this of a run, and
`Engine.run_defaults_unique` that there is no other way and that this one always leads there.
Of the text layer it asks only that it keeps unique fields and the names of declared fields.
-/

namespace Newsroom

namespace Vocabulary

/-- The vocabulary declares codes and has no unique field. -/
def LacksUnique (v : Vocabulary) : Prop :=
  v.schema.declares "qcode" = true ∧ v.uniqueField = none

variable {v : Vocabulary} {u : VocabularyUpdate}

theorem not_lacksUnique_iff :
    ¬ v.LacksUnique ↔ (v.schema.declares "qcode" = true → v.uniqueField.isSome = true) := by
  rw [LacksUnique, not_and, ← Option.ne_none_iff_isSome]

/-- No vocabulary lacks a unique field after the default. -/
theorem not_lacksUnique_withUniqueDefault (v : Vocabulary) :
    ¬ v.withUniqueDefault.LacksUnique := by
  rintro ⟨hcodes, hnone⟩
  rw [schema_withUniqueDefault] at hcodes
  rw [withUniqueDefault, hcodes] at hnone
  cases hfield : v.uniqueField with
  | none =>
    rw [hfield] at hnone
    cases hnone
  | some f =>
    rw [hfield] at hnone
    simp [hfield] at hnone

theorem lacksUnique_applyUpdate : (v.applyUpdate u).LacksUnique ↔
    (u.schema.getD v.schema).declares "qcode" = true ∧ u.uniqueField = none ∧
      v.uniqueField = none := by
  rw [LacksUnique, applyUpdate, Option.or_eq_none_iff]

end Vocabulary

/-- The update brings neither items nor a unique field, and no schema without codes. -/
structure VocabularyUpdate.KeepsCodes (u : VocabularyUpdate) : Prop where
  items : u.items = none
  uniqueField : u.uniqueField = none
  schema : ∀ s, u.schema = some s → s.declares "qcode" = true

/-- An update that keeps codes declared leaves a document that declares them without a unique
field, if the document has none and it or the update declares codes. -/
theorem VocabularyUpdate.KeepsCodes.lacksUnique {u : VocabularyUpdate} {v : Vocabulary}
    (hu : u.KeepsCodes) (hnone : v.uniqueField = none)
    (hcodes : u.schema.isSome = true ∨ v.schema.declares "qcode" = true) :
    (v.updatedBy u).LacksUnique := by
  rw [Vocabulary.updatedBy_of_no_items v hu.items, Vocabulary.lacksUnique_applyUpdate]
  refine ⟨?_, hu.uniqueField, hnone⟩
  cases hschema : u.schema with
  | some s => exact hu.schema s hschema
  | none =>
    rw [hschema] at hcodes
    exact hcodes.resolve_left Bool.false_ne_true

/-- The operation deletes the vocabulary under `id`, or updates it and keeps codes. -/
inductive Operation.KeepsCodes (id : String) : Operation → Prop
  | update {u : VocabularyUpdate} {ctx : Context} (hu : u.KeepsCodes) :
      KeepsCodes id (.update id u ctx)
  | delete : KeepsCodes id (.delete id)

theorem Operation.KeepsCodes.update_keepsCodes {op : Operation} {c : Config} {id : String}
    {v : Vocabulary} {u : VocabularyUpdate} (h : op.KeepsCodes id)
    (happlies : op.Applies c id v u) : u.KeepsCodes := by
  cases h with
  | update hu => exact happlies.2 ▸ hu
  | delete => cases happlies

/-- All documents that the text of the row reads as have the property. -/
def Row.Says (t : TextLayer) (P : Vocabulary → Prop) (r : Row) : Prop :=
  ∀ w, (t.read r.document).bind Vocabulary.ofJson? = some w → P w

/-- The marks of a row have no part in whether its vocabulary lacks a unique field. -/
theorem Row.Says.lacksUnique_iff {t : TextLayer} {r : Row} {p : Prop} {id : String}
    {v : Vocabulary} (h : r.Says t fun w => w.LacksUnique ↔ p)
    (hread : r.vocabulary t id = .ok v) : v.LacksUnique ↔ p := by
  obtain ⟨w, hw, -, ⟨-, rfl⟩ | ⟨-, rfl⟩⟩ := Row.vocabulary_eq_ok_iff.1 hread
  · exact h w hw
  · exact h w hw

namespace Engine

/-- The operation, which comes to `result`, is an update that declares codes in the vocabulary
under `id`, which has no unique field and gets none. -/
structure DeclaresCodes (e : Engine) (op : Operation) (s : Store) (id : String)
    (result : Except ServiceError Answer) : Prop where
  /-- The operation has written the row. -/
  written : e.HasWritten op result id
  /-- It is an update that keeps codes and sets the schema. -/
  update : ∃ u ctx, op = .update id u ctx ∧ u.KeepsCodes ∧ u.schema.isSome = true
  /-- The stored document has no unique field. -/
  stored : ∃ r v, Store.Active e.text s id r v ∧ v.uniqueField = none

/-- In the run from the empty store an update has declared codes in the vocabulary under `id`,
which had no unique field, and later operations on its row have kept codes. -/
inductive CodesSlipped (e : Engine) (id : String) : List (Int64 × Operation) → Prop
  /-- The last operation declares codes. -/
  | declared {ops : List (Int64 × Operation)} {now : Int64} {op : Operation}
      (h : e.DeclaresCodes op (e.run ops ∅) id (e.perform now op (e.run ops ∅)).result) :
      CodesSlipped e id (ops ++ [(now, op)])
  /-- Codes were declared before, and the last operation keeps them if it writes the row. -/
  | later {ops : List (Int64 × Operation)} {now : Int64} {op : Operation} (h : CodesSlipped e id ops)
      (hkeeps : e.HasWritten op (e.perform now op (e.run ops ∅)).result id → op.KeepsCodes id) :
      CodesSlipped e id (ops ++ [(now, op)])

variable {e : Engine} {now : Int64} {op : Operation} {s : Store} {id : String} {v : Vocabulary}
  {result : Except ServiceError Answer} {ops : List (Int64 × Operation)}

/-- How codes have slipped in after one more operation. -/
theorem codesSlipped_concat : e.CodesSlipped id (ops ++ [(now, op)]) ↔
    e.DeclaresCodes op (e.run ops ∅) id (e.perform now op (e.run ops ∅)).result ∨
      e.CodesSlipped id ops ∧
        (e.HasWritten op (e.perform now op (e.run ops ∅)).result id → op.KeepsCodes id) := by
  constructor
  · intro h
    generalize hrun : ops ++ [(now, op)] = run at h
    cases h with
    | declared h =>
      obtain ⟨rfl, heq⟩ := List.append_inj' hrun rfl
      cases heq
      exact .inl h
    | later h hkeeps =>
      obtain ⟨rfl, heq⟩ := List.append_inj' hrun rfl
      cases heq
      exact .inr ⟨h, hkeeps⟩
  · rintro (h | ⟨h, hkeeps⟩)
    · exact .declared h
    · exact .later h hkeeps

/-- An operation that brings a whole document neither declares codes by an update nor keeps
them. -/
theorem not_slipped_of_brings (hop : op.Brings e.config v) (hok : e.HasWritten op result id)
    (slipped : Prop) : ¬ (e.DeclaresCodes op s id result ∨
      slipped ∧ (e.HasWritten op result id → op.KeepsCodes id)) := by
  rintro (⟨-, ⟨u, ctx, rfl, -⟩, -⟩ | ⟨-, hkeeps⟩)
  · cases hop
  · rcases hkeeps hok with ⟨-⟩ | -
    · cases hop
    · cases hop

/-- What is written says what the document says. -/
theorem says_written (ht : e.text.KeepsUniqueFields) {p : Prop} (h : v.LacksUnique ↔ p)
    (created updated : Int64) :
    (Row.written e.text v created updated).Says e.text fun w => w.LacksUnique ↔ p := by
  intro w hw
  obtain ⟨hfield, hdeclares⟩ := ht (v.marked false created updated) w hw
  rw [Vocabulary.LacksUnique, hfield, hdeclares]
  exact h

/-- An update leads to a document that declares codes and lacks a unique field exactly when it
declares them in a document without unique field, or keeps them in one that lacks it already. -/
theorem lacksUnique_updatedBy {u : VocabularyUpdate} {r : Row}
    (hok : e.HasWritten op result id) (happlies : op.Applies e.config id v u)
    (hv : Store.Active e.text s id r v) : (v.updatedBy u).LacksUnique ↔
      e.DeclaresCodes op s id result ∨
        v.LacksUnique ∧ (e.HasWritten op result id → op.KeepsCodes id) := by
  constructor
  · intro hlacks
    cases hitems : u.items with
    | some items =>
      rw [Vocabulary.updatedBy_of_items v (by rw [hitems]; rfl)] at hlacks
      exact absurd hlacks (Vocabulary.not_lacksUnique_withUniqueDefault _)
    | none =>
      obtain ⟨ctx, rfl⟩ : ∃ ctx, op = .update id u ctx :=
        happlies.items_or_update.resolve_left (by simp [hitems])
      rw [Vocabulary.updatedBy_of_no_items v hitems, Vocabulary.lacksUnique_applyUpdate] at hlacks
      obtain ⟨hcodes, hfield, hnone⟩ := hlacks
      have hu : u.KeepsCodes := ⟨hitems, hfield, fun s hs => by rwa [hs] at hcodes⟩
      -- With a schema of its own the update declares codes, without one it keeps those declared.
      cases hschema : u.schema with
      | some s => exact .inl ⟨hok, ⟨u, ctx, rfl, hu, by rw [hschema]; rfl⟩, r, v, hv, hnone⟩
      | none =>
        rw [hschema] at hcodes
        exact .inr ⟨⟨hcodes, hnone⟩, fun _ => .update hu⟩
  · rintro (⟨-, ⟨u, ctx, rfl, hu, hschema⟩, r, w, hw, hnone⟩ | ⟨⟨hcodes, hnone⟩, hkeeps⟩)
    · obtain ⟨-, rfl⟩ := hv.unique hw
      obtain ⟨-, rfl⟩ := happlies
      exact hu.lacksUnique hnone (.inl hschema)
    · exact ((hkeeps hok).update_keepsCodes happlies).lacksUnique hnone (.inr hcodes)

/-- One operation makes a document lack its unique field exactly when it declares codes, or keeps
them in a document that lacks it already. -/
theorem RowStep.lacksUnique (ht : e.text.KeepsUniqueFields) {before after : Option Row}
    (h : e.RowStep now op s id result before after) (hs : s.get? id = before) {slipped : Prop}
    (hbefore : ∀ r ∈ before, r.Says e.text fun w => w.LacksUnique ↔ slipped) :
    ∀ r ∈ after, r.Says e.text fun w => w.LacksUnique ↔
      e.DeclaresCodes op s id result ∨
        slipped ∧ (e.HasWritten op result id → op.KeepsCodes id) := by
  cases h with
  | kept _ hnot =>
    intro r hr w hw
    have hlacks : w.LacksUnique ↔ slipped := hbefore r hr w hw
    rw [hlacks]
    exact ⟨fun hslipped => .inr ⟨hslipped, fun hok => absurd hok hnot⟩,
      fun h => h.elim (fun hdeclares => absurd hdeclares.written hnot) And.left⟩
  | created hok hbrings =>
    rintro _ ⟨⟩
    exact says_written ht (iff_of_false (Vocabulary.not_lacksUnique_withUniqueDefault _)
      (not_slipped_of_brings hbrings hok _)) _ _
  | replaced hok hbrings =>
    rintro _ ⟨⟩
    exact says_written ht (iff_of_false (Vocabulary.not_lacksUnique_withUniqueDefault _)
      (not_slipped_of_brings hbrings hok _)) _ _
  | @updated v u r hok happlies hactive hread =>
    rintro _ ⟨⟩
    rw [← (hbefore r rfl).lacksUnique_iff hread]
    exact says_written ht (lacksUnique_updatedBy hok happlies ⟨hs, hactive, hread⟩) _ _
  | @deleted v r _ hdelete =>
    rintro _ ⟨⟩ w hw
    have hlacks : w.LacksUnique ↔ slipped := hbefore r rfl w hw
    rw [hlacks, hdelete]
    refine ⟨fun hslipped => .inr ⟨hslipped, fun _ => .delete⟩, ?_⟩
    rintro (⟨-, ⟨u, ctx, heq, -⟩, -⟩ | ⟨hslipped, -⟩)
    · cases heq
    · exact hslipped

/-- After every run every row says that its vocabulary lacks a unique field exactly when codes
have slipped in. -/
theorem run_lacksUnique (ht : e.text.KeepsUniqueFields) (ops : List (Int64 × Operation))
    (id : String) : ∀ r ∈ (e.run ops ∅).get? id,
      r.Says e.text fun w => w.LacksUnique ↔ e.CodesSlipped id ops := by
  -- The run grows at its end, as the ways in which codes slip in do.
  induction ops using List.reverseRecOn with
  | nil =>
    intro r hr
    cases hr
  | append_singleton ops step ih =>
    obtain ⟨now, op⟩ := step
    rw [run_append]
    simp only [codesSlipped_concat]
    exact (e.perform_rowStep now op (e.run ops ∅) id).lacksUnique ht rfl ih

/-- **Codes that are to be unique**: over every run from the empty store, a stored vocabulary that
declares codes has a unique field, unless codes have slipped in; and where they have, it declares
codes and has none. -/
theorem run_defaults_unique (e : Engine) (ht : e.text.KeepsUniqueFields)
    (ops : List (Int64 × Operation)) (id : String) (r : Row) (v : Vocabulary)
    (hrow : (e.run ops ∅).get? id = some r) (hread : r.vocabulary e.text id = .ok v) :
    (v.schema.declares "qcode" = true → v.uniqueField.isSome = true) ↔
      ¬ e.CodesSlipped id ops := by
  rw [← Vocabulary.not_lacksUnique_iff, not_iff_not]
  exact (run_lacksUnique ht ops id r hrow).lacksUnique_iff hread

/-- A town with a code, where codes are declared. -/
def towns : Vocabulary :=
  { Vocabulary.new "towns" "Towns" .manageable with
    items := [{ Item.blank with name := some "Rome", qcode := some "1" }]
    schema := Schema.ofList [("qcode", .blank)] }

theorem received_towns : Vocabulary.ofJson? towns.toJson = some towns := by decide +kernel

theorem admits_towns : (ofConfig .default).Admits ∅ towns.withUniqueDefault :=
  ⟨by decide +kernel, by decide +kernel, by decide +kernel⟩

/-- The stored towns have a unique field. -/
theorem towns_default_unique :
    ∃ r v, ((ofConfig .default).run [(1, .create [towns] .blank)] ∅).get? "towns" = some r ∧
      r.vocabulary .json "towns" = .ok v ∧ v.schema.declares "qcode" = true ∧
      v.uniqueField.isSome = true := by
  have hlegible : towns.Legible := Vocabulary.legible_toJson_iff.1 (by decide +kernel)
  have hactive := active_creationOf (Vocabulary.wellFormed_of_ofJson? received_towns) hlegible
    admits_towns
  have hmade := (create_of_admits 1 .blank (admitsBatch_singleton admits_towns)).map Answer.keys
  have hwritten : (ofConfig .default).HasWritten (.create [towns] .blank)
      ((ofConfig .default).perform 1 (.create [towns] .blank) ∅).result "towns" :=
    ⟨_, hmade.result, towns, List.mem_singleton_self _, rfl⟩
  have hbrings : (Operation.create [towns] .blank).Brings (ofConfig .default).config towns :=
    List.mem_singleton_self towns
  have hslipped : ¬ (ofConfig .default).CodesSlipped "towns"
      ([] ++ [(1, .create [towns] .blank)]) := by
    rw [codesSlipped_concat]
    exact not_slipped_of_brings hbrings hwritten _
  have hdefault := run_defaults_unique (ofConfig .default)
    TextLayer.keepsUniqueFields_json _ "towns" _ _ hactive.row hactive.read
  exact ⟨_, _, hactive.row, hactive.read, by decide, hdefault.2 hslipped (by decide)⟩

/-- The update that declares codes. -/
def codesDeclared : VocabularyUpdate :=
  { VocabularyUpdate.blank with schema := some (Schema.ofList [("qcode", .blank)]) }

/-- A vocabulary without items and declarations. -/
def roads : Vocabulary := Vocabulary.new "roads" "Roads" .manageable

/-- The run that creates the roads and then declares their codes. -/
def slipRun : List (Int64 × Operation) :=
  creationOf roads ++ [(2, .update "roads" codesDeclared .blank)]

theorem wellFormed_roads : roads.WellFormed :=
  Vocabulary.wellFormed_of_ofJson? (j := roads.toJson) (by decide +kernel)

theorem received_codesDeclared : ∃ j, VocabularyUpdate.ofJson? j = some codesDeclared :=
  ⟨.object [("schema", .object [("qcode", .object [])])], by decide +kernel⟩

theorem received_slipRun : Received slipRun :=
  List.forall_mem_append.2 ⟨received_creationOf wellFormed_roads,
    List.forall_mem_singleton.2 received_codesDeclared⟩

/-- After the run the roads declare codes and have no unique field. -/
theorem active_slippedRoads : ∃ r, Store.Active .json ((ofConfig .default).run slipRun ∅) "roads" r
    ((roads.updatedBy codesDeclared).marked false 1 2) := by
  obtain ⟨j, hj⟩ := received_codesDeclared
  have hlegible : roads.Legible := Vocabulary.legible_toJson_iff.1 (by decide +kernel)
  have hlegible' : codesDeclared.Legible := by
    refine ⟨nofun, fun s hs => ?_, nofun, nofun⟩
    cases hs
    rfl
  have hcreated := active_creationOf (c := .default) wellFormed_roads hlegible
    ⟨by decide +kernel, by decide +kernel, by decide +kernel⟩
  have haccepts : (ofConfig .default).Accepts ((ofConfig .default).run (creationOf roads) ∅)
      (roads.withUniqueDefault.marked false 1 1) codesDeclared :=
    ⟨nofun, by decide +kernel, by decide +kernel⟩
  have hactive := active_update 2 .blank hcreated haccepts (by decide)
    ((wellFormed_roads.marked false 1 1).updatedBy (VocabularyUpdate.wellFormed_of_ofJson? hj))
    ((hlegible.marked false 1 1).updatedBy hlegible')
  rw [slipRun, run_append, run_cons, run_nil]
  exact ⟨_, hactive⟩

/-- Codes that an update without items declares do not become the unique field. -/
theorem codes_not_always_unique :
    ¬ AlwaysStored fun v => v.schema.declares "qcode" = true → v.uniqueField.isSome = true := by
  obtain ⟨r, hactive⟩ := active_slippedRoads
  intro h
  have hsome := h (ofConfig .default) slipRun received_slipRun "roads" r _ hactive.row hactive.read
    (by decide)
  cases hsome

end Engine

end Newsroom
