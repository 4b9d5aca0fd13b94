import Newsroom.Proofs.Service.History
import Newsroom.Proofs.Service.Uniqueness

/-!
# Values that must be there, over whole runs

Items are validated only when they are written. An active item carries the unique field at all
times. Beyond that, items carry what their vocabulary required when they were written last, active
or not: every required field, and the unique field if the schema declares it. This stays so until
an update without items changes the schema (or names another unique field), which nothing checks
against the items that are there.
-/

namespace Newsroom

namespace Operation

/-- The operation writes items. -/
def CarriesItems : Operation → Prop
  | .create _ _ | .replace _ _ _ | .addMissingKeywords _ _ _ | .onArticlePublished _ _ _ => True
  | .update _ u _ => u.items.isSome = true
  | .delete _ => False

/-- The operation is an update without items of `id`, with something of the given kind. -/
def Redeclares (id : String) (kind : VocabularyUpdate → Prop) : Operation → Prop
  | .update target u _ => target = id ∧ u.items = none ∧ kind u
  | _ => False

/-- What an operation applies has items, unless it is an update that was asked for as such. -/
theorem Applies.items_or_update {op : Operation} {c : Config} {id : String} {v : Vocabulary}
    {u : VocabularyUpdate} (h : op.Applies c id v u) :
    u.items.isSome = true ∨ ∃ ctx, op = .update id u ctx := by
  cases op with
  | create docs ctx => cases h
  | replace target doc ctx => cases h
  | update target given ctx =>
    obtain ⟨rfl, rfl⟩ := h
    exact .inr ⟨ctx, rfl⟩
  | delete target => cases h
  | addMissingKeywords keywords language ctx =>
    rw [h.2]
    exact .inl rfl
  | onArticlePublished keywords language ctx =>
    rw [h.2]
    exact .inl rfl

end Operation

namespace VocabularyUpdate

/-- The update changes the schema. -/
def ChangesSchema (u : VocabularyUpdate) : Prop := u.schema.isSome = true

/-- The update changes the schema or the unique field. -/
def ChangesUnique (u : VocabularyUpdate) : Prop :=
  u.schema.isSome = true ∨ u.uniqueField.isSome = true

end VocabularyUpdate

namespace Engine

variable (e : Engine)

/-- The run ends with a write of the items of `id`, or there is no such row yet. -/
def ItemsFresh (ops : List (Int64 × Operation)) (id : String) : Prop :=
  (e.run ops ∅).get? id = none ∨
    ∃ earlier now op, ops = earlier ++ [(now, op)] ∧ op.CarriesItems ∧
      e.HasWritten op (e.perform now op (e.run earlier ∅)).result id

/-- In the run from the store, an update without items of `id` with something of the given kind
succeeds. -/
def Redeclared (id : String) (kind : VocabularyUpdate → Prop) :
    List (Int64 × Operation) → Store → Prop
  | [], _ => False
  | (now, op) :: rest, s =>
    (op.Redeclares id kind ∧ ∃ a, (e.perform now op s).result = .ok a) ∨
      Redeclared id kind rest (e.perform now op s).store

variable {e} {s : Store} {now : Int64} {op : Operation} {id : String} {P : Vocabulary → Prop}
  {kind : VocabularyUpdate → Prop}

/-- What a valid document says of its items, and an update without items keeps unless it is of the
given kind. -/
structure ItemRule (kind : VocabularyUpdate → Prop) (P : Vocabulary → Prop) : Prop where
  markFree : MarkFree P
  valid : ∀ (e : Engine) (s : Store) (v : Vocabulary), (e.validate s v).result = .ok () → P v
  kept : ∀ (v : Vocabulary) (u : VocabularyUpdate), u.items = none → ¬ kind u → P v →
    P (v.updatedBy u)

theorem itemRule_carriesRequired :
    ItemRule VocabularyUpdate.ChangesSchema Vocabulary.CarriesRequired where
  markFree := fun _ _ _ _ h => h
  valid := fun _ _ _ h => (validate_eq_ok_iff.1 h).2.carriesRequired
  kept := by
    intro v u hitems hkind h
    have hschema : u.schema = none := by
      simpa [VocabularyUpdate.ChangesSchema] using hkind
    rw [Vocabulary.CarriesRequired, Vocabulary.items_updatedBy, Vocabulary.schema_updatedBy,
      hitems, hschema]
    exact h

theorem itemRule_carriesUnique :
    ItemRule VocabularyUpdate.ChangesUnique Vocabulary.CarriesUnique where
  markFree := fun _ _ _ _ h => h
  valid := fun _ _ _ h => (validate_eq_ok_iff.1 h).2.carriesUnique
  kept := by
    intro v u hitems hkind h
    obtain ⟨hschema, hunique⟩ : u.schema = none ∧ u.uniqueField = none := by
      simpa [VocabularyUpdate.ChangesUnique] using hkind
    have hfield : (v.updatedBy u).uniqueField = v.uniqueField := by
      rw [Vocabulary.updatedBy, hitems]
      simp [Vocabulary.applyUpdate, hunique]
    rw [Vocabulary.CarriesUnique, hfield, Vocabulary.items_updatedBy,
      Vocabulary.schema_updatedBy, hitems, hschema]
    exact h

/-- An operation that writes items leaves a row with whatever the checks of these items say. -/
theorem holds_of_hasWritten (hkeeps : e.KeepsStep now op s) (hP : MarkFree P)
    (hvalid : ∀ v, (e.validate s v).result = .ok () → P v) (hop : op.Received)
    (hitems : op.CarriesItems) (hwritten : e.HasWritten op (e.perform now op s).result id)
    (hs : ∀ r ∈ s.get? id, r.Holds e.text (fun _ => True) id) :
    ∀ r ∈ (e.perform now op s).store.get? id, r.Holds e.text P id := by
  refine hkeeps.holds hop hP hs ?_ ?_ ?_
  · rintro (hnot | rfl)
    · exact absurd hwritten hnot
    · cases hitems
  · intro v _ hadmits
    exact hvalid _ hadmits.valid
  · intro v u _ happlies haccepts _
    refine hvalid _ (haccepts.valid ?_)
    rcases happlies.items_or_update with hsome | ⟨ctx, rfl⟩
    · exact hsome
    · exact hitems

/-- An operation that does not redeclare keeps rows that follow the rule. -/
theorem holds_of_not_redeclares (hkeeps : e.KeepsStep now op s) (hrule : ItemRule kind P)
    (hop : op.Received)
    (hnot : ¬ (op.Redeclares id kind ∧ ∃ a, (e.perform now op s).result = .ok a))
    (hs : ∀ r ∈ s.get? id, r.Holds e.text P id) :
    ∀ r ∈ (e.perform now op s).store.get? id, r.Holds e.text P id := by
  refine hkeeps.holds hop hrule.markFree hs (fun _ v hv => hv) ?_ ?_
  · intro v _ hadmits
    exact hrule.valid e s _ hadmits.valid
  · intro v u hwritten happlies haccepts hP
    cases hitems : u.items with
    | some items => exact hrule.valid e s _ (haccepts.valid (by rw [hitems]; rfl))
    | none =>
      refine hrule.kept v u hitems (fun hkind => hnot ?_) hP
      obtain ⟨a, ha, -⟩ := hwritten
      rcases happlies.items_or_update with hsome | ⟨ctx, rfl⟩
      · rw [hitems] at hsome
        cases hsome
      · exact ⟨⟨rfl, hitems, hkind⟩, a, ha⟩

/-- Rows that follow the rule follow it after a run that does not redeclare. -/
theorem run_holds_of_not_redeclared (hrule : ItemRule kind P) {ops : List (Int64 × Operation)}
    (hops : Received ops) (hkeeps : e.KeepsRun ops s) (hnot : ¬ e.Redeclared id kind ops s)
    (hs : ∀ r ∈ s.get? id, r.Holds e.text P id) :
    ∀ r ∈ (e.run ops s).get? id, r.Holds e.text P id := by
  induction ops generalizing s with
  | nil => exact hs
  | cons step rest ih =>
    obtain ⟨now, op⟩ := step
    obtain ⟨hfirst, hrest⟩ := not_or.1 hnot
    obtain ⟨hop, hops⟩ := List.forall_mem_cons.1 hops
    exact ih hops hkeeps.2 hrest (holds_of_not_redeclares hkeeps.1 hrule hop hfirst hs)

/-- Rows follow the rule from the last write of their items on, while nothing redeclares. -/
theorem run_holds_of_itemsFresh (hrule : ItemRule kind P) {before after : List (Int64 × Operation)}
    (hops : Received (before ++ after)) (hkeeps : e.KeepsRun (before ++ after) ∅)
    (hfresh : e.ItemsFresh before id) (hnot : ¬ e.Redeclared id kind after (e.run before ∅)) :
    ∀ r ∈ (e.run (before ++ after) ∅).get? id, r.Holds e.text P id := by
  obtain ⟨hbefore, hafter⟩ := List.forall_mem_append.1 hops
  obtain ⟨hkeeps, hkeepsafter⟩ := keepsRun_append.1 hkeeps
  rw [run_append]
  refine run_holds_of_not_redeclared hrule hafter hkeepsafter hnot ?_
  rcases hfresh with hnone | ⟨earlier, now, op, rfl, hitems, hwritten⟩
  · rw [hnone]
    intro r hr
    cases hr
  · obtain ⟨hearlier, hlast⟩ := List.forall_mem_append.1 hbefore
    obtain ⟨hkeeps, hkeepslast⟩ := keepsRun_concat.1 hkeeps
    rw [run_append]
    exact holds_of_hasWritten hkeepslast hrule.markFree (hrule.valid e _)
      (hlast (now, op) (List.mem_singleton_self _)) hitems hwritten
      (run_mirrored hearlier hkeeps id)

/-- **Values that must be there**: after every received run from the empty store whose documents the
text layer reads back, every row reads as a document whose active items all carry its unique field.
If at some point of the run its items were written, or it was not there yet, and no update without
items has changed its schema since, all items carry every required field; and if none has changed
its unique field either, all items carry the unique field when the schema declares it. -/
theorem run_keeps_values_present (e : Engine) (before after : List (Int64 × Operation))
    (hops : Received (before ++ after)) (hkeeps : e.KeepsRun (before ++ after) ∅) (id : String)
    (r : Row) (h : (e.run (before ++ after) ∅).get? id = some r) :
    ∃ v, r.vocabulary e.text id = .ok v ∧
      (∀ field, v.uniqueField = some field →
        ∀ i ∈ v.items, i.active = true → i.hasValue field = true) ∧
      (e.ItemsFresh before id →
        (¬ e.Redeclared id VocabularyUpdate.ChangesSchema after (e.run before ∅) →
          v.CarriesRequired) ∧
        (¬ e.Redeclared id VocabularyUpdate.ChangesUnique after (e.run before ∅) →
          v.CarriesUnique)) := by
  obtain ⟨v, hmirrors, hdistinct⟩ := run_hasDistinctValues hops hkeeps id r h
  refine ⟨v, hmirrors.read, fun field hfield => (hdistinct field hfield).carried,
    fun hfresh => ⟨fun hnot => ?_, fun hnot => ?_⟩⟩
  · obtain ⟨w, hmirrors', hw⟩ :=
      run_holds_of_itemsFresh itemRule_carriesRequired hops hkeeps hfresh hnot r h
    obtain rfl := hmirrors.unique hmirrors'.read
    exact hw
  · obtain ⟨w, hmirrors', hw⟩ :=
      run_holds_of_itemsFresh itemRule_carriesUnique hops hkeeps hfresh hnot r h
    obtain rfl := hmirrors.unique hmirrors'.read
    exact hw

/-- The places carry their names after these were made unique. -/
theorem places_keep_values_present : ∃ r v, ((ofConfig .default).run placesRun ∅).get? "places" =
    some r ∧ r.vocabulary .json "places" = .ok v ∧ v.uniqueField = some "name" ∧
      v.CarriesRequired ∧ v.items ≠ [] := by
  have hwritten : (ofConfig .default).HasWritten (.create [places] .blank)
      ((ofConfig .default).perform 1 (.create [places] .blank) ∅).result "places" :=
    ⟨.keys ["places"], ((create_of_admits 1 .blank
      (admitsBatch_singleton admits_places)).map Answer.keys).result, places,
      List.mem_singleton_self _, rfl⟩
  have hfresh : (ofConfig .default).ItemsFresh placesCreated "places" :=
    .inr ⟨[], 1, _, rfl, trivial, hwritten⟩
  have hnot : ¬ (ofConfig .default).Redeclared "places" VocabularyUpdate.ChangesSchema
      [(2, .update "places" uniqueNames .blank)]
      ((ofConfig .default).run placesCreated ∅) := by
    rintro (⟨⟨-, -, hschema⟩, -⟩ | hrest)
    · cases hschema
    · exact hrest
  obtain ⟨v, hread, -, hpresent⟩ := run_keeps_values_present (ofConfig .default) placesCreated
    [(2, .update "places" uniqueNames .blank)] received_placesRun keepsRun_placesRun "places" _
    active_namedPlaces.row
  obtain rfl : namedPlaces = v := Except.ok.inj (active_namedPlaces.read.symm.trans hread)
  exact ⟨_, namedPlaces, active_namedPlaces.row, hread, rfl, (hpresent hfresh).1 hnot, by decide⟩

/-! ### What does not always hold -/

/-- After every received run from the empty store every stored vocabulary has the property. -/
def AlwaysStored (P : Vocabulary → Prop) : Prop :=
  ∀ (e : Engine) (ops : List (Int64 × Operation)), Received ops →
    ∀ (id : String) (r : Row) (v : Vocabulary), (e.run ops ∅).get? id = some r →
      r.vocabulary e.text id = .ok v → P v

/-- A city that is not active and has no name, where names are unique but not declared. -/
def cities : Vocabulary :=
  { Vocabulary.new "cities" "Cities" .manageable with
    items := [{ Item.blank with isActive := some false }]
    uniqueField := some "name" }

/-- The update that makes codes required and unique. -/
def codesRequired : VocabularyUpdate :=
  { VocabularyUpdate.blank with
    uniqueField := some "qcode"
    schema := some (Schema.ofList [("qcode", .ofRequired)]) }

/-- The run that creates the places and then requires codes of them. -/
def codesRun : List (Int64 × Operation) :=
  placesCreated ++ [(2, .update "places" codesRequired .blank)]

theorem received_codesRequired : ∃ j, VocabularyUpdate.ofJson? j = some codesRequired := by
  refine ⟨.object [("unique_field", .string "qcode"),
    ("schema", .object [("qcode", .object [("required", .bool true)])])], ?_⟩
  decide +kernel

theorem legible_codesRequired : codesRequired.Legible := by
  refine ⟨nofun, fun s hs => ?_, nofun, nofun⟩
  cases hs
  rfl

theorem received_codesRun : Received codesRun :=
  List.forall_mem_append.2 ⟨received_placesCreated,
    List.forall_mem_singleton.2 received_codesRequired⟩

theorem wellFormed_cities : cities.WellFormed :=
  Vocabulary.wellFormed_of_ofJson? (j := cities.toJson) (by decide +kernel)

/-- The places as they are when codes are required of them. -/
def uncodedPlaces : Vocabulary :=
  ((places.marked false 1 1).updatedBy codesRequired).marked false 1 2

theorem active_codesRun : ∃ r, Store.Active .json ((ofConfig .default).run codesRun ∅) "places" r
    uncodedPlaces := by
  obtain ⟨j, hj⟩ := received_codesRequired
  have haccepts : (ofConfig .default).Accepts ((ofConfig .default).run placesCreated ∅)
      (places.marked false 1 1) codesRequired :=
    ⟨nofun, by decide +kernel, by decide +kernel⟩
  have hactive := active_update 2 .blank active_places haccepts (by decide)
    ((wellFormed_places.marked false 1 1).updatedBy (VocabularyUpdate.wellFormed_of_ofJson? hj))
    ((legible_places.marked false 1 1).updatedBy legible_codesRequired)
  rw [codesRun, run_append, run_cons, run_nil]
  exact ⟨_, hactive⟩

/-- Codes are required and unique, and a place has none. -/
theorem codesRun_lacks : uncodedPlaces.uniqueField = some "qcode" ∧
    (∃ d ∈ uncodedPlaces.schema.fields, d.1 = "qcode" ∧ d.2.required = true) ∧
    ∃ i ∈ uncodedPlaces.items, i.hasValue "qcode" = false := by
  decide

/-- The city is stored without the unique name. -/
theorem cities_lack : ∃ r v, ((ofConfig .default).run (creationOf cities) ∅).get? "cities" =
      some r ∧ r.vocabulary .json "cities" = .ok v ∧ v.uniqueField = some "name" ∧
    v.schema.declares "name" = false ∧ ∃ i ∈ v.items, i.hasValue "name" = false := by
  have hlegible : cities.Legible := Vocabulary.legible_toJson_iff.1 (by decide +kernel)
  have hactive := active_creationOf (c := .default) wellFormed_cities hlegible
    ⟨by decide +kernel, by decide +kernel, by decide +kernel⟩
  exact ⟨_, _, hactive.row, hactive.read, by decide⟩

/-- Without the conditions items may lack what the schema requires, the unique field that it
declares, or one that it does not declare. -/
theorem values_not_always_present :
    (¬ AlwaysStored fun v => ∀ field, (v.uniqueField = some field ∨
        ∃ d ∈ v.schema.fields, d.1 = field ∧ d.2.required = true) →
      ∀ i ∈ v.items, i.hasValue field = true) ∧
    ¬ AlwaysStored Vocabulary.CarriesRequired ∧ ¬ AlwaysStored Vocabulary.CarriesUnique ∧
    ¬ AlwaysStored fun v => ∀ field, v.uniqueField = some field →
      v.schema.declares field = false → ∀ i ∈ v.items, i.hasValue field = true := by
  obtain ⟨hunique, hrequired, i, hi, hlacks⟩ := codesRun_lacks
  have hplaces : ∀ P, AlwaysStored P → P uncodedPlaces := by
    intro P h
    obtain ⟨r, hactive⟩ := active_codesRun
    exact h (ofConfig .default) codesRun received_codesRun "places" r _ hactive.row hactive.read
  obtain ⟨d, hd, hname, hflag⟩ := hrequired
  refine ⟨fun h => ?_, fun h => ?_, fun h => ?_, fun h => ?_⟩
  · have hvalue := hplaces _ h "qcode" (.inl hunique) i hi
    rw [hlacks] at hvalue
    cases hvalue
  · have hvalue := hplaces _ h d hd hflag i hi
    rw [hname, hlacks] at hvalue
    cases hvalue
  · have hdeclared : uncodedPlaces.schema.declares "qcode" = true :=
      List.any_eq_true.2 ⟨d, hd, decide_eq_true hname⟩
    have hvalue := hplaces _ h "qcode" hunique hdeclared i hi
    rw [hlacks] at hvalue
    cases hvalue
  · obtain ⟨r, v, hrow, hread, hunique, hdeclared, i, hi, hlacks⟩ := cities_lack
    have hvalue := h (ofConfig .default) _ (received_creationOf wellFormed_cities) "cities" r v
      hrow hread "name" hunique hdeclared i hi
    rw [hlacks] at hvalue
    cases hvalue

end Engine

end Newsroom
