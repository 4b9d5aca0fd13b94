import Newsroom.Proofs.Service.Step

/-!
# The history of a row

A stored row never goes away. It keeps when it was created, and once it is deleted nothing of it
changes any more (`Row.Continues`). Its key stays taken: no creation names it again with success.
None of this depends on how documents are kept as text.
-/

namespace Newsroom

/-- What later operations leave of a row. -/
structure Row.Continues (r r' : Row) : Prop where
  created : r'.created = r.created
  deleted : r.deleted ≠ 0 → r' = r

theorem Row.Continues.refl (r : Row) : r.Continues r := ⟨rfl, fun _ => rfl⟩

theorem Row.Continues.trans {r r' r'' : Row} (h : r.Continues r') (h' : r'.Continues r'') :
    r.Continues r'' := by
  refine ⟨h'.created.trans h.created, fun hdeleted => ?_⟩
  obtain rfl : r' = r := h.deleted hdeleted
  exact h'.deleted hdeleted

namespace Engine

variable {e : Engine} {now : Int64} {op : Operation} {s : Store} {id : String}
  {result : Except ServiceError Answer}

/-- A step of a row that is there leaves a row that continues it. -/
theorem RowStep.continues {r : Row} {after : Option Row}
    (h : e.RowStep now op s id result (some r) after) : ∃ r', after = some r' ∧ r.Continues r' := by
  cases h with
  | kept => exact ⟨r, rfl, .refl r⟩
  | replaced _ _ _ hactive _ => exact ⟨_, rfl, rfl, fun hdeleted => absurd hactive hdeleted⟩
  | updated _ _ hactive _ _ => exact ⟨_, rfl, rfl, fun hdeleted => absurd hactive hdeleted⟩
  | deleted _ _ hactive _ _ => exact ⟨_, rfl, rfl, fun hdeleted => absurd hactive hdeleted⟩

theorem run_continues (e : Engine) (ops : List (Int64 × Operation)) {r : Row}
    (h : s.get? id = some r) : ∃ r', (e.run ops s).get? id = some r' ∧ r.Continues r' := by
  have hrow : ∃ r', s.get? id = some r' ∧ r.Continues r' := ⟨r, h, .refl r⟩
  refine e.run_invariant (I := fun s => ∃ r', s.get? id = some r' ∧ r.Continues r') hrow ?_
  rintro ⟨now, op⟩ - s ⟨r', hr', hcontinues⟩
  have hstep := e.perform_rowStep now op s id
  rw [hr'] at hstep
  obtain ⟨r'', hr'', hcontinues'⟩ := hstep.continues
  exact ⟨r'', hr'', hcontinues.trans hcontinues'⟩

/-- A creation that names a key with a row fails and changes nothing. -/
theorem create_taken {docs : List Vocabulary} {d : Vocabulary} {r : Row} (ctx : Context)
    (hd : d ∈ docs) (h : s.get? d.id = some r) :
    ∃ err, (e.create now docs ctx s).result = .error err ∧
      (e.create now docs ctx s).store = s := by
  rcases e.create_cases now docs ctx s with ⟨-, hfails⟩ | ⟨hbatch, -⟩
  · obtain ⟨err, herr⟩ := hfails.result
    exact ⟨err, herr, hfails.store⟩
  · rw [hbatch.free d hd] at h
    cases h

/-- **The history of a row**: over every run, from any store, a row stays under its key, keeps when
it was created, stays deleted when it is deleted and then stays as it is, and no creation that
names its key succeeds. -/
theorem run_keeps_row (e : Engine) (ops : List (Int64 × Operation)) (s : Store) (id : String)
    (r : Row) (h : s.get? id = some r) :
    (∃ r', (e.run ops s).get? id = some r' ∧ r'.created = r.created ∧
      (r.deleted = 1 → r'.deleted = 1) ∧ (r.deleted ≠ 0 → r' = r)) ∧
    ∀ (now : Int64) (docs : List Vocabulary) (ctx : Context), (∃ d ∈ docs, d.id = id) →
      ∃ err, (e.create now docs ctx (e.run ops s)).result = .error err ∧
        (e.create now docs ctx (e.run ops s)).store = e.run ops s := by
  obtain ⟨r', hr', hcontinues⟩ := e.run_continues ops h
  constructor
  · refine ⟨r', hr', hcontinues.created, fun hdeleted => ?_, hcontinues.deleted⟩
    rw [hcontinues.deleted (by rw [hdeleted]; decide), hdeleted]
  · rintro now docs ctx ⟨d, hd, rfl⟩
    exact create_taken ctx hd hr'

/-- The row of a deleted vocabulary of places. -/
def deletedPlaces : Row where
  document := ""
  kind := VocabularyKind.manageable.name
  fieldType := some "text"
  selection := none
  hasService := 0
  deleted := 1
  created := 1
  updated := 2

/-- Neither an update nor a deletion changes the deleted row, and its key cannot be used again. -/
theorem deletedPlaces_kept :
    (∃ r, ((ofConfig .default).run [(3, .update "places" .blank .blank), (4, .delete "places")]
      (TextMap.insert ∅ "places" deletedPlaces)).get? "places" = some r ∧ r = deletedPlaces) ∧
    ∃ err, ((ofConfig .default).create 5 [.new "places" "Places" .manageable] .blank
      ((ofConfig .default).run [(3, .update "places" .blank .blank), (4, .delete "places")]
        (TextMap.insert ∅ "places" deletedPlaces))).result = .error err := by
  have hrow : (TextMap.insert ∅ "places" deletedPlaces).get? "places" = some deletedPlaces :=
    TextMap.get?_insert_self ∅ "places" deletedPlaces
  obtain ⟨⟨r, hr, -, -, hkept⟩, htaken⟩ := run_keeps_row (ofConfig .default)
    [(3, .update "places" .blank .blank), (4, .delete "places")]
    (TextMap.insert ∅ "places" deletedPlaces) "places" deletedPlaces hrow
  obtain ⟨err, herr, -⟩ := htaken 5 [.new "places" "Places" .manageable] .blank
    ⟨_, List.mem_singleton_self _, rfl⟩
  exact ⟨⟨r, hr, hkept (by decide)⟩, err, herr⟩

end Engine

end Newsroom
