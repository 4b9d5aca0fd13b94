import Newsroom.Proofs.Service.Received

/-!
# Distinct values over whole runs

Whatever path a document takes into the store, the values of its unique field are distinct among
its active items. An update may change the items, the unique field or the schema alone, and the
check looks at what the store's own merge will come to (`patch_checkUpdate`), so the property is
kept by every write. Deleted rows keep it too.
-/

namespace Newsroom

namespace Engine

variable {e : Engine} {s : Store} {v : Vocabulary}

theorem markFree_hasDistinctValues : MarkFree Vocabulary.HasDistinctValues :=
  fun _ _ _ _ h => h

/-- After every received run, every row holds a document with distinct values. -/
theorem run_hasDistinctValues {ops : List (Int64 × Operation)} (hops : Received ops)
    (hkeeps : e.KeepsRun ops ∅) : (e.run ops ∅).Holds e.text Vocabulary.HasDistinctValues := by
  refine run_holds markFree_hasDistinctValues hops hkeeps ?_ ?_
  · intro s v hadmits
    exact checkUnique_eq_ok_iff.1 hadmits.unique
  · intro s v u haccepts _
    exact checkUnique_eq_ok_iff.1 haccepts.unique

/-- **Distinct values**: after every received run from the empty store whose documents the text
layer reads back, every row, deleted or not, reads as a document whose unique field, if it has one,
passes the check: every active item carries a value of it, and the upper-cased texts of these values
are pairwise distinct. -/
theorem run_keeps_values_distinct (e : Engine) (ops : List (Int64 × Operation))
    (hops : Received ops) (hkeeps : e.KeepsRun ops ∅) (id : String) (r : Row)
    (h : (e.run ops ∅).get? id = some r) :
    ∃ v, r.vocabulary e.text id = .ok v ∧ ∀ field, v.uniqueField = some field →
      checkUniqueness v.items field = .ok () ∧
      (∀ i ∈ v.items, i.active = true → i.hasValue field = true) ∧
      (v.items.filter Item.active).Pairwise fun i j =>
        (i.fieldText field).map Text.upper ≠ (j.fieldText field).map Text.upper := by
  obtain ⟨v, hmirrors, hdistinct⟩ := run_hasDistinctValues hops hkeeps id r h
  refine ⟨v, hmirrors.read, fun field hfield => ?_⟩
  obtain ⟨hcarried, hpairwise⟩ := hdistinct field hfield
  exact ⟨checkUniqueness_eq_ok_iff.2 ⟨hcarried, hpairwise⟩, hcarried, hpairwise⟩

/-- The names of the two active places are distinct after names were made unique. -/
theorem places_keep_values_distinct : ∃ r v, ((ofConfig .default).run placesRun ∅).get? "places" =
    some r ∧ r.vocabulary .json "places" = .ok v ∧ v.updated = some 2 ∧
      v.uniqueField = some "name" ∧ (v.items.filter Item.active).length = 2 ∧
      checkUniqueness v.items "name" = .ok () ∧
      (∀ i ∈ v.items, i.active = true → i.hasValue "name" = true) ∧
      (v.items.filter Item.active).Pairwise fun i j =>
        (i.fieldText "name").map Text.upper ≠ (j.fieldText "name").map Text.upper := by
  obtain ⟨v, hread, hdistinct⟩ := run_keeps_values_distinct (ofConfig .default) placesRun
    received_placesRun keepsRun_placesRun "places" _ active_namedPlaces.row
  obtain rfl : namedPlaces = v := Except.ok.inj (active_namedPlaces.read.symm.trans hread)
  exact ⟨_, namedPlaces, active_namedPlaces.row, hread, rfl, rfl, by decide,
    hdistinct "name" rfl⟩

end Engine

end Newsroom
