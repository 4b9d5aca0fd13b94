import Newsroom.Proofs.Service.Batches
import Newsroom.Proofs.Service.Presence
import Newsroom.Proofs.Store.ReadBack

/-!
# Links after a write

Values are looked up in the store as it is before the write. No write takes a row of another key
away or changes it, so what was found under another key is found there afterwards as well
(`Engine.run_resolves_links`). A vocabulary that links to itself is different: its values were
found among the items that it had before the write, and the write may have dropped these
(`Engine.ostia_dangles`). A new vocabulary had none, so it is only created when no item has a value
under such a link.
-/

namespace Newsroom

theorem Vocabulary.LinksHold.mono {R R' : String → String → Json → Prop} {v : Vocabulary}
    (h : v.LinksHold R)
    (hR : ∀ vocabulary target value, R vocabulary target value → R' vocabulary target value) :
    v.LinksHold R' := by
  intro item hitem f hf vocabulary target hvocabulary htarget value hvalue
  exact hR _ _ _ (h item hitem f hf vocabulary target hvocabulary htarget value hvalue)

namespace Engine

variable {e : Engine} {now : Int64} {op : Operation} {s : Store} {id other : String}
  {result : Except ServiceError Answer}

/-- A row that was written is active, unless the operation deletes it. -/
theorem RowStep.active {before after : Option Row}
    (h : e.RowStep now op s id result before after) (hwritten : e.HasWritten op result id)
    (hop : op ≠ .delete id) : ∃ r, after = some r ∧ r.deleted = 0 := by
  cases h with
  | kept _ hnot => exact absurd hwritten hnot
  | created => exact ⟨_, rfl, rfl⟩
  | replaced => exact ⟨_, rfl, rfl⟩
  | updated => exact ⟨_, rfl, rfl⟩
  | deleted _ hdelete => exact absurd hdelete hop

/-- An operation that writes two rows creates both of them. -/
theorem eq_or_free_of_hasWritten (h : e.HasWritten op (e.perform now op s).result id)
    (h' : e.HasWritten op (e.perform now op s).result other) :
    other = id ∨ s.get? other = none := by
  obtain ⟨a, hok, hid⟩ := h
  obtain ⟨a', hok', hother⟩ := h'
  obtain rfl : a = a' := Except.ok.inj (hok.symm.trans hok')
  cases op with
  | create docs ctx =>
    obtain ⟨d, hd, rfl⟩ := hother
    rcases e.create_cases now docs ctx s with ⟨-, hfails⟩ | ⟨hbatch, -⟩
    · exact absurd hok ((hfails.map Answer.keys).result_ne a)
    · exact .inr (hbatch.free d hd)
  | replace target doc ctx => exact .inl (hother.symm.trans hid)
  | update target u ctx => exact .inl (hother.symm.trans hid)
  | delete target => exact .inl (hother.symm.trans hid)
  | addMissingKeywords keywords language ctx => exact .inl (hother.1.symm.trans hid.1)
  | onArticlePublished keywords language ctx => exact .inl (hother.1.symm.trans hid.1)

/-- What an operation does to one row leaves the active vocabularies of all other keys alone. -/
theorem find_of_hasWritten {w : Vocabulary}
    (hwritten : e.HasWritten op (e.perform now op s).result id) (hne : other ≠ id)
    (h : Store.find e.text s other = .ok (some w)) :
    Store.find e.text (e.perform now op s).store other = .ok (some w) := by
  obtain ⟨r, hw⟩ := Store.find_eq_some_iff.1 h
  have hkept : ¬ e.HasWritten op (e.perform now op s).result other := by
    intro hother
    rcases eq_or_free_of_hasWritten hwritten hother with heq | hfree
    · exact hne heq
    · rw [hw.row] at hfree
      cases hfree
  have hrow := (e.perform_rowStep now op s other).eq_of_not_written hkept
  exact Store.find_eq_some_iff.2 ⟨r, hrow.trans hw.row, hw.active, hw.read⟩

/-- The document that a write of items leaves has links that resolved before the write. -/
theorem linksHold_of_hasWritten (hkeeps : e.KeepsStep now op s) (hop : op.Received)
    (hitems : op.CarriesItems) (hwritten : e.HasWritten op (e.perform now op s).result id)
    (hs : ∀ r ∈ s.get? id, r.Holds e.text (fun _ => True) id) :
    ∃ v, Store.find e.text (e.perform now op s).store id = .ok (some v) ∧
      v.LinksHold (Store.Resolves e.text s) := by
  have hdelete : op ≠ .delete id := by
    rintro rfl
    exact hitems
  obtain ⟨r, hrow, hactive⟩ := (e.perform_rowStep now op s id).active hwritten hdelete
  have hholds : r.Holds e.text (Vocabulary.LinksHold (Store.Resolves e.text s)) id :=
    holds_of_hasWritten hkeeps (fun _ _ _ _ h => h)
      (fun v hvalid => (validate_eq_ok_iff.1 hvalid).2.linksHold) hop hitems hwritten hs r hrow
  obtain ⟨v, hmirrors, hlinks⟩ := hholds
  exact ⟨v, Store.find_eq_some_iff.2 ⟨r, hrow, hactive, hmirrors.read⟩, hlinks⟩

/-- **Links after a write**: after every received run from the empty store and a received operation
that has written the items of a vocabulary, where the text layer reads back what they store, this
vocabulary is active, and every value that one of its items has under a field with a link occurs in
the target field of some item of the linked vocabulary: in the store after the write if that is
another vocabulary, and in the store before the write if it is the vocabulary itself. -/
theorem run_resolves_links (e : Engine) (ops : List (Int64 × Operation)) (hops : Received ops)
    (now : Int64) (op : Operation) (hop : op.Received) (hitems : op.CarriesItems)
    (hkeeps : e.KeepsRun (ops ++ [(now, op)]) ∅) (id : String)
    (hwritten : e.HasWritten op (e.perform now op (e.run ops ∅)).result id) :
    ∃ v, Store.find e.text (e.perform now op (e.run ops ∅)).store id = .ok (some v) ∧
      v.LinksHold fun vocabulary target value =>
        Store.Resolves e.text
          (if vocabulary = id then e.run ops ∅ else (e.perform now op (e.run ops ∅)).store)
          vocabulary target value := by
  obtain ⟨hkeeps, hkeepslast⟩ := keepsRun_concat.1 hkeeps
  obtain ⟨v, hfind, hlinks⟩ := linksHold_of_hasWritten hkeepslast hop hitems hwritten
    (run_mirrored hops hkeeps id)
  refine ⟨v, hfind, hlinks.mono fun vocabulary target value hresolves => ?_⟩
  by_cases hself : vocabulary = id
  · rw [if_pos hself]
    exact hresolves
  · rw [if_neg hself]
    obtain ⟨w, hw, hvalue⟩ := hresolves
    exact ⟨w, find_of_hasWritten hwritten hself hw, hvalue⟩

/-! ### Vocabularies that link to themselves -/

/-- The kinds of places. -/
def kinds : Vocabulary :=
  { Vocabulary.new "kinds" "Kinds" .manageable with items := [Item.named "town"] }

/-- Ostia, a town that belongs to the place with the code 1. -/
def ostia : Item :=
  { Item.blank with
    name := some "Ostia"
    qcode := some "2"
    extra := TextMap.ofList [("kind", .string "town"), ("parent", .string "1")] }

/-- The update that puts Ostia in place of all places, and links places to their kinds and to each
other. -/
def onlyOstia : VocabularyUpdate :=
  { VocabularyUpdate.blank with
    items := some [ostia]
    schema := some (Schema.ofList
      [("kind", .ofLink "kinds" "name"), ("parent", .ofLink "places" "qcode")]) }

/-- The places as the update leaves them. -/
def settledPlaces : Vocabulary := (places.updatedBy onlyOstia).marked false 1 2

/-- The run that creates the places and their kinds. -/
def placesAndKinds : List (Int64 × Operation) := [(1, .create [places, kinds] .blank)]

theorem received_kinds : Vocabulary.ofJson? kinds.toJson = some kinds := by decide +kernel

theorem received_placesAndKinds : Received placesAndKinds := by
  refine List.forall_mem_singleton.2 (List.forall_mem_cons.2 ⟨?_, ?_⟩)
  · exact ⟨places.toJson, received_places⟩
  · exact List.forall_mem_singleton.2 ⟨kinds.toJson, received_kinds⟩

theorem received_onlyOstia : ∃ j, VocabularyUpdate.ofJson? j = some onlyOstia := by
  refine ⟨.object [("items", .array [ostia.toJson]), ("schema", .object
    [("kind", .object [("link_field", .string "name"), ("link_vocab", .string "kinds")]),
      ("parent", .object [("link_field", .string "qcode"), ("link_vocab", .string "places")])])],
    ?_⟩
  decide +kernel

theorem legible_kinds : kinds.Legible := Vocabulary.legible_toJson_iff.1 (by decide +kernel)

theorem legible_onlyOstia : onlyOstia.Legible := by
  refine ⟨fun items hitems => ?_, fun s hs => ?_, nofun, nofun⟩
  · cases hitems
    exact List.forall_mem_singleton.2 rfl
  · cases hs
    rfl

/-- What the run and the update store is read back. -/
theorem keepsRun_onlyOstia : (ofConfig .default).KeepsRun
    (placesAndKinds ++ [(2, .update "places" onlyOstia .blank)]) ∅ := by
  refine keepsRun_json (List.forall_mem_append.2 ⟨received_placesAndKinds,
    List.forall_mem_singleton.2 received_onlyOstia⟩) (List.forall_mem_append.2 ⟨?_,
    List.forall_mem_singleton.2 legible_onlyOstia⟩) Store.holds_empty
  exact List.forall_mem_singleton.2 (List.forall_mem_cons.2 ⟨legible_places,
    List.forall_mem_singleton.2 legible_kinds⟩)

/-- The outcome of the update after the places and their kinds were created. -/
def settled : Outcome Answer :=
  (ofConfig .default).perform 2 (.update "places" onlyOstia .blank)
    ((ofConfig .default).run placesAndKinds ∅)

theorem admitsBatch_placesAndKinds : (ofConfig .default).AdmitsBatch ∅ [places, kinds] where
  distinct := by decide
  free := List.forall_mem_cons.2 ⟨rfl, List.forall_mem_singleton.2 rfl⟩
  admitted := List.forall_mem_cons.2
    ⟨⟨rfl, rfl, rfl⟩, List.forall_mem_singleton.2 ⟨rfl, rfl, rfl⟩⟩

/-- The places and their kinds are there after they were created. -/
theorem insertAll_placesAndKinds : Store.insertAll .json 1 ∅ [places, kinds] =
    .ok (["places", "kinds"], (ofConfig .default).run placesAndKinds ∅) := by
  have hstore : (ofConfig .default).run placesAndKinds ∅ =
      Store.withRows .json 1 ∅ [places, kinds] := 
        (create_of_admits 1 .blank admitsBatch_placesAndKinds).store
  refine Store.insertAll_eq_ok_iff.2 ⟨by decide, List.forall_mem_cons.2 ⟨⟨rfl, rfl⟩, ?_⟩, rfl,
    hstore.symm⟩
  exact List.forall_mem_singleton.2 ⟨rfl, rfl⟩

theorem find_places : Store.find .json ((ofConfig .default).run placesAndKinds ∅) "places" =
    .ok (some (places.marked false 1 1)) := by
  have hkept : TextLayer.json.Keeps (Store.stamped 1 places) :=
    TextLayer.keeps_json_iff.2 (legible_places.marked false 1 1)
  exact Store.find_insertAll (v := places) (by simp) ⟨_, received_places⟩ hkept
    insertAll_placesAndKinds

theorem find_kinds : Store.find .json ((ofConfig .default).run placesAndKinds ∅) "kinds" =
    .ok (some (kinds.marked false 1 1)) := by
  have hkept : TextLayer.json.Keeps (Store.stamped 1 kinds) :=
    TextLayer.keeps_json_iff.2 (legible_kinds.marked false 1 1)
  exact Store.find_insertAll (v := kinds) (by simp) ⟨_, received_kinds⟩ hkept
    insertAll_placesAndKinds

/-- Ostia follows the rules of the updated places wherever its kind and the place that it belongs
to are known. -/
theorem followsRules_onlyOstia {t : TextLayer} {s : Store}
    (hkind : Store.Resolves t s "kinds" "name" (.string "town"))
    (hparent : Store.Resolves t s "places" "qcode" (.string "1")) :
    ((places.marked false 1 1).updatedBy onlyOstia).FollowsRules t s := by
  intro item hitem f hf rule hrule
  obtain rfl : item = ostia := List.mem_singleton.1 hitem
  have hfields : ((places.marked false 1 1).updatedBy onlyOstia).schema.fields =
      [("kind", .ofLink "kinds" "name"), ("parent", .ofLink "places" "qcode")] := by decide
  rw [hfields] at hf
  rcases List.mem_cons.1 hf with rfl | hf
  · obtain rfl : rule = .link "kinds" "name" := List.mem_singleton.1 hrule
    intro value hvalue
    obtain rfl : Json.string "town" = value := Option.some.inj hvalue
    exact hkind
  · obtain rfl := List.mem_singleton.1 hf
    obtain rfl : rule = .link "places" "qcode" := List.mem_singleton.1 hrule
    intro value hvalue
    obtain rfl : Json.string "1" = value := Option.some.inj hvalue
    exact hparent

/-- The update succeeds, and the places are as it leaves them. -/
theorem settled_succeeds : settled.result = .ok (.document settledPlaces) ∧
    Store.find .json settled.store "places" = .ok (some settledPlaces) := by
  have hrules := followsRules_onlyOstia
    ⟨_, find_kinds, _, List.mem_singleton_self _, .string "town", rfl, by decide⟩
    ⟨_, find_places, _, List.mem_cons_self, .string "1", rfl, by decide⟩
  obtain ⟨r, hactive⟩ := Store.find_eq_some_iff.1 find_places
  have hcreated : r.created = 1 :=
    (Option.some.inj (congrArg Vocabulary.created hactive.eq_marked)).symm
  have haccepts : (ofConfig .default).Accepts ((ofConfig .default).run placesAndKinds ∅)
      (places.marked false 1 1) onlyOstia :=
    ⟨fun _ => validate_eq_ok_iff.2 ⟨rfl, hrules⟩, rfl, rfl⟩
  obtain ⟨j, hj⟩ := received_onlyOstia
  have hwf : ((places.marked false 1 1).updatedBy onlyOstia).WellFormed :=
    (wellFormed_places.marked false 1 1).updatedBy (VocabularyUpdate.wellFormed_of_ofJson? hj)
  have hlegible : ((places.marked false 1 1).updatedBy onlyOstia).Legible :=
    (legible_places.marked false 1 1).updatedBy legible_onlyOstia
  have hmade := (update_of_accepts 2 .blank hactive haccepts rfl).map Answer.document
  have hafter := active_update 2 .blank hactive haccepts rfl hwf hlegible
  rw [hcreated] at hmade hafter
  exact ⟨hmade.result, Store.find_eq_some_iff.2 ⟨_, hafter⟩⟩

/-- The kind of Ostia is known after the update, and the place that it belongs to was known before
it. -/
theorem ostia_resolves :
    ∃ v, Store.find .json settled.store "places" = .ok (some v) ∧ ostia ∈ v.items ∧
      Store.Resolves .json settled.store "kinds" "name" (.string "town") ∧
      Store.Resolves .json ((ofConfig .default).run placesAndKinds ∅) "places" "qcode"
        (.string "1") := by
  obtain ⟨hok, hfind⟩ := settled_succeeds
  obtain ⟨v, hv, hlinks⟩ := run_resolves_links (ofConfig .default) placesAndKinds
    received_placesAndKinds 2 (.update "places" onlyOstia .blank) received_onlyOstia rfl
    keepsRun_onlyOstia "places" ⟨_, hok, rfl⟩
  obtain rfl : settledPlaces = v := Option.some.inj (Except.ok.inj (hfind.symm.trans hv))
  have hostia : ostia ∈ settledPlaces.items := List.mem_singleton_self ostia
  have hkind := hlinks ostia hostia ("kind", .ofLink "kinds" "name") (by decide) "kinds" "name"
    rfl rfl (.string "town") rfl
  have hparent := hlinks ostia hostia ("parent", .ofLink "places" "qcode") (by decide) "places"
    "qcode" rfl rfl (.string "1") rfl
  simp only [String.reduceEq, if_false, if_true] at hkind hparent
  exact ⟨settledPlaces, hv, hostia, hkind, hparent⟩

/-- After the update the place that Ostia belongs to is no longer there: the links of a vocabulary
that has just been written need not resolve. -/
theorem ostia_dangles : Received placesAndKinds ∧
    (Operation.update "places" onlyOstia .blank).Received ∧
    (Operation.update "places" onlyOstia .blank).CarriesItems ∧
    (ofConfig .default).HasWritten (.update "places" onlyOstia .blank) settled.result "places" ∧
    ∃ v, Store.find .json settled.store "places" = .ok (some v) ∧
      ¬ v.LinksHold (Store.Resolves .json settled.store) := by
  obtain ⟨hok, hfind⟩ := settled_succeeds
  refine ⟨received_placesAndKinds, received_onlyOstia, rfl, ⟨_, hok, rfl⟩, _, hfind,
    fun hlinks => ?_⟩
  obtain ⟨w, hw, other, hother, x, hx, hsame⟩ := hlinks ostia (List.mem_singleton_self ostia)
    ("parent", .ofLink "places" "qcode") (by decide) "places" "qcode" rfl rfl (.string "1") rfl
  -- Ostia is the only place, and its code is 2
  obtain rfl : settledPlaces = w := Option.some.inj (Except.ok.inj (hfind.symm.trans hw))
  obtain rfl : other = ostia := List.mem_singleton.1 hother
  obtain rfl : Json.string "2" = x := Option.some.inj hx
  revert hsame
  decide

end Engine

end Newsroom
