import Mathlib.Data.Finset.Card
import Newsroom.Proofs.Service.Violations

/-!
# What a check of items asks the store for

A check of items remembers the vocabularies that it has read. So it asks the store for each of them
once at most, however many fields and values refer to it and also when it fails, and it asks for
nothing but vocabularies that some value is linked to. A check that passes has asked for all of
these, and its log record tells how many there are (`Engine.validateItems_asks_once`). What the
store holds under other keys does not matter to the check.
-/

namespace Newsroom

/-! ### Vocabularies that are linked to -/

namespace Vocabulary

/-- The vocabularies that values of the document are linked to: those of the fields with a link of
which some item carries a value. -/
def linkedTo (v : Vocabulary) : Finset String :=
  ((v.schema.fields.filter fun f => v.items.any fun i => i.hasValue f.1).filterMap fun f =>
    f.2.link?.map Prod.fst).toFinset

variable {v : Vocabulary} {id : String}

theorem mem_linkedTo : id ∈ v.linkedTo ↔ ∃ f ∈ v.schema.fields,
    (∃ target, f.2.linkVocabulary = some id ∧ f.2.linkField = some target) ∧
      ∃ item ∈ v.items, item.hasValue f.1 = true := by
  have hlink : ∀ spec : FieldSpec, spec.link?.map Prod.fst = some id ↔
      ∃ target, spec.linkVocabulary = some id ∧ spec.linkField = some target := by
    intro spec
    rw [FieldSpec.link?]
    cases spec.linkVocabulary <;> cases spec.linkField <;> simp
  simp only [linkedTo, List.mem_toFinset, List.mem_filterMap, List.mem_filter, List.any_eq_true,
    hlink]
  exact exists_congr fun f => by rw [and_assoc, and_comm (a := ∃ item ∈ v.items, _)]

/-- The rules of a document with the item that they are about, its index and the field. -/
def ruleUses (v : Vocabulary) : List (Item × Nat × String × FieldRule) :=
  v.items.zipIdx.flatMap fun i => v.schema.fields.flatMap fun f =>
    (f.2.rules f.1 v.uniqueField).map fun rule => (i.1, i.2, f.1, rule)

end Vocabulary

/-- The vocabulary that a rule about a field of an item asks for. -/
def Item.target? (item : Item) (field : String) : FieldRule → Option String
  | .link vocabulary _ => if item.hasValue field then some vocabulary else none
  | .required | .unique | .typed _ => none

/-- The rules of a document ask for the vocabularies that its values are linked to. -/
theorem Vocabulary.exists_target_iff {v : Vocabulary} {id : String} :
    (∃ u ∈ v.ruleUses, u.1.target? u.2.2.1 u.2.2.2 = some id) ↔ id ∈ v.linkedTo := by
  rw [mem_linkedTo]
  constructor
  · rintro ⟨u, hu, htarget⟩
    obtain ⟨i, hi, hu⟩ := List.mem_flatMap.1 hu
    obtain ⟨f, hf, hu⟩ := List.mem_flatMap.1 hu
    obtain ⟨rule, hrule, rfl⟩ := List.mem_map.1 hu
    rcases FieldSpec.mem_rules_iff.1 hrule with ⟨rfl, -⟩ | ⟨rfl, -⟩ |
      ⟨vocabulary, target, rfl, hvocabulary, hfield⟩ | ⟨c, rfl, -⟩
    · cases htarget
    · cases htarget
    · obtain ⟨hvalue, hid⟩ := Option.ite_none_right_eq_some.1 htarget
      cases hid
      have hitem : i.1 ∈ v.items := List.fst_mem_of_mem_zipIdx hi
      exact ⟨f, hf, ⟨target, hvocabulary, hfield⟩, i.1, hitem, hvalue⟩
    · cases htarget
  · rintro ⟨f, hf, ⟨target, hvocabulary, hfield⟩, item, hitem, hvalue⟩
    obtain ⟨i, hi, rfl⟩ : ∃ i ∈ v.items.zipIdx, i.1 = item := by
      rw [← List.zipIdx_map_fst 0 v.items] at hitem
      exact List.mem_map.1 hitem
    have hrule : FieldRule.link id target ∈ f.2.rules f.1 v.uniqueField :=
      FieldSpec.mem_rules_iff.2 (.inr (.inr (.inl ⟨id, target, rfl, hvocabulary, hfield⟩)))
    refine ⟨(i.1, i.2, f.1, .link id target), ?_, if_pos hvalue⟩
    exact List.mem_flatMap.2 ⟨i, hi, List.mem_flatMap.2 ⟨f, hf, List.mem_map.2 ⟨_, hrule, rfl⟩⟩⟩

/-! ### Vocabularies that were asked for -/

namespace References

/-- What was asked for was read, and nothing was asked for twice. -/
structure Orderly (refs : References) : Prop where
  read : refs.loaded.map Prod.fst = refs.asked
  once : refs.asked.Nodup

theorem orderly_none : References.none.Orderly := ⟨rfl, List.nodup_nil⟩

/-- From `before` on, a part of a check that comes to `run` has asked for the vocabularies `targets`
as far as they were not read before, for all of them if it passed. -/
structure Asks {ε α : Type} (targets : List String) (before : References)
    (run : Except ε α × References) : Prop where
  once : run.2.asked.Nodup
  keeps : before.asked ⊆ run.2.asked
  only : ∀ id ∈ run.2.asked, id ∈ before.asked ∨ id ∈ targets
  passed : ∀ a, run.1 = .ok a → run.2.Orderly ∧ targets ⊆ run.2.asked

variable {t : TextLayer} {s : Store} {refs : References}

/-- A part that reads nothing asks for nothing. -/
theorem Orderly.asks_nil {ε α : Type} (h : refs.Orderly) (answer : Except ε α) :
    Asks [] refs (answer, refs) where
  once := h.once
  keeps := List.Subset.refl _
  only := fun _ hid => .inl hid
  passed := fun _ _ => ⟨h, List.nil_subset _⟩

theorem Orderly.asks_resolve (h : refs.Orderly) (id : String) :
    Asks [id] refs (resolve t s refs id) := by
  rw [resolve]
  cases hloaded : Entries.find? id refs.loaded with
  | some items =>
    have hasked : id ∈ refs.asked :=
      h.read ▸ List.mem_map.2 ⟨_, Entries.mem_of_find? hloaded, rfl⟩
    exact {
      once := h.once
      keeps := List.Subset.refl _
      only := fun _ hid => .inl hid
      passed := fun _ _ => ⟨h, List.cons_subset.2 ⟨hasked, List.nil_subset _⟩⟩ }
  | none =>
    have hfresh : id ∉ refs.asked := by
      rw [← h.read]
      intro hid
      obtain ⟨e, he, hkey⟩ := List.mem_map.1 hid
      exact Entries.find?_eq_none_iff.1 hloaded e he hkey
    have honce : (id :: refs.asked).Nodup := List.nodup_cons.2 ⟨hfresh, h.once⟩
    have honly : ∀ other ∈ id :: refs.asked, other ∈ refs.asked ∨ other ∈ [id] := by
      intro other hother
      rcases List.mem_cons.1 hother with rfl | hother
      · exact .inr (List.mem_singleton_self other)
      · exact .inl hother
    dsimp only
    cases Store.find t s id with
    | error err => exact ⟨honce, List.subset_cons_self _ _, honly, fun _ h => by cases h⟩
    | ok found =>
      refine ⟨honce, List.subset_cons_self _ _, honly, fun _ _ => ⟨⟨?_, honce⟩, ?_⟩⟩
      · rw [List.map_cons, h.read]
      · exact List.cons_subset.2 ⟨List.mem_cons_self, List.nil_subset _⟩

/-- What is asked for is all that a look-up learns of the store. -/
theorem resolve_congr {s' : Store} {id : String}
    (h : ∀ other ∈ (resolve t s refs id).2.asked, Store.find t s' other = Store.find t s other) :
    resolve t s' refs id = resolve t s refs id := by
  rw [resolve] at h
  rw [resolve, resolve]
  cases hloaded : Entries.find? id refs.loaded with
  | some items => rfl
  | none =>
    rw [hloaded] at h
    have hfind : Store.find t s' id = Store.find t s id := by
      refine h id ?_
      dsimp only
      cases Store.find t s id with
      | error err => exact List.mem_cons_self
      | ok found => exact List.mem_cons_self
    rw [hfind]

end References

/-! ### Checks in sequence -/

namespace Check

open References

variable {α : Type} {check check' : α → Check} {target : α → Option String} {us : List α}
  {refs : References}

/-- Checks in a row ask for what each of them asks for. -/
theorem asks_all (h : ∀ u ∈ us, ∀ refs : References, refs.Orderly →
      Asks (target u).toList refs (check u refs)) (hrefs : refs.Orderly) :
    Asks (us.filterMap target) refs (all (us.map check) refs) := by
  induction us generalizing refs with
  | nil => exact hrefs.asks_nil _
  | cons u us ih =>
    obtain ⟨hu, hus⟩ := List.forall_mem_cons.1 h
    have htargets : (u :: us).filterMap target = (target u).toList ++ us.filterMap target := by
      cases htarget : target u <;> simp [htarget]
    have hfirst := hu refs hrefs
    rw [List.map_cons, all, andThen, htargets]
    cases hrun : check u refs with
    | mk answer refs' =>
      rw [hrun] at hfirst
      cases answer with
      | error err =>
        refine ⟨hfirst.once, hfirst.keeps, fun id hid => ?_, fun _ h => by cases h⟩
        exact (hfirst.only id hid).imp_right fun hid => List.mem_append_left _ hid
      | ok _ =>
        obtain ⟨horderly, hasked⟩ := hfirst.passed () rfl
        have hrest := ih hus horderly
        refine ⟨hrest.once, List.Subset.trans hfirst.keeps hrest.keeps, fun id hid => ?_,
          fun a ha => ?_⟩
        · rcases hrest.only id hid with hid | hid
          · exact (hfirst.only id hid).imp_right fun hid => List.mem_append_left _ hid
          · exact .inr (List.mem_append_right _ hid)
        · obtain ⟨hafter, hrestasked⟩ := hrest.passed a ha
          exact ⟨hafter, List.append_subset.2 ⟨List.Subset.trans hasked hrest.keeps, hrestasked⟩⟩

/-- Checks in a row learn nothing of the store but what they ask for, if each of them does. -/
theorem all_congr {P : String → Prop}
    (h : ∀ u ∈ us, ∀ refs : References, refs.Orderly →
      Asks (target u).toList refs (check u refs))
    (hcongr : ∀ u ∈ us, ∀ refs : References,
      (∀ id ∈ (check u refs).2.asked, P id) → check' u refs = check u refs)
    (hrefs : refs.Orderly) (hP : ∀ id ∈ (all (us.map check) refs).2.asked, P id) :
    all (us.map check') refs = all (us.map check) refs := by
  induction us generalizing refs with
  | nil => rfl
  | cons u us ih =>
    obtain ⟨hu, hus⟩ := List.forall_mem_cons.1 h
    obtain ⟨hcu, hcus⟩ := List.forall_mem_cons.1 hcongr
    have hfirst := hu refs hrefs
    rw [List.map_cons, all, andThen] at hP
    rw [List.map_cons, List.map_cons, all, all, andThen, andThen]
    cases hrun : check u refs with
    | mk answer refs' =>
      rw [hrun] at hP hfirst
      cases answer with
      | error err => rw [hcu refs (by rw [hrun]; exact hP), hrun]
      | ok _ =>
        obtain ⟨horderly, -⟩ := hfirst.passed () rfl
        have hkeeps := (asks_all hus horderly).keeps
        rw [hcu refs (by rw [hrun]; exact fun id hid => hP id (hkeeps hid)), hrun]
        exact ih hus hcus horderly hP

end Check

namespace Engine

open References

variable {e : Engine} {s : Store} {v : Vocabulary}

theorem asks_checkRule (item : Item) (index : Nat) (field : String) (rule : FieldRule)
    {refs : References} (hrefs : refs.Orderly) :
    Asks (item.target? field rule).toList refs (e.checkRule s item index field rule refs) := by
  cases rule with
  | required | unique =>
    rw [checkRule]
    split
    · exact hrefs.asks_nil _
    · exact hrefs.asks_nil _
  | typed cast => exact hrefs.asks_nil _
  | link vocabulary target =>
    rw [checkRule, Item.target?, Item.hasValue_eq_isSome]
    cases item.filled? field with
    | none => exact hrefs.asks_nil _
    | some value =>
      have hread := hrefs.asks_resolve (t := e.text) (s := s) vocabulary
      dsimp only [Option.isSome_some, if_true, Option.toList_some]
      cases hrun : resolve e.text s refs vocabulary with
      | mk read refs' =>
        rw [hrun] at hread
        cases read with
        | error err => exact ⟨hread.once, hread.keeps, hread.only, fun _ h => by cases h⟩
        | ok items =>
          dsimp only
          generalize (items.any _) = found
          cases found with
          | true => exact ⟨hread.once, hread.keeps, hread.only, fun _ _ => hread.passed items rfl⟩
          | false => exact ⟨hread.once, hread.keeps, hread.only, fun _ h => by cases h⟩

theorem checkRule_congr {s' : Store} (item : Item) (index : Nat) (field : String)
    (rule : FieldRule) (refs : References)
    (h : ∀ id ∈ (e.checkRule s item index field rule refs).2.asked,
      Store.find e.text s' id = Store.find e.text s id) :
    e.checkRule s' item index field rule refs = e.checkRule s item index field rule refs := by
  cases rule with
  | required | unique => rfl
  | typed cast => rfl
  | link vocabulary target =>
    rw [checkRule] at h
    rw [checkRule, checkRule]
    cases hfilled : item.filled? field with
    | none => rfl
    | some value =>
      rw [hfilled] at h
      dsimp only at h ⊢
      have hsame : resolve e.text s' refs vocabulary = resolve e.text s refs vocabulary := by
        refine resolve_congr fun id hid => h id ?_
        cases hrun : resolve e.text s refs vocabulary with
        | mk read refs' =>
          rw [hrun] at hid
          cases read with
          | error err => exact hid
          | ok items =>
            dsimp only
            rw [apply_ite Prod.snd, ite_self]
            exact hid
      rw [hsame]

theorem candidateChecks_eq : e.candidateChecks s v =
    v.ruleUses.map fun u => e.checkRule s u.1 u.2.1 u.2.2.1 u.2.2.2 := by
  simp only [candidateChecks, itemChecks, Vocabulary.ruleUses, List.map_flatMap, List.map_map,
    Function.comp_def]

/-- The check of all items asks for what the rules ask for. -/
theorem asks_runChecks : Asks (v.ruleUses.filterMap fun u => u.1.target? u.2.2.1 u.2.2.2)
    References.none (e.runChecks s v) := by
  rw [runChecks, candidateChecks_eq]
  exact Check.asks_all (fun u _ _ hrefs => asks_checkRule u.1 u.2.1 u.2.2.1 u.2.2.2 hrefs)
    orderly_none

theorem mem_linkedTo_of_asked {id : String} (h : id ∈ (e.runChecks s v).2.asked) :
    id ∈ v.linkedTo := by
  rcases asks_runChecks.only id h with hnone | htarget
  · cases hnone
  · exact Vocabulary.exists_target_iff.1 (List.mem_filterMap.1 htarget)

/-- A check that passes has asked for all vocabularies that values are linked to. -/
theorem toFinset_asked (h : (e.runChecks s v).1 = .ok ()) :
    (e.runChecks s v).2.asked.toFinset = v.linkedTo := by
  ext id
  rw [List.mem_toFinset]
  refine ⟨mem_linkedTo_of_asked, fun hlinked => ?_⟩
  exact (asks_runChecks.passed () h).2
    (List.mem_filterMap.2 (Vocabulary.exists_target_iff.2 hlinked))

/-- Where the store has the same vocabularies as far as they were asked for, the check of all items
takes the same course. -/
theorem runChecks_congr {s' : Store} (h : ∀ id ∈ (e.runChecks s v).2.asked,
    Store.find e.text s' id = Store.find e.text s id) : e.runChecks s' v = e.runChecks s v := by
  rw [runChecks, candidateChecks_eq] at h
  rw [runChecks, runChecks, candidateChecks_eq, candidateChecks_eq]
  exact Check.all_congr (fun u _ _ hrefs => asks_checkRule u.1 u.2.1 u.2.2.1 u.2.2.2 hrefs)
    (fun u _ refs => checkRule_congr u.1 u.2.1 u.2.2.1 u.2.2.2 refs) orderly_none h

/-- With fields and items to check, all checks are run, and completed ones are told of. -/
theorem validateItems_eq (hfields : v.schema.fields ≠ []) (hitems : v.items ≠ []) :
    e.validateItems s v = ⟨(e.runChecks s v).1, match (e.runChecks s v).1 with
      | .ok _ => [checkedEntry v (e.runChecks s v).2]
      | .error _ => []⟩ := by
  have hsome : (v.schema.fields.isEmpty || v.items.isEmpty) = false :=
    Bool.or_eq_false_iff.2 ⟨List.isEmpty_eq_false_iff.2 hfields, List.isEmpty_eq_false_iff.2 hitems⟩
  rw [validateItems, hsome, if_neg Bool.false_ne_true]
  cases hrun : e.runChecks s v with
  | mk answer refs => cases answer <;> rfl

/-- **What a check of items asks the store for**: each vocabulary once at most, whether it passes or
fails, and none but those that values of the document are linked to; and only the vocabularies that
it has asked for matter to it. If it passes, it has asked for all that values are linked to, and its
log record tells how many these are. -/
theorem validateItems_asks_once (e : Engine) (s : Store) (v : Vocabulary)
    (hfields : v.schema.fields ≠ []) (hitems : v.items ≠ []) :
    (e.validateItems s v).result = (e.runChecks s v).1 ∧
    (e.runChecks s v).2.asked.Nodup ∧
    (∀ id ∈ (e.runChecks s v).2.asked, id ∈ v.linkedTo) ∧
    (∀ s' : Store, (∀ id ∈ (e.runChecks s v).2.asked,
      Store.find e.text s' id = Store.find e.text s id) →
        e.validateItems s' v = e.validateItems s v) ∧
    ((e.validateItems s v).result = .ok () →
      (e.runChecks s v).2.asked.toFinset = v.linkedTo ∧
      (e.validateItems s v).journal = [logged .debug
        ("event=vocabulary_validate module=validation status=ok vocabulary_id=" ++ v.id
          ++ " items=" ++ toString v.items.length
          ++ " reference_lookups=" ++ toString v.linkedTo.card)]) := by
  have honce : (e.runChecks s v).2.asked.Nodup := asks_runChecks.once
  refine ⟨by rw [validateItems_eq hfields hitems], honce, fun id => mem_linkedTo_of_asked,
    fun s' h => ?_, fun hok => ?_⟩
  · rw [validateItems_eq hfields hitems, validateItems_eq hfields hitems, runChecks_congr h]
  · rw [validateItems_eq hfields hitems] at hok ⊢
    have hasked := toFinset_asked hok
    have hcount : (e.runChecks s v).2.asked.length = v.linkedTo.card := by
      rw [← hasked, List.toFinset_card_of_nodup honce]
    refine ⟨hasked, ?_⟩
    dsimp only at hok ⊢
    rw [hok, ← hcount, checkedEntry]

/-- Harbours with two places, a kind and an owner; the owner of the only one is not known. -/
def harbours : Vocabulary :=
  { Vocabulary.new "harbours" "Harbours" .manageable with
    items := [{ Item.named "Portus" with extra := TextMap.ofList [("city", .string "1"),
      ("kind", .string "town"), ("port", .string "1")] }]
    schema := Schema.ofList
      [("city", .ofLink "places" "qcode"), ("port", .ofLink "places" "qcode"),
        ("kind", .ofLink "kinds" "name"), ("owner", .ofLink "firms" "name")] }

theorem fields_harbours : harbours.schema.fields =
    [("city", .ofLink "places" "qcode"), ("port", .ofLink "places" "qcode"),
      ("kind", .ofLink "kinds" "name"), ("owner", .ofLink "firms" "name")] := by decide

theorem followsRules_harbours :
    harbours.FollowsRules .json ((ofConfig .default).run placesAndKinds ∅) := by
  have hrome : Store.Resolves .json ((ofConfig .default).run placesAndKinds ∅) "places" "qcode"
      (.string "1") :=
    ⟨_, find_places, _, List.mem_cons_self, .string "1", rfl, by decide⟩
  have htown : Store.Resolves .json ((ofConfig .default).run placesAndKinds ∅) "kinds" "name"
      (.string "town") :=
    ⟨_, find_kinds, _, List.mem_singleton_self _, .string "town", rfl, by decide⟩
  intro item hitem f hf rule hrule
  obtain rfl := List.mem_singleton.1 hitem
  rw [fields_harbours] at hf
  simp only [List.mem_cons, List.not_mem_nil, or_false] at hf
  rcases hf with rfl | rfl | rfl | rfl
  · obtain rfl := List.mem_singleton.1 hrule
    rintro _ ⟨⟩
    exact hrome
  · obtain rfl := List.mem_singleton.1 hrule
    rintro _ ⟨⟩
    exact hrome
  · obtain rfl := List.mem_singleton.1 hrule
    rintro _ ⟨⟩
    exact htown
  · obtain rfl := List.mem_singleton.1 hrule
    rintro _ ⟨⟩

/-- The three values that are linked are looked up in two vocabularies, and the firms are not asked
for. -/
theorem harbours_checked :
    harbours.schema.fields ≠ [] ∧ harbours.items ≠ [] ∧
    harbours.linkedTo = {"places", "kinds"} ∧
    ((ofConfig .default).runChecks ((ofConfig .default).run placesAndKinds ∅)
      harbours).2.asked.Nodup ∧
    (ofConfig .default).validateItems ((ofConfig .default).run placesAndKinds ∅) harbours =
      ⟨.ok (), [logged .debug ("event=vocabulary_validate module=validation status=ok "
        ++ "vocabulary_id=harbours items=1 reference_lookups=2")]⟩ := by
  have hfields : harbours.schema.fields ≠ [] := by decide
  have hitems : harbours.items ≠ [] := by decide
  have hlinked : harbours.linkedTo = {"places", "kinds"} := by decide
  have hok : ((ofConfig .default).validateItems ((ofConfig .default).run placesAndKinds ∅)
      harbours).result = .ok () := validateItems_eq_ok_iff.2 followsRules_harbours
  obtain ⟨-, honce, -, -, hpassed⟩ := validateItems_asks_once (ofConfig .default)
    ((ofConfig .default).run placesAndKinds ∅) harbours hfields hitems
  have hjournal := (hpassed hok).2
  rw [hlinked] at hjournal
  refine ⟨hfields, hitems, hlinked, honce, ?_⟩
  cases hrun : (ofConfig .default).validateItems ((ofConfig .default).run placesAndKinds ∅)
      harbours with
  | mk result journal =>
    rw [hrun] at hok hjournal
    obtain rfl : result = .ok () := hok
    obtain rfl := hjournal
    rw [Traced.mk.injEq]
    exact ⟨rfl, by decide⟩

end Engine

end Newsroom
