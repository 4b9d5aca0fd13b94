import Newsroom.Proofs.Vocabulary.Values

/-!
# The first value that is not unique

The check for distinct values goes through the items once, remembers the texts of the values that it
has seen, and stops at the first item that it cannot let pass. What it tells can be said of the list
as a whole: at an index there is a fault if the item there is active and carries no value, or
carries one whose text an active item before it has, up to case (`FaultAt`). The check passes
exactly when the list has no fault, and otherwise it tells the fault at the least index
(`checkUniqueness_tells_first`). Items that are not active may come and go without a difference to
whether it passes.
-/

namespace Newsroom

/-- A fault at an index of a list of items, and the error that tells of it. -/
inductive FaultAt (field : String) (items : List Item) (index : Nat) : ValidationError → Prop where
  /-- The item there is active and carries no value. -/
  | empty {item : Item} (hitem : items[index]? = some item) (hactive : item.active = true)
      (hempty : item.hasValue field = false) : FaultAt field items index
        (.emptyUniqueValue field index)
  /-- The item there is active, and an active item before it has the text of its value up to
  case. -/
  | duplicate {item other : Item} {value : Json} {earlier : Nat}
      (hitem : items[index]? = some item) (hactive : item.active = true)
      (hvalue : item.filled? field = some value) (hearlier : earlier < index)
      (hother : items[earlier]? = some other) (hactive' : other.active = true)
      (hsame : other.upperText field = item.upperText field) : FaultAt field items index
        (.duplicateValue field value.text index)

/-- The fault at the least index. -/
structure FirstFault (field : String) (items : List Item) (index : Nat) (err : ValidationError) :
    Prop where
  fault : FaultAt field items index err
  first : ∀ earlier < index, ∀ err', ¬ FaultAt field items earlier err'

variable {field : String} {items : List Item} {index : Nat} {err err' : ValidationError}

/-- The error names the index of its fault. -/
theorem FaultAt.item?_eq (h : FaultAt field items index err) : err.item? = some index := by
  cases h <;> rfl

/-- An item that carries no value has no repeated one, so an index has one fault at most. -/
theorem FaultAt.unique (h : FaultAt field items index err) (h' : FaultAt field items index err') :
    err = err' := by
  cases h with
  | empty hitem _ hempty =>
    cases h' with
    | empty => rfl
    | duplicate hitem' _ hvalue =>
      cases hitem.symm.trans hitem'
      rw [Item.hasValue_eq_isSome, hvalue] at hempty
      cases hempty
  | duplicate hitem _ hvalue =>
    cases h' with
    | empty hitem' _ hempty =>
      cases hitem.symm.trans hitem'
      rw [Item.hasValue_eq_isSome, hvalue] at hempty
      cases hempty
    | duplicate hitem' _ hvalue' =>
      cases hitem.symm.trans hitem'
      cases hvalue.symm.trans hvalue'
      rfl

theorem FirstFault.unique {index' : Nat} (h : FirstFault field items index err)
    (h' : FirstFault field items index' err') : err = err' := by
  rcases Nat.lt_trichotomy index index' with hlt | rfl | hlt
  · exact absurd h.fault (h'.first index hlt err)
  · exact h.fault.unique h'.fault
  · exact absurd h'.fault (h.first index' hlt err')

/-- A list with a fault has no distinct values. -/
theorem FaultAt.not_distinctValues (h : FaultAt field items index err) :
    ¬ DistinctValues field items := by
  rintro ⟨hcarried, hdistinct⟩
  cases h with
  | empty hitem hactive hempty =>
    rw [hcarried _ (List.mem_of_getElem? hitem) hactive] at hempty
    cases hempty
  | @duplicate item other _ earlier hitem hactive _ hearlier hother hactive' hsame =>
    obtain ⟨hbound, rfl⟩ := List.getElem?_eq_some_iff.1 hitem
    obtain ⟨hbound', rfl⟩ := List.getElem?_eq_some_iff.1 hother
    rw [List.pairwise_filter, List.pairwise_iff_getElem] at hdistinct
    exact hdistinct earlier index hbound' hbound hearlier hactive' hactive hsame

variable {item : Item}

theorem not_faultAt_of_inactive (hitem : items[index]? = some item) (hactive : item.active = false)
    (err : ValidationError) : ¬ FaultAt field items index err := by
  intro hfault
  cases hfault with
  | empty hitem' hactive' | duplicate hitem' hactive' =>
    cases hitem.symm.trans hitem'
    rw [hactive] at hactive'
    cases hactive'

theorem not_faultAt_of_fresh {value : Json} (hitem : items[index]? = some item)
    (hfilled : item.filled? field = some value)
    (hfresh : ∀ earlier < index, ∀ other, items[earlier]? = some other → other.active = true →
      other.upperText field ≠ item.upperText field) (err : ValidationError) :
    ¬ FaultAt field items index err := by
  intro hfault
  cases hfault with
  | empty hitem' _ hempty =>
    cases hitem.symm.trans hitem'
    rw [Item.hasValue_eq_isSome, hfilled] at hempty
    cases hempty
  | duplicate hitem' _ _ hearlier hother hactive' hsame =>
    cases hitem.symm.trans hitem'
    exact hfresh _ hearlier _ hother hactive' hsame

/-! ### The check, item by item -/

/-- The texts that were seen are those of the active items before. -/
def Seen (field : String) (before : List Item) (seen : List String) : Prop :=
  ∀ text, text ∈ seen ↔
    ∃ other ∈ before, other.active = true ∧ other.upperText field = some text

theorem seen_nil : Seen field [] [] := by
  intro text
  simp

variable {before rest : List Item} {seen : List String}

theorem Seen.snoc_inactive (h : Seen field before seen) (hactive : item.active = false) :
    Seen field (before ++ [item]) seen := by
  intro text
  simp [h text, or_and_right, exists_or, hactive]

theorem Seen.snoc_active (h : Seen field before seen) (hactive : item.active = true) {text : String}
    (htext : item.upperText field = some text) : Seen field (before ++ [item]) (text :: seen) := by
  intro other
  simp only [List.mem_cons, h other, List.mem_append, or_and_right, exists_or, exists_eq_left,
    hactive, htext, true_and, Option.some.injEq, List.not_mem_nil, or_false]
  rw [or_comm, eq_comm (a := other)]

/-- No index of the part before has a fault, and neither has the next one. -/
theorem forall_lt_snoc (item : Item)
    (hbefore : ∀ i < before.length, ∀ err, ¬ FaultAt field items i err)
    (hnext : ∀ err, ¬ FaultAt field items before.length err) :
    ∀ i < (before ++ [item]).length, ∀ err, ¬ FaultAt field items i err := by
  intro i hi
  rw [List.length_append, List.length_singleton, Nat.lt_succ_iff] at hi
  rcases Nat.lt_or_eq_of_le hi with hlt | rfl
  · exact hbefore i hlt
  · exact hnext

/-- When the check fails behind a part without fault, it tells the first fault of the list. -/
theorem exists_firstFault (hseen : Seen field before seen)
    (hbefore : ∀ i < before.length, ∀ err, ¬ FaultAt field (before ++ rest) i err)
    (h : checkDistinct field seen before.length rest = .error err) :
    ∃ index, FirstFault field (before ++ rest) index err := by
  induction rest generalizing before seen with
  | nil => cases h
  | cons item rest ih =>
    have hitem : (before ++ item :: rest)[before.length]? = some item := by simp
    have hsplit : before ++ item :: rest = before ++ [item] ++ rest := List.append_cons ..
    have hlength : (before ++ [item]).length = before.length + 1 := by simp
    rw [checkDistinct] at h
    cases hactive : item.active with
    | false =>
      rw [hactive, Bool.not_false, if_pos rfl, ← hlength] at h
      have hclean := forall_lt_snoc item hbefore (not_faultAt_of_inactive hitem hactive)
      rw [hsplit] at hclean ⊢
      exact ih (hseen.snoc_inactive hactive) hclean h
    | true =>
      rw [hactive, Bool.not_true, if_neg Bool.false_ne_true] at h
      cases hfilled : item.filled? field with
      | none =>
        rw [hfilled] at h
        cases h
        have hempty : item.hasValue field = false := by rw [Item.hasValue_eq_isSome, hfilled]; rfl
        exact ⟨before.length, .empty hitem hactive hempty, hbefore⟩
      | some value =>
        have htext := Item.upperText_of_filled? hfilled
        rw [hfilled] at h
        dsimp only at h
        split at h
        case isTrue hrepeated =>
          cases h
          obtain ⟨other, hother, hactive', hsame⟩ :=
            (hseen _).1 (List.contains_iff_mem.1 hrepeated)
          obtain ⟨earlier, hbound, hget⟩ := List.getElem_of_mem hother
          have hget' : (before ++ item :: rest)[earlier]? = some other := by
            rw [List.getElem?_append_left hbound, ← hget, List.getElem?_eq_getElem hbound]
          exact ⟨before.length, .duplicate hitem hactive hfilled hbound hget' hactive'
            (hsame.trans htext.symm), hbefore⟩
        case isFalse hfresh =>
          have hnext : ∀ err, ¬ FaultAt field (before ++ item :: rest) before.length err := by
            refine not_faultAt_of_fresh hitem hfilled ?_
            intro earlier hearlier other hother hactive' hsame
            rw [List.getElem?_append_left hearlier] at hother
            exact hfresh (List.contains_iff_mem.2 ((hseen _).2
              ⟨other, List.mem_of_getElem? hother, hactive', hsame.trans htext⟩))
          have hclean := forall_lt_snoc item hbefore hnext
          rw [← hlength] at h
          rw [hsplit] at hclean ⊢
          exact ih (hseen.snoc_active hactive htext) hclean h

/-- The check fails exactly with the first fault. -/
theorem checkUniqueness_eq_error_iff :
    checkUniqueness items field = .error err ↔ ∃ index, FirstFault field items index err := by
  have htells : ∀ {err}, checkUniqueness items field = .error err →
      ∃ index, FirstFault field items index err :=
    fun h => exists_firstFault seen_nil (fun _ hi => absurd hi (Nat.not_lt_zero _)) h
  refine ⟨htells, fun ⟨index, hfirst⟩ => ?_⟩
  cases hcheck : checkUniqueness items field with
  | ok _ => exact absurd (checkUniqueness_eq_ok_iff.1 hcheck) hfirst.fault.not_distinctValues
  | error err' =>
    obtain ⟨index', hfirst'⟩ := htells hcheck
    rw [hfirst'.unique hfirst]

/-- Items that are not active do not count. -/
theorem distinctValues_filter :
    DistinctValues field (items.filter Item.active) ↔ DistinctValues field items := by
  have hcarried : (∀ i ∈ items.filter Item.active, i.active = true → i.hasValue field = true) ↔
      ∀ i ∈ items, i.active = true → i.hasValue field = true :=
    ⟨fun h i hi hactive => h i (List.mem_filter.2 ⟨hi, hactive⟩) hactive,
      fun h i hi => h i (List.mem_filter.1 hi).1⟩
  have hfilter : (items.filter Item.active).filter Item.active = items.filter Item.active := by
    simp
  constructor
  · rintro ⟨h, hdistinct⟩
    exact ⟨hcarried.1 h, hfilter ▸ hdistinct⟩
  · rintro ⟨h, hdistinct⟩
    exact ⟨hcarried.2 h, hfilter.symm ▸ hdistinct⟩

/-- **What the check for distinct values tells**: it passes exactly when every active item carries a
value of the field and the upper-cased texts of these values differ in pairs. Otherwise it tells the
fault at the least index: that the active item there carries no value, or that an active item before
it has the same text up to case. Lists with the same active items in the same order pass or fail
together. -/
theorem checkUniqueness_tells_first (items : List Item) (field : String) :
    (checkUniqueness items field = .ok () ↔
      (∀ i ∈ items, i.active = true → i.hasValue field = true) ∧
      (items.filter Item.active).Pairwise fun i j =>
        (i.fieldText field).map Text.upper ≠ (j.fieldText field).map Text.upper) ∧
    (∀ err, checkUniqueness items field = .error err ↔
      ∃ index, FirstFault field items index err) ∧
    ∀ others : List Item, others.filter Item.active = items.filter Item.active →
      (checkUniqueness others field = .ok () ↔ checkUniqueness items field = .ok ()) := by
  refine ⟨checkUniqueness_eq_ok_iff.trans ?_, fun _ => checkUniqueness_eq_error_iff,
    fun others hothers => ?_⟩
  · exact ⟨fun h => ⟨h.carried, h.distinct⟩, fun h => ⟨h.1, h.2⟩⟩
  · rw [checkUniqueness_eq_ok_iff, checkUniqueness_eq_ok_iff, ← distinctValues_filter, hothers,
      distinctValues_filter]

/-- Ranks of which one is a number and one is its text, with an inactive item between them. -/
def ranks : List Item :=
  [{ Item.blank with extra := TextMap.ofList [("rank", .ofInt 1)] },
    { Item.blank with isActive := some false },
    { Item.blank with extra := TextMap.ofList [("rank", .string "1")] }]

/-- The text is told as a repetition of the number before it, and that the check fails has nothing
to do with the inactive item. -/
theorem ranks_repeat : FirstFault "rank" ranks 2 (.duplicateValue "rank" "1" 2) ∧
    checkUniqueness (ranks.filter Item.active) "rank" ≠ .ok () := by
  obtain ⟨-, htells, hactive⟩ := checkUniqueness_tells_first ranks "rank"
  have herr : checkUniqueness ranks "rank" = .error (.duplicateValue "rank" "1" 2) := rfl
  obtain ⟨index, hfirst⟩ := (htells _).1 herr
  have hindex : 2 = index := Option.some.inj hfirst.fault.item?_eq
  have hsame := hactive (ranks.filter Item.active) (by decide +kernel)
  refine ⟨hindex.symm ▸ hfirst, fun hok => ?_⟩
  rw [hsame.1 hok] at herr
  cases herr

end Newsroom
