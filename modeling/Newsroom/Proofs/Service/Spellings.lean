import Newsroom.Service.Keywords

/-!
# New spellings

Keywords are the same when their lower case is, and the first spelling of a keyword is the one that
is kept. Which spellings of a list are new is said here by position (`newSpellings`): those whose
lower case occurs neither among what was seen before nor earlier in the list. A merge gets there in
two passes, one that drops repetitions and one that drops what is known; both are the same question
(`distinctKeywords_eq`, `missingKeywords_eq`).
-/

namespace Newsroom

/-- The keywords without blanks around them, and without blank ones. -/
def spellings (keywords : List String) : List String :=
  (keywords.map Text.trim).filter fun k => !k.isEmpty

/-- The keywords whose lower case is neither among what was seen nor that of an earlier keyword. -/
def newSpellings (seen ks : List String) : List String :=
  (ks.zipIdx.filter fun k =>
    Text.lower k.1 ∉ seen ∧ Text.lower k.1 ∉ (ks.take k.2).map Text.lower).map Prod.fst

theorem ne_empty_of_mem_spellings {keywords : List String} {k : String}
    (h : k ∈ spellings keywords) : k ≠ "" := by
  rintro rfl
  simpa using (List.mem_filter.1 h).2

theorem mem_of_mem_newSpellings {seen ks : List String} {k : String} (h : k ∈ newSpellings seen ks) :
    k ∈ ks := by
  obtain ⟨p, hp, rfl⟩ := List.mem_map.1 h
  exact List.fst_mem_of_mem_zipIdx (List.mem_filter.1 hp).1

theorem lower_not_mem_of_mem_newSpellings {seen ks : List String} {k : String}
    (h : k ∈ newSpellings seen ks) : Text.lower k ∉ seen := by
  obtain ⟨p, hp, rfl⟩ := List.mem_map.1 h
  exact (of_decide_eq_true (List.mem_filter.1 hp).2).1

/-- Only what was seen matters, not how often or in which order. -/
theorem newSpellings_congr {seen seen' : List String} (h : ∀ x, x ∈ seen ↔ x ∈ seen')
    (ks : List String) : newSpellings seen ks = newSpellings seen' ks := by
  simp only [newSpellings, h]

theorem newSpellings_eq_nil {seen ks : List String} (h : ∀ k ∈ ks, Text.lower k ∈ seen) :
    newSpellings seen ks = [] := by
  rw [newSpellings, List.map_eq_nil_iff, List.filter_eq_nil_iff]
  intro p hp hnew
  exact (of_decide_eq_true hnew).1 (h p.1 (List.fst_mem_of_mem_zipIdx hp))

/-- Behind its first keyword a list goes on as if that had been seen. -/
theorem newSpellings_cons (seen : List String) (k : String) (ks : List String) :
    newSpellings seen (k :: ks) =
      (if Text.lower k ∈ seen then [] else [k]) ++ newSpellings (Text.lower k :: seen) ks := by
  have hrest : ((ks.zipIdx 1).filter fun p => Text.lower p.1 ∉ seen ∧
      Text.lower p.1 ∉ ((k :: ks).take p.2).map Text.lower).map Prod.fst =
      newSpellings (Text.lower k :: seen) ks := by
    rw [List.zipIdx_succ, List.filter_map, List.map_map, newSpellings]
    refine congrArg (List.map Prod.fst) (List.filter_congr fun p _ => decide_eq_decide.2 ?_)
    simp only [List.take_succ_cons, List.map_cons, List.mem_cons, not_or]
    exact and_assoc.symm.trans (and_congr_left fun _ => and_comm)
  rw [← hrest, newSpellings, List.zipIdx_cons, List.filter_cons]
  by_cases hseen : Text.lower k ∈ seen
  · simp [hseen]
  · simp [hseen]

/-- Behind another list a list goes on as if the new spellings of that had been seen. -/
theorem newSpellings_append (seen ks ks' : List String) :
    newSpellings seen (ks ++ ks') = newSpellings seen ks ++
      newSpellings (seen ++ (newSpellings seen ks).map Text.lower) ks' := by
  induction ks generalizing seen with
  | nil =>
    rw [List.nil_append, newSpellings_eq_nil (List.forall_mem_nil _), List.map_nil,
      List.append_nil, List.nil_append]
  | cons k ks ih =>
    rw [List.cons_append, newSpellings_cons, newSpellings_cons, ih, ← List.append_assoc]
    congr 1
    refine newSpellings_congr (fun x => ?_) ks'
    by_cases hseen : Text.lower k ∈ seen
    · have hx : x = Text.lower k → x ∈ seen := by
        rintro rfl
        exact hseen
      simp only [hseen, if_true, List.nil_append, List.cons_append, List.mem_cons, List.mem_append]
      exact or_iff_right_of_imp fun h => .inl (hx h)
    · simp only [hseen, if_false, List.map_cons, List.cons_append, List.nil_append, List.mem_cons,
        List.mem_append]
      exact or_left_comm

/-- Every keyword was seen or has the lower case of a new spelling. -/
theorem seen_or_newSpelling (seen : List String) {ks : List String} {k : String} (hk : k ∈ ks) :
    Text.lower k ∈ seen ∨ ∃ new ∈ newSpellings seen ks, Text.lower new = Text.lower k := by
  induction ks generalizing seen with
  | nil => cases hk
  | cons first ks ih =>
    rw [newSpellings_cons]
    have hfirst : Text.lower first ∈ seen ∨ ∃ new ∈ (if Text.lower first ∈ seen then [] else
        [first]) ++ newSpellings (Text.lower first :: seen) ks,
        Text.lower new = Text.lower first := by
      by_cases hseen : Text.lower first ∈ seen
      · exact .inl hseen
      · exact .inr ⟨first, by simp [hseen], rfl⟩
    rcases List.mem_cons.1 hk with rfl | hk
    · exact hfirst
    · rcases ih _ hk with hseen | ⟨new, hnew, hlower⟩
      · rcases List.mem_cons.1 hseen with heq | hseen
        · rwa [heq]
        · exact .inl hseen
      · exact .inr ⟨new, List.mem_append_right _ hnew, hlower⟩

/-- New spellings differ in lower case. -/
theorem nodup_lower_newSpellings (seen ks : List String) :
    ((newSpellings seen ks).map Text.lower).Nodup := by
  induction ks generalizing seen with
  | nil => exact List.nodup_nil
  | cons k ks ih =>
    rw [newSpellings_cons]
    split
    case isTrue => exact ih _
    case isFalse =>
      rw [List.singleton_append, List.map_cons, List.nodup_cons]
      refine ⟨fun hmem => ?_, ih _⟩
      obtain ⟨new, hnew, hlower⟩ := List.mem_map.1 hmem
      refine lower_not_mem_of_mem_newSpellings hnew ?_
      rw [hlower]
      exact List.mem_cons_self

/-! ### The two passes of a merge -/

/-- Dropping repetitions leaves the new spellings. -/
theorem distinctKeywords_eq (seen ks : List String) :
    distinctKeywords seen ks = newSpellings seen ks := by
  induction ks generalizing seen with
  | nil => rfl
  | cons k ks ih =>
    rw [distinctKeywords, newSpellings_cons]
    by_cases hseen : Text.lower k ∈ seen
    · have hsame : ∀ x, x ∈ seen ↔ x ∈ Text.lower k :: seen := by
        intro x
        rw [List.mem_cons]
        refine (or_iff_right_of_imp ?_).symm
        rintro rfl
        exact hseen
      rw [if_pos (by simpa using hseen), if_pos hseen, ih, newSpellings_congr hsame]
      rfl
    · rw [if_neg (by simpa using hseen), if_neg hseen, ih]
      rfl

/-- Dropping what is known is as if it had been seen from the start. -/
theorem filter_newSpellings (known seen ks : List String) :
    ((newSpellings seen ks).filter fun k => Text.lower k ∉ known) =
      newSpellings (known ++ seen) ks := by
  rw [newSpellings, List.filter_map, List.filter_filter, newSpellings]
  refine congrArg (List.map Prod.fst) (List.filter_congr fun p _ => ?_)
  simp [and_assoc]

theorem cleanKeywords_eq (keywords : List String) :
    cleanKeywords keywords = newSpellings [] (spellings keywords) :=
  distinctKeywords_eq [] (spellings keywords)

/-- What is missing from the items are the new spellings. -/
theorem missingKeywords_eq (items : List Item) (keywords : List String) :
    missingKeywords items (cleanKeywords keywords) =
      newSpellings ((items.filterMap Item.name).map Text.lower) (spellings keywords) := by
  have hfilter := filter_newSpellings ((items.filterMap Item.name).map Text.lower) []
    (spellings keywords)
  rw [List.append_nil] at hfilter
  rw [← hfilter, ← cleanKeywords_eq]
  simp [missingKeywords]

end Newsroom
