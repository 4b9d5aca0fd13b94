import Newsroom.Json.Record

/-!
# Records that read back

A record is written cell by cell: a cell has the name of a field and may be empty, and only filled
cells leave a member (`filled`). When no two cells have the same name, every field of the written
record reads as its cell (`find?_filled`), and no field stands there twice (`distinct_filled`). The
laws of the readers say how a field reads whose value was written by the matching writer, and what
a field that was read came from.
-/

namespace Newsroom

namespace Entries

variable {α : Type}

/-- Where no key occurs twice, an entry is what its key answers. -/
theorem find?_of_nodup {key : String} {v : α} {entries : List (String × α)}
    (h : (entries.map Prod.fst).Nodup) (hm : (key, v) ∈ entries) :
    find? key entries = some v := by
  induction entries with
  | nil => simp at hm
  | cons e rest ih =>
    obtain ⟨k, w⟩ := e
    obtain ⟨hk, hrest⟩ := List.nodup_cons.1 (show (k :: rest.map Prod.fst).Nodup from h)
    rcases List.mem_cons.1 hm with heq | hin
    · cases heq
      simp [find?]
    · have hne : k ≠ key := fun he => hk (List.mem_map.2 ⟨(key, v), hin, he.symm⟩)
      rw [find?_cons, if_neg hne]
      exact ih hrest hin

/-- Where no key occurs twice, a key answers in a part of the list as in the whole, if its entry
is in that part. -/
theorem find?_filter {key : String} {entries : List (String × α)}
    (h : (entries.map Prod.fst).Nodup) (p : String × α → Bool) :
    find? key (entries.filter p) = (find? key entries).filter fun v => p (key, v) := by
  induction entries with
  | nil => rfl
  | cons e rest ih =>
    obtain ⟨k, v⟩ := e
    obtain ⟨hk, hrest⟩ := List.nodup_cons.1 (show (k :: rest.map Prod.fst).Nodup from h)
    by_cases hkey : k = key
    · subst hkey
      have hnone : find? k rest = none :=
        find?_eq_none_iff.2 fun e he heq => hk (List.mem_map.2 ⟨e, he, heq⟩)
      cases hp : p (k, v) with
      | true => simp [hp, find?_cons, Option.filter]
      | false => simp [hp, find?_cons, ih hrest, hnone, Option.filter]
    · rw [find?_cons, if_neg hkey, ← ih hrest, List.filter_cons]
      split
      · rw [find?_cons, if_neg hkey]
      · rfl

/-- Keys in ascending order do not repeat. -/
theorem nodup_of_ascending {entries : List (String × α)} (h : Ascending entries) :
    (entries.map Prod.fst).Nodup := by
  refine List.pairwise_map.2 (List.Pairwise.imp (fun {a b} hlt heq => ?_) h)
  exact String.lt_irrefl b.1 (heq ▸ hlt)

end Entries

namespace TextMap

variable {α : Type}

theorem get?_foldl_insert {entries : List (String × α)} (h : (entries.map Prod.fst).Nodup)
    (m : TextMap α) (key : String) :
    (entries.foldl (fun m e => m.insert e.1 e.2) m).get? key =
      (Entries.find? key entries).or (m.get? key) := by
  induction entries generalizing m with
  | nil => rfl
  | cons e rest ih =>
    obtain ⟨k, v⟩ := e
    obtain ⟨hk, hrest⟩ := List.nodup_cons.1 (show (k :: rest.map Prod.fst).Nodup from h)
    rw [List.foldl_cons, ih hrest, get?_insert, Entries.find?_cons]
    by_cases hkey : k = key
    · subst hkey
      have hnone : Entries.find? k rest = none :=
        Entries.find?_eq_none_iff.2 fun e he heq => hk (List.mem_map.2 ⟨e, he, heq⟩)
      simp [hnone]
    · simp [hkey]

/-- Where no key occurs twice, a list and its map answer alike. -/
theorem get?_ofList {entries : List (String × α)} (h : (entries.map Prod.fst).Nodup)
    (key : String) : (ofList entries).get? key = Entries.find? key entries := by
  rw [ofList, get?_foldl_insert h]
  show (Entries.find? key entries).or none = _
  rw [Option.or_none]

end TextMap

section Lists

variable {α β : Type} {f : α → Option β}

/-- Reading undoes writing on a list when it does on each element. -/
theorem allSome?_map {g : β → α} {ys : List β} (h : ∀ y ∈ ys, f (g y) = some y) :
    allSome? f (ys.map g) = some ys := by
  induction ys with
  | nil => rfl
  | cons y ys ih =>
    rw [List.map_cons, allSome?, h y List.mem_cons_self,
      ih fun z hz => h z (List.mem_cons_of_mem _ hz)]

/-- What was read from a list was read element by element. -/
theorem exists_of_mem_allSome? {xs : List α} {ys : List β} (h : allSome? f xs = some ys) :
    ∀ y ∈ ys, ∃ x ∈ xs, f x = some y := by
  induction xs generalizing ys with
  | nil =>
    cases h
    simp
  | cons x xs ih =>
    rw [allSome?] at h
    split at h
    case h_1 y zs hy hzs =>
      cases h
      intro w hw
      rcases List.mem_cons.1 hw with rfl | hw
      · exact ⟨x, List.mem_cons_self, hy⟩
      · obtain ⟨u, hu, hfu⟩ := ih hzs w hw
        exact ⟨u, List.mem_cons_of_mem _ hu, hfu⟩
    case h_2 => cases h

/-- What reading keeps of each element, it keeps of the list. -/
theorem map_eq_of_allSome? {γ : Type} {g : β → γ} {k : α → γ} {xs : List α} {ys : List β}
    (h : allSome? f xs = some ys) (hkeep : ∀ x y, f x = some y → g y = k x) :
    ys.map g = xs.map k := by
  induction xs generalizing ys with
  | nil =>
    cases h
    rfl
  | cons x xs ih =>
    rw [allSome?] at h
    split at h
    case h_1 y zs hy hzs =>
      cases h
      rw [List.map_cons, hkeep x y hy, ih hzs, List.map_cons]
    case h_2 => cases h

end Lists

namespace Json

/-! ### Cells -/

/-- The members that the filled cells of a record leave. -/
def filled {α : Type} (cells : List (String × Option α)) : List (String × α) :=
  cells.filterMap fun c => c.2.map fun v => (c.1, v)

@[simp] theorem filled_nil {α : Type} : filled ([] : List (String × Option α)) = [] := rfl

theorem filled_cons (key : String) (o : Option Json) (cells : List (String × Option Json)) :
    filled ((key, o) :: cells) = optionalMember key id o ++ filled cells := by
  cases o <;> rfl

theorem optionalMember_map {α : Type} (key : String) (f : α → Json) (o : Option α) :
    optionalMember key id (o.map f) = optionalMember key f o := by
  cases o <;> rfl

theorem optionalMember_some (key : String) (v : Json) :
    optionalMember key id (some v) = member key v := rfl

theorem optionalMember_flag (key : String) (b : Bool) :
    optionalMember key id (if b then some (.bool true) else none) = flagMember key b := by
  cases b <;> rfl

theorem optionalMember_unless (key : String) (b : Bool) (v : Json) :
    optionalMember key id (if b then none else some v) = if b then [] else member key v := by
  cases b <;> rfl

theorem mem_filled {α : Type} {cells : List (String × Option α)} {key : String} {v : α} :
    (key, v) ∈ filled cells ↔ (key, some v) ∈ cells := by
  simp only [filled, List.mem_filterMap, Option.map_eq_some_iff, Prod.mk.injEq]
  constructor
  · rintro ⟨⟨k, o⟩, hm, w, rfl, rfl, rfl⟩
    exact hm
  · exact fun hm => ⟨(key, some v), hm, v, rfl, rfl, rfl⟩

theorem nodup_filled {α : Type} {cells : List (String × Option α)} (h : (cells.map Prod.fst).Nodup) :
    ((filled cells).map Prod.fst).Nodup := by
  induction cells with
  | nil => simp
  | cons c cells ih =>
    obtain ⟨k, o⟩ := c
    obtain ⟨hk, hrest⟩ := List.nodup_cons.1 (show (k :: cells.map Prod.fst).Nodup from h)
    cases o with
    | none => exact ih hrest
    | some v =>
      refine List.nodup_cons.2 ⟨fun hm => hk ?_, ih hrest⟩
      obtain ⟨⟨k', w⟩, hw, rfl⟩ := List.mem_map.1 hm
      exact List.mem_map.2 ⟨(k', some w), mem_filled.1 hw, rfl⟩

/-- Every field of a written record reads as its cell. -/
theorem find?_filled {α : Type} {cells : List (String × Option α)}
    (h : (cells.map Prod.fst).Nodup) :
    ∀ c ∈ cells, Entries.find? c.1 (filled cells) = c.2 := by
  rintro ⟨key, o⟩ hm
  cases o with
  | some v => exact Entries.find?_of_nodup (nodup_filled h) (mem_filled.2 hm)
  | none =>
    refine Entries.find?_eq_none_iff.2 fun e he heq => ?_
    obtain ⟨k, v⟩ := e
    cases (show k = key from heq)
    -- The name would stand in two cells, one empty and one filled.
    have hsome := Entries.find?_of_nodup h (mem_filled.1 he)
    rw [Entries.find?_of_nodup h hm] at hsome
    cases hsome

/-- A name without a cell is no member of the written record. -/
theorem find?_filled_of_not_mem {α : Type} {cells : List (String × Option α)} {key : String}
    (h : key ∉ cells.map Prod.fst) : Entries.find? key (filled cells) = none := by
  refine Entries.find?_eq_none_iff.2 ?_
  rintro ⟨k, v⟩ he rfl
  exact h (List.mem_map.2 ⟨(k, some v), mem_filled.1 he, rfl⟩)

/-- Members whose keys do not repeat are those of a record, whatever its known fields are. -/
theorem distinct_of_nodup {members : List (String × Json)} (h : (members.map Prod.fst).Nodup)
    (known : List String) : Distinct known members = true := by
  refine List.all_eq_true.2 fun key _ => decide_eq_true ?_
  induction members with
  | nil => simp
  | cons e rest ih =>
    obtain ⟨k, v⟩ := e
    obtain ⟨hk, hrest⟩ := List.nodup_cons.1 (show (k :: rest.map Prod.fst).Nodup from h)
    by_cases hkey : k = key
    · subst hkey
      have hnone : rest.filter (fun e => e.1 = k) = [] :=
        List.filter_eq_nil_iff.2 fun e he heq =>
          hk (List.mem_map.2 ⟨e, he, of_decide_eq_true heq⟩)
      simp [hnone]
    · simpa [hkey] using ih hrest

theorem distinct_filled {cells : List (String × Option Json)} (h : (cells.map Prod.fst).Nodup)
    (known : List String) : Distinct known (filled cells) = true :=
  distinct_of_nodup (nodup_filled h) known

theorem record?_object {known : List String} {members : List (String × Json)}
    (h : Distinct known members = true) : record? known (.object members) = some members := by
  rw [record?, if_pos h]

/-! ### Fields that were written -/

section Fields

variable {α : Type} {key : String} {f : Json → Option α} {ms : List (String × Json)}

theorem required?_eq {j : Json} (h : Entries.find? key ms = some j) : required? key f ms = f j := by
  rw [required?, h, Option.bind_some]

theorem optional?_eq {o : Option α} {g : α → Json} (h : Entries.find? key ms = o.map g)
    (hread : ∀ a, o = some a → f (g a) = some a) (hnull : ∀ a, g a ≠ .null) :
    optional? key f ms = some o := by
  rw [optional?, h]
  cases o with
  | none => rfl
  | some a =>
    rw [Option.map_some]
    split
    case h_1 heq => cases heq
    case h_2 heq => exact absurd (Option.some.inj heq) (hnull a)
    case h_3 v _ heq =>
      cases heq
      rw [hread a rfl, Option.map_some]

theorem defaulted?_eq {j : Json} {default : α} (h : Entries.find? key ms = some j) :
    defaulted? key default f ms = f j := by
  rw [defaulted?, h]

theorem defaulted?_missing {default : α} (h : Entries.find? key ms = none) :
    defaulted? key default f ms = some default := by
  rw [defaulted?, h]

/-- A flag that is written only when it is set reads back. -/
theorem defaulted?_flag {b : Bool}
    (h : Entries.find? key ms = if b then some (.bool true) else none) :
    defaulted? key false asBool? ms = some b := by
  cases b with
  | true => exact defaulted?_eq h
  | false => exact defaulted?_missing h

/-! ### Fields that were read -/

theorem of_optional? {a : α} (h : optional? key f ms = some (some a)) :
    ∃ j, Entries.find? key ms = some j ∧ f j = some a := by
  rw [optional?] at h
  split at h
  case h_1 => cases h
  case h_2 => cases h
  case h_3 v _ hv =>
    obtain ⟨b, hb, heq⟩ := Option.map_eq_some_iff.1 h
    cases heq
    exact ⟨v, hv, hb⟩

theorem of_defaulted? {a default : α} (h : defaulted? key default f ms = some a) :
    a = default ∨ ∃ j, Entries.find? key ms = some j ∧ f j = some a := by
  rw [defaulted?] at h
  split at h
  case h_1 =>
    cases h
    exact .inl rfl
  case h_2 v hv => exact .inr ⟨v, hv, h⟩

end Fields

/-! ### Values -/

@[simp] theorem asInt?_ofInt (n : Int64) : asInt? (ofInt n) = some n := Whole.toInt64?_ofInt64 n

theorem asList?_map {α : Type} {f : Json → Option α} {g : α → Json} {xs : List α}
    (h : ∀ x ∈ xs, f (g x) = some x) : asList? f (.array (xs.map g)) = some xs :=
  allSome?_map h

theorem exists_of_mem_asList? {α : Type} {f : Json → Option α} {j : Json} {xs : List α}
    (h : asList? f j = some xs) : ∀ x ∈ xs, ∃ i, f i = some x := by
  cases j with
  | array values =>
    intro x hx
    obtain ⟨i, -, hi⟩ := exists_of_mem_allSome? h x hx
    exact ⟨i, hi⟩
  | _ => cases h

theorem asMap?_ofMap {α : Type} {f : Json → Option α} {g : α → Json} {m : TextMap α}
    (h : ∀ e ∈ m.entries, f (g e.2) = some e.2) : asMap? f (ofMap g m) = some m := by
  have hall : allSome? (fun e => (f e.2).map fun v => (e.1, v))
      (m.entries.map fun e => (e.1, g e.2)) = some m.entries :=
    allSome?_map fun e he => by rw [h e he, Option.map_some]
  rw [ofMap, asMap?, hall, Option.map_some, TextMap.ofList_entries]

/-- All values of a map are in normal form. -/
def NormalMap (m : TextMap Json) : Prop := ∀ e ∈ m.entries, e.2.Normal

theorem normalMembers_entries {m : TextMap Json} (h : NormalMap m) :
    normalMembers m.entries = m.entries :=
  NormalMembers.normalMembers_eq (normalMembers_iff.2 h)

/-- A free-form map reads back when its values are in normal form. -/
theorem asFreeMap?_object {m : TextMap Json} (h : NormalMap m) :
    asFreeMap? (.object m.entries) = some m := by
  rw [asFreeMap?, normalMembers_entries h, TextMap.ofList_entries]

theorem normalMap_ofList {members : List (String × Json)} (h : NormalMembers members) :
    NormalMap (TextMap.ofList members) :=
  fun e he => normalMembers_iff.1 h e (TextMap.mem_of_mem_ofList he)

/-- The values of a free-form map that was read are in normal form. -/
theorem normalMap_of_asFreeMap? {j : Json} {m : TextMap Json} (h : asFreeMap? j = some m) :
    NormalMap m := by
  cases j with
  | object members =>
    cases h
    exact normalMap_ofList (normalMembers_normalMembers members)
  | _ => cases h

theorem normalMap_of_optional? {key : String} {ms : List (String × Json)}
    {o : Option (TextMap Json)} (h : optional? key asFreeMap? ms = some o) :
    ∀ m, o = some m → NormalMap m := by
  rintro m rfl
  obtain ⟨j, -, hj⟩ := of_optional? h
  exact normalMap_of_asFreeMap? hj

end Json

end Newsroom
