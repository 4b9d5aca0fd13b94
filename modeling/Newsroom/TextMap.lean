/-!
# Text maps

A finite map from text to values, held as the list of its entries in strictly ascending key
order. Keys compare by code point, which is also the order of their UTF-8 bytes. Because the
list is strictly ascending a map has one representation only, so equality of maps is equality
of what they answer (`TextMap.ext_get?`), and listing a map never shows in which order it was
filled.

The view of a map is `get?`; each operation has one lemma that says what it does to the view.
-/

namespace Newsroom

/-- The entries stand in strictly ascending order of their keys. -/
def Ascending {α : Type} (entries : List (String × α)) : Prop :=
  entries.Pairwise fun a b => a.1 < b.1

instance {α : Type} (entries : List (String × α)) : Decidable (Ascending entries) :=
  inferInstanceAs (Decidable (entries.Pairwise fun a b => a.1 < b.1))

namespace Entries

variable {α : Type}

/-- The value of the first entry under `key`. -/
def find? (key : String) : List (String × α) → Option α
  | [] => none
  | (k, v) :: rest => if k = key then some v else find? key rest

/-- Puts `value` under `key`: in place of the entry with that key, else before the first entry
with a greater one. -/
def put (key : String) (value : α) : List (String × α) → List (String × α)
  | [] => [(key, value)]
  | (k, v) :: rest =>
    if key < k then (key, value) :: (k, v) :: rest
    else if key = k then (key, value) :: rest
    else (k, v) :: put key value rest

/-- Drops every entry under `key`. -/
def drop (key : String) (entries : List (String × α)) : List (String × α) :=
  entries.filter fun e => e.1 ≠ key

@[simp] theorem find?_nil (key : String) : find? key ([] : List (String × α)) = none := rfl

theorem find?_cons (key k : String) (v : α) (rest : List (String × α)) :
    find? key ((k, v) :: rest) = if k = key then some v else find? key rest := rfl

theorem find?_append (key : String) (xs ys : List (String × α)) :
    find? key (xs ++ ys) = (find? key xs).or (find? key ys) := by
  induction xs with
  | nil => rfl
  | cons e rest ih =>
    obtain ⟨k, v⟩ := e
    by_cases h : k = key <;> simp [find?, h, ih]

theorem mem_of_find? {key : String} {v : α} {entries : List (String × α)}
    (h : find? key entries = some v) : (key, v) ∈ entries := by
  induction entries with
  | nil => simp at h
  | cons e rest ih =>
    obtain ⟨k, w⟩ := e
    by_cases hk : k = key
    · simp_all [find?]
    · simp only [find?, hk, if_false] at h
      exact List.mem_cons_of_mem _ (ih h)

theorem find?_eq_none_iff {key : String} {entries : List (String × α)} :
    find? key entries = none ↔ ∀ e ∈ entries, e.1 ≠ key := by
  induction entries with
  | nil => simp
  | cons e rest ih =>
    obtain ⟨k, v⟩ := e
    by_cases h : k = key <;> simp [find?, h, ih]

theorem find?_of_mem {key : String} {v : α} {entries : List (String × α)}
    (h : Ascending entries) (hm : (key, v) ∈ entries) : find? key entries = some v := by
  induction entries with
  | nil => simp at hm
  | cons e rest ih =>
    obtain ⟨k, w⟩ := e
    have hp := List.pairwise_cons.1 h
    rcases List.mem_cons.1 hm with heq | hin
    · cases heq
      simp [find?]
    · have hlt : k < key := hp.1 _ hin
      have hne : k ≠ key := fun he => String.lt_irrefl _ (he ▸ hlt)
      simp only [find?, hne, if_false]
      exact ih hp.2 hin

theorem mem_put {key : String} {value : α} {entries : List (String × α)} {e : String × α}
    (h : e ∈ put key value entries) : e = (key, value) ∨ e ∈ entries := by
  induction entries with
  | nil => simpa [put] using h
  | cons d rest ih =>
    obtain ⟨k, v⟩ := d
    simp only [put] at h
    split at h
    · simpa using h
    · split at h
      · rcases List.mem_cons.1 h with h | h
        · exact .inl h
        · exact .inr (List.mem_cons_of_mem _ h)
      · rcases List.mem_cons.1 h with h | h
        · exact .inr (h ▸ List.mem_cons_self)
        · rcases ih h with h | h
          · exact .inl h
          · exact .inr (List.mem_cons_of_mem _ h)

theorem lt_of_not_lt_of_ne {a b : String} (h : ¬ a < b) (hne : a ≠ b) : b < a := by
  by_cases hba : b < a
  · exact hba
  · exact absurd (String.le_antisymm (String.not_lt.1 hba) (String.not_lt.1 h)) hne

theorem ascending_put {key : String} {value : α} {entries : List (String × α)}
    (h : Ascending entries) : Ascending (put key value entries) := by
  induction entries with
  | nil => exact List.pairwise_singleton _ _
  | cons d rest ih =>
    obtain ⟨k, v⟩ := d
    have hp := List.pairwise_cons.1 h
    simp only [put]
    split
    case isTrue hlt =>
      refine List.pairwise_cons.2 ⟨fun e he => ?_, h⟩
      rcases List.mem_cons.1 he with rfl | he
      · exact hlt
      · exact String.lt_trans hlt (hp.1 e he)
    case isFalse hlt =>
      split
      case isTrue heq =>
        subst heq
        exact List.pairwise_cons.2 ⟨hp.1, hp.2⟩
      case isFalse hne =>
        refine List.pairwise_cons.2 ⟨fun e he => ?_, ih hp.2⟩
        rcases mem_put he with rfl | he
        · exact lt_of_not_lt_of_ne hlt hne
        · exact hp.1 e he

theorem find?_put (key : String) (value : α) (entries : List (String × α)) (other : String) :
    find? other (put key value entries) =
      if key = other then some value else find? other entries := by
  induction entries with
  | nil => simp [put, find?]
  | cons d rest ih =>
    obtain ⟨k, v⟩ := d
    simp only [put]
    split
    · simp [find?]
    · split
      case isTrue heq =>
        subst heq
        by_cases ho : key = other <;> simp [find?, ho]
      case isFalse hne =>
        by_cases ho : key = other
        · subst ho
          have : k ≠ key := fun he => hne he.symm
          simp [find?, this, ih]
        · simp [find?, ih, ho]

theorem ascending_drop {key : String} {entries : List (String × α)} (h : Ascending entries) :
    Ascending (drop key entries) :=
  List.Pairwise.filter _ h

theorem find?_drop (key : String) (entries : List (String × α)) (other : String) :
    find? other (drop key entries) = if key = other then none else find? other entries := by
  induction entries with
  | nil => simp [drop]
  | cons d rest ih =>
    obtain ⟨k, v⟩ := d
    by_cases hk : k = key
    · have hd : drop key ((k, v) :: rest) = drop key rest := by simp [drop, hk]
      rw [hd, ih]
      by_cases ho : key = other <;> simp [find?, hk, ho]
    · have hd : drop key ((k, v) :: rest) = (k, v) :: drop key rest := by simp [drop, hk]
      rw [hd, find?_cons, find?_cons, ih]
      by_cases ho : k = other
      · subst ho
        simp [Ne.symm hk]
      · simp [ho]

/-- A key greater than all others goes to the end. -/
theorem put_of_forall_lt {key : String} {value : α} {entries : List (String × α)}
    (h : ∀ e ∈ entries, e.1 < key) : put key value entries = entries ++ [(key, value)] := by
  induction entries with
  | nil => rfl
  | cons d rest ih =>
    obtain ⟨k, v⟩ := d
    have hk : k < key := h _ List.mem_cons_self
    have hne : key ≠ k := fun he => String.lt_irrefl _ (he ▸ hk)
    simp [put, String.lt_asymm hk, hne, ih fun e he => h e (List.mem_cons_of_mem _ he)]

/-- Two ascending lists that answer alike are equal. -/
theorem eq_of_find?_eq {xs ys : List (String × α)} (hx : Ascending xs) (hy : Ascending ys)
    (h : ∀ key, find? key xs = find? key ys) : xs = ys := by
  have sub : ∀ {us vs : List (String × α)}, Ascending us →
      (∀ key, find? key us = find? key vs) → ∀ e ∈ us, e ∈ vs := by
    intro us vs hu hf e he
    exact mem_of_find? (hf e.1 ▸ find?_of_mem hu he)
  induction xs generalizing ys with
  | nil =>
    cases ys with
    | nil => rfl
    | cons e _ => exact absurd (sub hy (fun k => (h k).symm) e List.mem_cons_self) (by simp)
  | cons x xs ih =>
    cases ys with
    | nil => exact absurd (sub hx h x List.mem_cons_self) (by simp)
    | cons y ys =>
      have hxp := List.pairwise_cons.1 hx
      have hyp := List.pairwise_cons.1 hy
      have hxy : x = y := by
        rcases List.mem_cons.1 (sub hx h x List.mem_cons_self) with hxy | hin
        · exact hxy
        · rcases List.mem_cons.1 (sub hy (fun k => (h k).symm) y List.mem_cons_self) with hyx | hin'
          · exact hyx.symm
          · exact absurd (hyp.1 _ hin) (String.lt_asymm (hxp.1 _ hin'))
      subst hxy
      have hfresh : ∀ {zs : List (String × α)}, (∀ e ∈ zs, x.1 < e.1) → find? x.1 zs = none :=
        fun hz => find?_eq_none_iff.2 fun e he heq =>
          String.lt_irrefl _ (heq ▸ hz e he)
      congr 1
      refine ih hxp.2 hyp.2 fun key => ?_
      by_cases hk : x.1 = key
      · subst hk
        rw [hfresh hxp.1, hfresh hyp.1]
      · obtain ⟨k, v⟩ := x
        simpa [find?, hk] using h key

end Entries

/-- A finite map from text to values of type `α`. -/
structure TextMap (α : Type) where
  /-- The entries, in ascending order of their keys. -/
  entries : List (String × α)
  /-- The keys ascend strictly. -/
  ascending : Ascending entries

namespace TextMap

variable {α β : Type}

/-- The map without entries. -/
def empty : TextMap α := ⟨[], List.Pairwise.nil⟩

instance : EmptyCollection (TextMap α) := ⟨empty⟩
instance : Inhabited (TextMap α) := ⟨empty⟩

/-- The value under `key`. -/
def get? (m : TextMap α) (key : String) : Option α :=
  Entries.find? key m.entries

/-- Whether the map has a value under `key`. -/
def contains (m : TextMap α) (key : String) : Bool :=
  (m.get? key).isSome

/-- Puts `value` under `key`, in place of any earlier value. -/
def insert (m : TextMap α) (key : String) (value : α) : TextMap α :=
  ⟨Entries.put key value m.entries, Entries.ascending_put m.ascending⟩

/-- Removes `key`. -/
def erase (m : TextMap α) (key : String) : TextMap α :=
  ⟨Entries.drop key m.entries, Entries.ascending_drop m.ascending⟩

/-- The map of a list of entries; of two entries with one key the later one counts. -/
def ofList (entries : List (String × α)) : TextMap α :=
  entries.foldl (fun m e => m.insert e.1 e.2) empty

/-- The list itself as a map, when its keys ascend strictly. -/
def ofAscending? (entries : List (String × α)) : Option (TextMap α) :=
  if h : Ascending entries then some ⟨entries, h⟩ else none

/-- Whether the map has no entries. -/
def isEmpty (m : TextMap α) : Bool :=
  m.entries.isEmpty

/-- The number of entries. -/
def size (m : TextMap α) : Nat :=
  m.entries.length

/-- The keys, in ascending order. -/
def keys (m : TextMap α) : List String :=
  m.entries.map Prod.fst

/-- Applies `f` to every value. -/
def mapValues (f : α → β) (m : TextMap α) : TextMap β :=
  ⟨m.entries.map fun e => (e.1, f e.2),
    List.pairwise_map.2 (m.ascending.imp fun h => h)⟩

/-- `m` overlaid with `top`: where both have a key, the value of `top` counts. -/
def overlay (m top : TextMap α) : TextMap α :=
  top.entries.foldl (fun m e => m.insert e.1 e.2) m

theorem ext_entries {m n : TextMap α} (h : m.entries = n.entries) : m = n := by
  cases m; cases n; simp_all

instance [DecidableEq α] : DecidableEq (TextMap α) := fun m n =>
  decidable_of_iff (m.entries = n.entries) ⟨ext_entries, fun h => h ▸ rfl⟩

/-- Two maps that answer alike are equal. -/
theorem ext_get? {m n : TextMap α} (h : ∀ key, m.get? key = n.get? key) : m = n :=
  ext_entries (Entries.eq_of_find?_eq m.ascending n.ascending h)

@[simp] theorem get?_empty (key : String) : (∅ : TextMap α).get? key = none := rfl

theorem get?_insert (m : TextMap α) (key : String) (value : α) (other : String) :
    (m.insert key value).get? other = if key = other then some value else m.get? other :=
  Entries.find?_put key value m.entries other

theorem get?_erase (m : TextMap α) (key other : String) :
    (m.erase key).get? other = if key = other then none else m.get? other :=
  Entries.find?_drop key m.entries other

@[simp] theorem get?_insert_self (m : TextMap α) (key : String) (value : α) :
    (m.insert key value).get? key = some value := by
  simp [get?_insert]

@[simp] theorem get?_erase_self (m : TextMap α) (key : String) :
    (m.erase key).get? key = none := by
  simp [get?_erase]

theorem mem_entries_iff {m : TextMap α} {key : String} {value : α} :
    (key, value) ∈ m.entries ↔ m.get? key = some value :=
  ⟨Entries.find?_of_mem m.ascending, Entries.mem_of_find?⟩

theorem entries_foldl_insert {m : TextMap α} {entries : List (String × α)}
    (h : Ascending (m.entries ++ entries)) :
    (entries.foldl (fun m e => m.insert e.1 e.2) m).entries = m.entries ++ entries := by
  induction entries generalizing m with
  | nil => simp
  | cons e rest ih =>
    have hlast : (m.insert e.1 e.2).entries = m.entries ++ [e] :=
      Entries.put_of_forall_lt fun d hd =>
        (List.pairwise_append.1 h).2.2 d hd e List.mem_cons_self
    rw [List.foldl_cons, ih (by simpa [hlast] using h), hlast]
    simp

/-- A list that ascends already is the list of entries of its map. -/
theorem entries_ofList {entries : List (String × α)} (h : Ascending entries) :
    (ofList entries).entries = entries := by
  simpa [ofList, empty] using entries_foldl_insert (m := (empty : TextMap α)) h

theorem mem_entries_foldl_insert {m : TextMap α} {entries : List (String × α)} {e : String × α}
    (h : e ∈ (entries.foldl (fun m e => m.insert e.1 e.2) m).entries) :
    e ∈ m.entries ∨ e ∈ entries := by
  induction entries generalizing m with
  | nil => exact .inl h
  | cons d rest ih =>
    rcases ih h with h | h
    · rcases Entries.mem_put h with h | h
      · exact .inr (h ▸ List.mem_cons_self)
      · exact .inl h
    · exact .inr (List.mem_cons_of_mem _ h)

/-- The entries of a map come from the list it was filled from. -/
theorem mem_of_mem_ofList {entries : List (String × α)} {e : String × α}
    (h : e ∈ (ofList entries).entries) : e ∈ entries := by
  rcases mem_entries_foldl_insert h with h | h
  · exact absurd h (by simp [empty])
  · exact h

@[simp] theorem ofList_entries (m : TextMap α) : ofList m.entries = m :=
  ext_entries (entries_ofList m.ascending)

theorem ofAscending?_entries (m : TextMap α) : ofAscending? m.entries = some m := by
  simp [ofAscending?, m.ascending]

theorem entries_of_ofAscending? {entries : List (String × α)} {m : TextMap α}
    (h : ofAscending? entries = some m) : m.entries = entries := by
  unfold ofAscending? at h
  split at h
  · cases h; rfl
  · simp at h

end TextMap

end Newsroom
