import Newsroom.Proofs.Vocabulary.Cells
import Newsroom.Reading.Casting
import Newsroom.Reading.Projection

/-!
# What a pass over an item does to one field

Laying a language over an item and casting its fields both go through a list of fields, each of
them named once, and each step changes no field but its own (`Item.field_foldl`). So a pass can be
read field by field: `Item.field_localize` for the language, `Item.field_castFields` for the casts.
A field that an item does not carry is not brought by either pass.
-/

namespace Newsroom

/-! ### Casts -/

namespace Cast

theorem exists_int_of_toInteger? {v w : Json} (h : toInteger? v = some w) :
    ∃ n, w = .number (.int n) := by
  rw [toInteger?.eq_def] at h
  split at h
  · cases h
    exact ⟨_, rfl⟩
  · obtain ⟨n, -, rfl⟩ := Option.map_eq_some_iff.1 h
    exact ⟨n, rfl⟩
  · obtain ⟨n, -, rfl⟩ := Option.map_eq_some_iff.1 h
    exact ⟨.ofInt64 n, rfl⟩
  · cases h

theorem exists_number_of_toNumber? {v w : Json} (h : toNumber? v = some w) :
    ∃ n, w = .number n := by
  rw [toNumber?.eq_def] at h
  split at h
  · cases h
    exact ⟨_, rfl⟩
  · obtain ⟨x, -, rfl⟩ := Option.map_eq_some_iff.1 h
    exact ⟨.double x, rfl⟩
  · cases h

theorem exists_bool_of_flagOf? {isTrue isFalse : Bool} {w : Json}
    (h : flagOf? isTrue isFalse = some w) : ∃ b, w = .bool b := by
  rw [flagOf?] at h
  split at h
  · exact ⟨_, (Option.some.inj h).symm⟩
  · split at h
    · exact ⟨_, (Option.some.inj h).symm⟩
    · cases h

theorem exists_bool_of_toBoolean? {v w : Json} (h : toBoolean? v = some w) :
    ∃ b, w = .bool b := by
  rw [toBoolean?.eq_def] at h
  split at h
  · exact ⟨_, (Option.some.inj h).symm⟩
  · exact exists_bool_of_flagOf? h
  · exact exists_bool_of_flagOf? h
  · cases h

theorem exists_string_of_toText? {v w : Json} (h : toText? v = some w) : ∃ s, w = .string s := by
  rw [toText?.eq_def] at h
  split at h
  · exact ⟨_, (Option.some.inj h).symm⟩
  · exact ⟨_, (Option.some.inj h).symm⟩
  · exact ⟨_, (Option.some.inj h).symm⟩
  · cases h

/-- A cast gives a number, a flag or a text. -/
theorem convert?_cases {c : Cast} {v w : Json} (h : c.convert? v = some w) :
    (∃ n, w = .number n) ∨ (∃ b, w = .bool b) ∨ ∃ s, w = .string s := by
  cases c with
  | integer =>
    obtain ⟨n, rfl⟩ := exists_int_of_toInteger? h
    exact .inl ⟨_, rfl⟩
  | number => exact .inl (exists_number_of_toNumber? h)
  | boolean => exact .inr (.inl (exists_bool_of_toBoolean? h))
  | string => exact .inr (.inr (exists_string_of_toText? h))

/-- What a cast gives, it leaves as it is. -/
theorem convert?_of_convert? {c : Cast} {v w : Json} (h : c.convert? v = some w) :
    c.convert? w = some w := by
  cases c with
  | integer =>
    obtain ⟨n, rfl⟩ := exists_int_of_toInteger? h
    rfl
  | number =>
    obtain ⟨n, rfl⟩ := exists_number_of_toNumber? h
    rfl
  | boolean =>
    obtain ⟨b, rfl⟩ := exists_bool_of_toBoolean? h
    rfl
  | string =>
    obtain ⟨s, rfl⟩ := exists_string_of_toText? h
    rfl

theorem isNull_of_convert? {c : Cast} {v w : Json} (h : c.convert? v = some w) :
    w.isNull = false := by
  rcases convert?_cases h with ⟨n, rfl⟩ | ⟨b, rfl⟩ | ⟨s, rfl⟩ <;> rfl

theorem normal_of_convert? {c : Cast} {v w : Json} (h : c.convert? v = some w) : w.Normal := by
  rcases convert?_cases h with ⟨n, rfl⟩ | ⟨b, rfl⟩ | ⟨s, rfl⟩ <;> trivial

end Cast

namespace Item

/-! ### Passes -/

section Passes

variable {α : Type} {step : Item → String × α → Item} {f : String}

/-- A pass without a step for the field leaves it alone. -/
theorem field_foldl_of_forall_ne (hother : ∀ i e, e.1 ≠ f → (step i e).field f = i.field f)
    {entries : List (String × α)} (h : ∀ e ∈ entries, e.1 ≠ f) (i : Item) :
    (entries.foldl step i).field f = i.field f := by
  induction entries generalizing i with
  | nil => rfl
  | cons e rest ih =>
    obtain ⟨he, hrest⟩ := List.forall_mem_cons.1 h
    rw [List.foldl_cons, ih hrest, hother i e he]

/-- Where every step changes its own field only, a pass over distinct fields leaves a field as its
own step makes it, and as it was if it has no step. -/
theorem field_foldl {change : α → Option Json → Option Json}
    (hother : ∀ i e, e.1 ≠ f → (step i e).field f = i.field f)
    (hself : ∀ i a, (step i (f, a)).field f = change a (i.field f))
    {entries : List (String × α)} (h : (entries.map Prod.fst).Nodup) (i : Item) :
    (entries.foldl step i).field f =
      (Entries.find? f entries).elim (i.field f) fun a => change a (i.field f) := by
  induction entries generalizing i with
  | nil => rfl
  | cons e rest ih =>
    obtain ⟨k, a⟩ := e
    obtain ⟨hk, hrest⟩ := List.nodup_cons.1 (show (k :: rest.map Prod.fst).Nodup from h)
    rw [List.foldl_cons, Entries.find?_cons]
    by_cases hkey : k = f
    · subst hkey
      have hnone : ∀ e ∈ rest, e.1 ≠ k := fun e he heq => hk (List.mem_map.2 ⟨e, he, heq⟩)
      rw [if_pos rfl, field_foldl_of_forall_ne hother hnone]
      exact hself i a
    · rw [if_neg hkey, ih hrest, hother i (k, a) hkey]

end Passes

/-! ### Languages -/

variable {f : String}

theorem field_overlay_of_ne (language : String) (i : Item) (e : String × TextMap Json)
    (h : e.1 ≠ f) : (overlay language i e).field f = i.field f := by
  rw [overlay]
  split
  · exact field_setField_of_ne i h.symm _
  · rfl

/-- What the translations of a field make of its value. -/
def translated (f language : String) (values : TextMap Json) (value : Option Json) : Option Json :=
  match values.get? language with
  | some w => if clears f w then none else some w
  | none => value

theorem field_overlay (language : String) (i : Item) (hf : f ≠ "is_active")
    (values : TextMap Json) :
    (overlay language i (f, values)).field f = translated f language values (i.field f) := by
  cases hw : values.get? language with
  | some w =>
    simp only [overlay, translated, hw]
    exact field_setField i fun h => absurd h hf
  | none => simp only [overlay, translated, hw]

/-- A field of an item in a language: its translation takes its place, if the item carries the
field and the field has one. -/
theorem field_localize (i : Item) (language : String) (hactive : f ≠ "is_active")
    (htranslations : f ≠ "translations") :
    (i.localize language).field f =
      match i.field f, i.translation? f language with
      | some _, some w => if clears f w then none else some w
      | value, _ => value := by
  cases htrans : i.translations with
  | none =>
    simp only [localize, translation?, htrans, Option.bind_none]
    cases i.field f <;> rfl
  | some t =>
    have hkeys := Entries.nodup_of_ascending t.ascending
    rw [localize, htrans]
    dsimp only
    rw [field_foldl (field_overlay_of_ne language) (fun i => field_overlay language i hactive)
      (hkeys.sublist (List.filter_sublist.map _)), Entries.find?_filter hkeys]
    have hfind : Entries.find? f t.entries = t.get? f := rfl
    simp only [hfind, translation?, htrans, Option.bind_some, Translations.value?]
    cases hvalue : i.field f with
    | none => cases t.get? f <;> simp [Option.filter]
    | some v =>
      cases t.get? f with
      | none => rfl
      | some values =>
        simp only [Option.filter, htranslations, ne_eq, not_false_eq_true, decide_true,
          Option.isSome_some, Bool.and_self, if_true, Option.elim_some, Option.bind_some,
          translated]
        cases values.get? language <;> rfl

/-- A field that the item does not carry has no value in any language. -/
theorem field_localize_of_none {i : Item} (h : i.field f = none) (language : String) :
    (i.localize language).field f = none := by
  rw [localize]
  split
  · exact h
  · rw [field_foldl_of_forall_ne (field_overlay_of_ne language), h]
    rintro e he rfl
    simp [h] at he

/-! ### Casts -/

/-- The value of a field after a cast, if it has one. The value stays if the cast is not possible,
or if the field does not take what the cast gives. -/
def castValue (f : String) (cast : Option Cast) (v : Json) : Json :=
  match cast.bind fun c => c.convert? v with
  | some w => if Settable f w then w else v
  | none => v

theorem field_castField_of_ne (i : Item) (e : String × Cast) (h : e.1 ≠ f) :
    (i.castField e).field f = i.field f := by
  rw [castField]
  split
  · exact field_setField_of_ne i h.symm _
  · rfl

theorem field_castField (i : Item) (c : Cast) :
    (i.castField (f, c)).field f = (i.field f).map (castValue f (some c)) := by
  cases hv : i.field f with
  | none => simp [castField, hv]
  | some v =>
    simp only [castField, hv, Option.bind_some, Option.map_some, castValue]
    cases hw : c.convert? v with
    | none => exact hv
    | some w =>
      dsimp only
      have hkeep : clears f w = false := by simp [clears, Cast.isNull_of_convert? hw]
      by_cases hset : Settable f w
      · rw [field_setField i hset, hkeep, if_pos hset]
        rfl
      · rw [setField_of_not_settable i hset, if_neg hset, hv]

/-- A field of an item after its casts. -/
theorem field_castFields (i : Item) (casts : TextMap Cast) :
    (i.castFields casts).field f = (i.field f).map (castValue f (casts.get? f)) := by
  rw [castFields, field_foldl field_castField_of_ne field_castField
    (Entries.nodup_of_ascending casts.ascending), TextMap.get?]
  cases Entries.find? f casts.entries with
  | none => cases i.field f <;> rfl
  | some c => rfl

end Item

end Newsroom
