import Newsroom.Proofs.Text.Capitals
import Newsroom.Proofs.Vocabulary.Values
import Newsroom.Reading.Projection

/-!
# Look-ups by name

A look-up by name compares lower-cased texts, and the check for distinct values compares upper-cased
ones. Both leave case aside, but they do not agree: a capital that shares its small letter with
another one, such as the sign for kelvin, makes names that the look-up cannot tell apart and the
check accepts beside each other. Nothing else does: of the active items that a look-up matches, all
but one at most have such a capital in their name (`Vocabulary.namesakes_plain`).
-/

namespace Newsroom

/-- The query for the active item with a name. -/
def ItemQuery.forName (name : String) : ItemQuery := ⟨none, some name, none, some true⟩

theorem ItemQuery.matchesItem_forName {name : String} {i : Item} :
    (ItemQuery.forName name).matchesItem i = true ↔
      ∃ text, i.fieldText "name" = some text ∧ Text.lower text = Text.lower name := by
  rw [matchesItem, forName, nameOf?]
  cases i.fieldText "name" with
  | none => simp
  | some text => simp

/-- Lower case forgets no capital of the item's name. -/
def Item.plainName (i : Item) : Bool :=
  (i.fieldText "name").all fun text => !decide (Text.HasLoneCapital text)

/-- Plain names that agree in lower case agree in upper case, and both are cases of the name that
was looked up. -/
theorem Item.upperText_of_plainName {i : Item} {name : String} (hplain : i.plainName = true)
    (hmatch : (ItemQuery.forName name).matchesItem i = true) :
    i.upperText "name" = some (Text.upper (Text.lower name)) := by
  obtain ⟨text, htext, hlower⟩ := ItemQuery.matchesItem_forName.1 hmatch
  rw [plainName, htext] at hplain
  have hlone : ¬ Text.HasLoneCapital text := by simpa using hplain
  rw [upperText, htext, Option.map_some, ← hlower, Text.upper_lower_iff.2 hlone]

namespace Vocabulary

/-- The active items that a look-up by name matches. -/
def namesakes (v : Vocabulary) (name : String) : List Item :=
  v.items.filter fun i => i.active && (ItemQuery.forName name).matchesItem i

variable {v : Vocabulary} {name text : String}

theorem mem_namesakes {i : Item} : i ∈ v.namesakes name ↔
    i ∈ v.items ∧ i.active = true ∧ (ItemQuery.forName name).matchesItem i = true := by
  simp [namesakes]

/-- The namesakes stand among the active items, in order. -/
theorem namesakes_sublist : (v.namesakes name).Sublist (v.items.filter Item.active) := by
  have hfilter : v.namesakes name =
      (v.items.filter Item.active).filter (ItemQuery.forName name).matchesItem := by
    rw [namesakes, List.filter_filter]
    exact List.filter_congr fun i _ => Bool.and_comm _ _
  rw [hfilter]
  exact List.filter_sublist

/-- Of the items that a look-up matches, one at most has a plain name, if the names passed the
check. -/
theorem length_plain_namesakes (h : checkUniqueness v.items "name" = .ok ()) :
    ((v.namesakes name).filter Item.plainName).length ≤ 1 := by
  have hpairwise : ((v.namesakes name).filter Item.plainName).Pairwise
      fun i j => i.upperText "name" ≠ j.upperText "name" :=
    (checkUniqueness_eq_ok_iff.1 h).distinct.sublist
      (List.filter_sublist.trans namesakes_sublist)
  have hsame : ∀ i ∈ (v.namesakes name).filter Item.plainName,
      i.upperText "name" = some (Text.upper (Text.lower name)) := by
    intro i hi
    obtain ⟨hmem, hplain⟩ := List.mem_filter.1 hi
    exact Item.upperText_of_plainName hplain (mem_namesakes.1 hmem).2.2
  generalize (v.namesakes name).filter Item.plainName = found at hpairwise hsame
  match found, hpairwise, hsame with
  | [], _, _ => exact Nat.zero_le 1
  | [_], _, _ => exact Nat.le_refl 1
  | i :: j :: rest, hpairwise, hsame =>
    obtain ⟨hfirst, -⟩ := List.pairwise_cons.1 hpairwise
    refine absurd ?_ (hfirst j List.mem_cons_self)
    rw [hsame i List.mem_cons_self, hsame j (List.mem_cons_of_mem i List.mem_cons_self)]

/-- A look-up for a name matches it and its own lower case. -/
theorem namesakes_lower (hitems : v.items = [.named text, .named (Text.lower text)]) :
    v.namesakes text = v.items := by
  rw [namesakes, List.filter_eq_self, hitems]
  refine List.forall_mem_cons.2 ⟨?_, List.forall_mem_singleton.2 ?_⟩
  · exact Bool.and_eq_true_iff.2 ⟨rfl, ItemQuery.matchesItem_forName.2 ⟨text, rfl, rfl⟩⟩
  · exact Bool.and_eq_true_iff.2 ⟨rfl, ItemQuery.matchesItem_forName.2
      ⟨Text.lower text, rfl, Text.lower_lower text⟩⟩

/-- Beside its own lower case a name passes the check exactly when it has a lone capital. -/
theorem checkUniqueness_lower_iff :
    checkUniqueness [.named text, .named (Text.lower text)] "name" = .ok () ↔
      Text.HasLoneCapital text := by
  have hnames : [Item.named text, .named (Text.lower text)] =
      [text, Text.lower text].map Item.named := rfl
  have hnodup : ([text, Text.lower text].map Text.upper).Nodup ↔ Text.HasLoneCapital text := by
    have hne : Text.upper text ≠ Text.upper (Text.lower text) ↔ Text.HasLoneCapital text := by
      rw [ne_comm, Ne, Text.upper_lower_iff, not_not]
    simpa using hne
  by_cases htext : text = ""
  · -- the empty name is no value, so it fails the check
    subst htext
    exact iff_of_false (by decide) (by decide)
  · rw [checkUniqueness_eq_ok_iff, hnames, distinctValues_named, hnodup]
    exact List.forall_mem_cons.2
      ⟨htext, List.forall_mem_singleton.2 (Text.lower_ne_empty htext)⟩

/-- **Look-ups by name**: if the names of a vocabulary pass the check, then of the active items that
a look-up by name matches all but one at most have a name with a lone capital; so there is one at
most when no name has such a capital. With it the look-up and the check disagree: a look-up for a
name matches it and its own lower case, but the two fail the check exactly when the name has no lone
capital. -/
theorem namesakes_plain (v : Vocabulary) (name : String) :
    (checkUniqueness v.items "name" = .ok () →
      ((v.namesakes name).filter Item.plainName).length ≤ 1 ∧
      ((∀ i ∈ v.items, i.plainName = true) → (v.namesakes name).length ≤ 1)) ∧
    (v.items = [.named name, .named (Text.lower name)] → v.namesakes name = v.items ∧
      (checkUniqueness v.items "name" = .ok () ↔ Text.HasLoneCapital name)) := by
  refine ⟨fun h => ⟨length_plain_namesakes h, fun hplain => ?_⟩,
    fun hitems => ⟨namesakes_lower hitems, ?_⟩⟩
  · have hall : (v.namesakes name).filter Item.plainName = v.namesakes name :=
      List.filter_eq_self.2 fun i hi => hplain i (mem_namesakes.1 hi).1
    rw [← hall]
    exact length_plain_namesakes h
  · rw [hitems]
    exact checkUniqueness_lower_iff

/-- The sign for kelvin and a small k. -/
def units : Vocabulary :=
  { Vocabulary.new "units" "Units" .manageable with items := [.named "\u212A", .named "k"] }

/-- The units pass the check, a look-up for K matches both, and one of them has a plain name. -/
theorem units_namesakes :
    checkUniqueness units.items "name" = .ok () ∧ units.namesakes "K" = units.items ∧
      units.namesakes "\u212A" = units.items ∧
      ((units.namesakes "K").filter Item.plainName).length ≤ 1 := by
  have hlower : Text.lower "\u212A" = "k" := by decide
  have hitems : units.items = [.named "\u212A", .named (Text.lower "\u212A")] := by
    rw [hlower]
    rfl
  obtain ⟨hboth, hpass⟩ := (namesakes_plain units "\u212A").2 hitems
  have hunique := hpass.2 (by decide)
  exact ⟨hunique, by decide, hboth, ((namesakes_plain units "K").1 hunique).1⟩

/-- A look-up may match two active items although the names passed the check. -/
theorem namesakes_not_unique :
    ¬ ∀ (v : Vocabulary) (name : String), checkUniqueness v.items "name" = .ok () →
      (v.namesakes name).length ≤ 1 := by
  intro h
  have hlength := h units "k" (by decide)
  exact absurd hlength (by decide)

end Vocabulary

end Newsroom
