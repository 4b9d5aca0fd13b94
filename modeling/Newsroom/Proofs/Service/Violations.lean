import Newsroom.Proofs.Service.Links

/-!
# The first violation

A check of items goes through the items, the declared fields and the rules of each field, reads
other vocabularies when it needs them, and stops at the first rule that does not hold. What it comes
to can be said without any order of work: an item may break the declaration of a field by carrying
no value or by carrying one that does not resolve (`Item.Breaks`), and every such violation of a
document has its place (`Violation.In`). If the vocabularies that the document links to can be read,
the check passes exactly when there is no violation, and otherwise names the one that comes before
all others: by item, then by the order of declaration, a missing value before a reference
(`Engine.validateItems_names_first`). What the check remembers of the store makes no difference to
that, whatever the store holds.
-/

namespace Newsroom

/-- What can be wrong with an item at a declared field. -/
inductive Breach where
  /-- It carries no value. -/
  | missing
  /-- Its value does not occur in the vocabulary that values come from. -/
  | unresolved (vocabulary : String) (value : Json)

namespace Breach

/-- A missing value comes before a reference. -/
def rank : Breach → Nat
  | .missing => 0
  | .unresolved _ _ => 1

/-- The error that tells of a breach at a field of the item with the given index. -/
def error (field : String) (index : Nat) : Breach → ValidationError
  | .missing => .missingField field index
  | .unresolved vocabulary value => .unresolvedReference vocabulary field value.text index

end Breach

/-- The item breaks the declaration of a field. -/
def Item.Breaks (t : TextLayer) (s : Store) (uniqueField : Option String) (item : Item)
    (f : String × FieldSpec) : Breach → Prop
  | .missing => (f.2.required = true ∨ uniqueField = some f.1) ∧ item.hasValue f.1 = false
  | .unresolved vocabulary value => ∃ target, f.2.linkVocabulary = some vocabulary ∧
      f.2.linkField = some target ∧ item.filled? f.1 = some value ∧
      ¬ Store.Resolves t s vocabulary target value

/-- A breach with the index of its item and the place of its field among those declared. -/
structure Violation where
  /-- The index of the item. -/
  item : Nat
  /-- The place of the field in the order of declaration. -/
  place : Nat
  /-- The name of the field. -/
  field : String
  /-- What is wrong. -/
  breach : Breach

namespace Violation

/-- The error that tells of the violation. -/
def error (x : Violation) : ValidationError := x.breach.error x.field x.item

/-- The violation is one of the document. -/
def In (t : TextLayer) (s : Store) (v : Vocabulary) (x : Violation) : Prop :=
  ∃ item spec, v.items[x.item]? = some item ∧ v.schema.fields[x.place]? = some (x.field, spec) ∧
    item.Breaks t s v.uniqueField (x.field, spec) x.breach

/-- The one violation comes before the other: by item, then by the order of declaration, a missing
value before a reference. -/
def Before (x y : Violation) : Prop :=
  x.item < y.item ∨ x.item = y.item ∧ (x.place < y.place ∨
    x.place = y.place ∧ x.breach.rank < y.breach.rank)

/-- The violation of the document that comes before all others. -/
structure First (t : TextLayer) (s : Store) (v : Vocabulary) (x : Violation) : Prop where
  mem : x.In t s v
  before : ∀ y : Violation, y.In t s v → y ≠ x → x.Before y

end Violation

theorem Violation.Before.asymm {x y : Violation} (h : x.Before y) : ¬ y.Before x := by
  unfold Before at h ⊢
  omega

theorem Violation.First.unique {t : TextLayer} {s : Store} {v : Vocabulary} {x y : Violation}
    (hx : x.First t s v) (hy : y.First t s v) : x = y := by
  refine Classical.byContradiction fun hne => ?_
  exact (hx.before y hy.mem (Ne.symm hne)).asymm (hy.before x hx.mem hne)

/-- The vocabularies that the fields of the document link to can be read, if they are there. -/
def Vocabulary.LinksRead (t : TextLayer) (s : Store) (v : Vocabulary) : Prop :=
  ∀ f ∈ v.schema.fields, ∀ vocabulary target, f.2.linkVocabulary = some vocabulary →
    f.2.linkField = some target → ∃ found, Store.find t s vocabulary = .ok found

/-! ### Violations of one field -/

section

variable {t : TextLayer} {s : Store} {uniqueField : Option String} {item : Item}
  {f : String × FieldSpec}

theorem FieldSpec.mem_rules_iff {spec : FieldSpec} {name : String} {rule : FieldRule} :
    rule ∈ spec.rules name uniqueField ↔
      rule = .required ∧ spec.required = true ∨ rule = .unique ∧ uniqueField = some name ∨
      (∃ vocabulary target, rule = .link vocabulary target ∧
        spec.linkVocabulary = some vocabulary ∧ spec.linkField = some target) ∨
      ∃ c, rule = .typed c ∧ spec.cast? = some c := by
  have hrequired : (rule ∈ if spec.required = true then [FieldRule.required] else []) ↔
      rule = .required ∧ spec.required = true := by
    split <;> simp_all
  have hunique : (rule ∈ if uniqueField = some name then [FieldRule.unique] else []) ↔
      rule = .unique ∧ uniqueField = some name := by
    split <;> simp_all
  rw [rules, List.mem_append, List.mem_append, List.mem_append, hrequired, hunique, or_assoc,
    or_assoc, link?]
  refine or_congr Iff.rfl (or_congr Iff.rfl (or_congr ?_ ?_))
  · cases spec.linkVocabulary <;> cases spec.linkField <;> simp
  · cases spec.cast? <;> simp

/-- A missing value is no reference, and a field has one link at most: an item breaks the
declaration of a field in one way at most. -/
theorem Item.Breaks.unique {b b' : Breach} (h : item.Breaks t s uniqueField f b)
    (h' : item.Breaks t s uniqueField f b') : b = b' := by
  have hfilled : ∀ value, item.filled? f.1 = some value → item.hasValue f.1 ≠ false := by
    intro value hvalue
    rw [hasValue_eq_isSome, hvalue]
    nofun
  cases b with
  | missing =>
    cases b' with
    | missing => rfl
    | unresolved vocabulary value =>
      obtain ⟨_, -, -, hvalue, -⟩ := h'
      exact absurd h.2 (hfilled value hvalue)
  | unresolved vocabulary value =>
    obtain ⟨_, hvocabulary, -, hvalue, -⟩ := h
    cases b' with
    | missing => exact absurd h'.2 (hfilled value hvalue)
    | unresolved vocabulary' value' =>
      obtain ⟨_, hvocabulary', -, hvalue', -⟩ := h'
      rw [Option.some.inj (hvocabulary.symm.trans hvocabulary'),
        Option.some.inj (hvalue.symm.trans hvalue')]

/-- The rules of one field: what has to be there is there, and what is there resolves. -/
theorem Item.follows_rules_iff (item : Item) (t : TextLayer) (s : Store)
    (uniqueField : Option String) (f : String × FieldSpec) :
    (∀ rule ∈ f.2.rules f.1 uniqueField, item.Follows t s f.1 rule) ↔
    ((f.2.required = true ∨ uniqueField = some f.1) → item.hasValue f.1 = true) ∧
      ∀ vocabulary target value, f.2.linkVocabulary = some vocabulary →
        f.2.linkField = some target → item.filled? f.1 = some value →
        Store.Resolves t s vocabulary target value := by
  refine ⟨fun h => ⟨?_, ?_⟩, ?_⟩
  · rintro (hrequired | hunique)
    · exact h .required (FieldSpec.mem_rules_iff.2 (.inl ⟨rfl, hrequired⟩))
    · exact h .unique (FieldSpec.mem_rules_iff.2 (.inr (.inl ⟨rfl, hunique⟩)))
  · intro vocabulary target value hvocabulary htarget hvalue
    exact h (.link vocabulary target) (FieldSpec.mem_rules_iff.2
      (.inr (.inr (.inl ⟨vocabulary, target, rfl, hvocabulary, htarget⟩)))) value hvalue
  · rintro ⟨hpresence, hlinks⟩ rule hrule
    rcases FieldSpec.mem_rules_iff.1 hrule with ⟨rfl, hrequired⟩ | ⟨rfl, hunique⟩ |
      ⟨vocabulary, target, rfl, hvocabulary, htarget⟩ | ⟨c, rfl, -⟩
    · exact hpresence (.inl hrequired)
    · exact hpresence (.inr hunique)
    · exact fun value hvalue => hlinks vocabulary target value hvocabulary htarget hvalue
    · trivial

/-- An item that follows the rules of a field does not break its declaration. -/
theorem Item.not_breaks (h : ∀ rule ∈ f.2.rules f.1 uniqueField, item.Follows t s f.1 rule)
    (b : Breach) : ¬ item.Breaks t s uniqueField f b := by
  obtain ⟨hpresence, hlinks⟩ := (item.follows_rules_iff t s uniqueField f).1 h
  cases b with
  | missing =>
    rintro ⟨hasked, hmissing⟩
    rw [hpresence hasked] at hmissing
    cases hmissing
  | unresolved vocabulary value =>
    rintro ⟨target, hvocabulary, htarget, hvalue, hresolves⟩
    exact hresolves (hlinks vocabulary target value hvocabulary htarget hvalue)

/-- A violation is the first one if no item before its own and no field before its own has one. -/
theorem Violation.first_of_not_breaks {v : Vocabulary} {i place : Nat} {field : String}
    {spec : FieldSpec} {b : Breach} (hitem : v.items[i]? = some item)
    (hfield : v.schema.fields[place]? = some (field, spec))
    (hbreaks : item.Breaks t s v.uniqueField (field, spec) b)
    (hitems : ∀ j < i, ∀ item', v.items[j]? = some item' → ∀ f ∈ v.schema.fields, ∀ b',
      ¬ item'.Breaks t s v.uniqueField f b')
    (hfields : ∀ k < place, ∀ f, v.schema.fields[k]? = some f → ∀ b',
      ¬ item.Breaks t s v.uniqueField f b') :
    (⟨i, place, field, b⟩ : Violation).First t s v := by
  refine ⟨⟨item, spec, hitem, hfield, hbreaks⟩, ?_⟩
  rintro ⟨j, k, field', b'⟩ ⟨item', spec', hitem', hfield', hbreaks'⟩ hne
  dsimp only at hitem' hfield' hbreaks'
  rcases Nat.lt_trichotomy j i with hlt | rfl | hlt
  · exact absurd hbreaks' (hitems j hlt item' hitem' _ (List.mem_of_getElem? hfield') b')
  · obtain rfl := Option.some.inj (hitem.symm.trans hitem')
    rcases Nat.lt_trichotomy k place with hlt | rfl | hlt
    · exact absurd hbreaks' (hfields k hlt _ hfield' b')
    · cases Option.some.inj (hfield.symm.trans hfield')
      cases hbreaks.unique hbreaks'
      exact absurd rfl hne
    · exact .inr ⟨rfl, .inl hlt⟩
  · exact .inl hlt

theorem Violation.In.not_followsRules {v : Vocabulary} {x : Violation} (hx : x.In t s v) :
    ¬ v.FollowsRules t s := by
  obtain ⟨item, spec, hitem, hfield, hbreaks⟩ := hx
  exact fun h => Item.not_breaks
    (h item (List.mem_of_getElem? hitem) _ (List.mem_of_getElem? hfield)) _ hbreaks

end

/-! ### Answers in order -/

section

variable {ε α : Type}

theorem mem_of_firstFailure {answers : List (Except ε Unit)} {err : ε}
    (h : firstFailure answers = .error err) : .error err ∈ answers := by
  induction answers with
  | nil => cases h
  | cons answer rest ih =>
    cases answer with
    | ok _ => exact List.mem_cons_of_mem _ (ih h)
    | error err' =>
      cases h
      exact List.mem_cons_self

theorem firstFailure_append (xs ys : List (Except ε Unit)) :
    firstFailure (xs ++ ys) = match firstFailure xs with
      | .ok _ => firstFailure ys
      | .error err => .error err := by
  induction xs with
  | nil => rfl
  | cons x xs ih =>
    cases x with
    | ok _ => exact ih
    | error err => rfl

theorem firstFailure_flatMap_eq_ok_iff {f : α → List (Except ε Unit)} {xs : List α} :
    firstFailure (xs.flatMap f) = .ok () ↔ ∀ x ∈ xs, firstFailure (f x) = .ok () := by
  simp only [firstFailure_eq_ok_iff, List.forall_mem_flatMap]

/-- The first failure among answers about the elements of a list is about the first element with
one. -/
theorem exists_of_firstFailure_flatMap {f : α → List (Except ε Unit)} {xs : List α} {err : ε}
    (h : firstFailure (xs.flatMap f) = .error err) :
    ∃ (i : Nat) (x : α), xs[i]? = some x ∧ firstFailure (f x) = .error err ∧
      ∀ j < i, ∀ y, xs[j]? = some y → firstFailure (f y) = .ok () := by
  induction xs with
  | nil => cases h
  | cons x xs ih =>
    rw [List.flatMap_cons, firstFailure_append] at h
    cases hx : firstFailure (f x) with
    | error err' =>
      rw [hx] at h
      cases h
      exact ⟨0, x, rfl, hx, fun j hj => absurd hj (Nat.not_lt_zero j)⟩
    | ok _ =>
      rw [hx] at h
      obtain ⟨i, y, hy, hfail, hbefore⟩ := ih h
      refine ⟨i + 1, y, hy, hfail, fun j hj z hz => ?_⟩
      cases j with
      | zero =>
        cases hz
        exact hx
      | succ j => exact hbefore j (Nat.lt_of_succ_lt_succ hj) z hz

end

/-! ### Answers and violations -/

section

variable {t : TextLayer} {s : Store} {uniqueField : Option String} {item : Item} {index : Nat}
  {f : String × FieldSpec} {err : ServiceError}

/-- If the vocabulary can be read, a link only fails for a value that does not resolve. -/
theorem Store.of_linkAnswer_eq_error {vocabulary target field : String} {value : Json}
    {found : Option Vocabulary} (hfound : find t s vocabulary = .ok found)
    (h : linkAnswer t s vocabulary target field value index = .error err) :
    ¬ Resolves t s vocabulary target value ∧
      err = .validation (.unresolvedReference vocabulary field value.text index) := by
  refine ⟨fun hresolves => ?_, ?_⟩
  · rw [linkAnswer_eq_ok_iff.2 hresolves] at h
    cases h
  · rw [linkAnswer, itemsOf, hfound] at h
    simp only [Except.map] at h
    split at h
    case isTrue => cases h
    case isFalse =>
      cases h
      rfl

theorem Item.of_presence_eq_error {field : String}
    (h : (if item.hasValue field then (.ok () : Except ServiceError Unit)
      else .error (.validation (.missingField field index))) = .error err) :
    item.hasValue field = false ∧ err = .validation (Breach.missing.error field index) := by
  cases hvalue : item.hasValue field with
  | true =>
    rw [hvalue] at h
    cases h
  | false =>
    rw [hvalue] at h
    cases h
    exact ⟨rfl, rfl⟩

theorem Item.not_breaks_of_fieldAnswers
    (h : firstFailure (item.fieldAnswers t s uniqueField index f) = .ok ()) (b : Breach) :
    ¬ item.Breaks t s uniqueField f b := by
  refine not_breaks (fun rule hrule => ?_) b
  exact ruleAnswer_eq_ok_iff.1 (firstFailure_eq_ok_iff.1 h _ (List.mem_map_of_mem hrule))

/-- If the vocabulary that values come from can be read, a failure is a breach. -/
theorem Item.breaks_of_fieldAnswers
    (hread : ∀ vocabulary target, f.2.linkVocabulary = some vocabulary →
      f.2.linkField = some target → ∃ found, Store.find t s vocabulary = .ok found)
    (h : firstFailure (item.fieldAnswers t s uniqueField index f) = .error err) :
    ∃ b, item.Breaks t s uniqueField f b ∧ err = .validation (b.error f.1 index) := by
  obtain ⟨rule, hrule, hanswer⟩ := List.mem_map.1 (mem_of_firstFailure h)
  rcases FieldSpec.mem_rules_iff.1 hrule with ⟨rfl, hasked⟩ | ⟨rfl, hasked⟩ |
    ⟨vocabulary, target, rfl, hvocabulary, htarget⟩ | ⟨c, rfl, -⟩
  · obtain ⟨hmissing, rfl⟩ := of_presence_eq_error hanswer
    exact ⟨.missing, ⟨.inl hasked, hmissing⟩, rfl⟩
  · obtain ⟨hmissing, rfl⟩ := of_presence_eq_error hanswer
    exact ⟨.missing, ⟨.inr hasked, hmissing⟩, rfl⟩
  · rw [ruleAnswer] at hanswer
    cases hfilled : item.filled? f.1 with
    | none =>
      rw [hfilled] at hanswer
      cases hanswer
    | some value =>
      rw [hfilled] at hanswer
      obtain ⟨found, hfound⟩ := hread vocabulary target hvocabulary htarget
      obtain ⟨hresolves, rfl⟩ := Store.of_linkAnswer_eq_error hfound hanswer
      exact ⟨.unresolved vocabulary value, ⟨target, hvocabulary, htarget, hfilled, hresolves⟩, rfl⟩
  · cases hanswer

end

namespace Engine

variable {e : Engine} {s : Store} {v : Vocabulary}

/-- A check that fails tells of the first violation. -/
theorem exists_first {err : ServiceError} (hread : v.LinksRead e.text s)
    (h : (e.validateItems s v).result = .error err) :
    ∃ x : Violation, x.First e.text s v ∧ err = .validation x.error := by
  rw [result_validateItems, Vocabulary.ruleAnswers] at h
  -- the first item with a failure, and of its fields the first with one
  obtain ⟨i, ⟨item, index⟩, hat, h, hitems⟩ := exists_of_firstFailure_flatMap h
  obtain ⟨place, ⟨field, spec⟩, hfield, h, hfields⟩ := exists_of_firstFailure_flatMap h
  obtain ⟨b, hbreaks, rfl⟩ :=
    Item.breaks_of_fieldAnswers (hread _ (List.mem_of_getElem? hfield)) h
  obtain ⟨hitem, rfl⟩ : v.items[i]? = some item ∧ i = index := by
    rw [List.getElem?_zipIdx, Nat.zero_add] at hat
    obtain ⟨_, hitem, heq⟩ := Option.map_eq_some_iff.1 hat
    cases heq
    exact ⟨hitem, rfl⟩
  refine ⟨⟨i, place, field, b⟩, Violation.first_of_not_breaks hitem hfield hbreaks ?_ ?_, rfl⟩
  · intro j hlt item' hitem' f hf
    have hall := hitems j hlt (item', j) (by rw [List.getElem?_zipIdx, hitem', Nat.zero_add]; rfl)
    exact Item.not_breaks_of_fieldAnswers (firstFailure_flatMap_eq_ok_iff.1 hall f hf)
  · intro k hlt f hf
    exact Item.not_breaks_of_fieldAnswers (hfields k hlt f hf)

/-- **What a check of items answers**: if the vocabularies that are linked to can be read, it passes
exactly when every item carries what is required and every reference resolves in the store, and
otherwise it tells of the first violation. Whatever the store holds, the answer is the first failure
among what the rules come to when every vocabulary is looked up in the store. -/
theorem validateItems_names_first (e : Engine) (s : Store) (v : Vocabulary) :
    (v.LinksRead e.text s →
      ((e.validateItems s v).result = .ok () ↔ ∀ item ∈ v.items, ∀ f ∈ v.schema.fields,
        ((f.2.required = true ∨ v.uniqueField = some f.1) → item.hasValue f.1 = true) ∧
        ∀ vocabulary target value, f.2.linkVocabulary = some vocabulary →
          f.2.linkField = some target → item.filled? f.1 = some value →
          Store.Resolves e.text s vocabulary target value) ∧
      ∀ err, (e.validateItems s v).result = .error err ↔
        ∃ x : Violation, x.First e.text s v ∧ err = .validation x.error) ∧
    (e.validateItems s v).result = firstFailure (v.ruleAnswers e.text s) := by
  have hrules := forall₂_congr fun item (_ : item ∈ v.items) => forall₂_congr
    fun f (_ : f ∈ v.schema.fields) => item.follows_rules_iff e.text s v.uniqueField f
  refine ⟨fun hread => ⟨validateItems_eq_ok_iff.trans hrules, fun err =>
    ⟨exists_first hread, ?_⟩⟩, result_validateItems⟩
  rintro ⟨x, hx, rfl⟩
  cases hresult : (e.validateItems s v).result with
  | ok _ => exact absurd (validateItems_eq_ok_iff.1 hresult) hx.mem.not_followsRules
  | error err =>
    obtain ⟨y, hy, rfl⟩ := exists_first hread hresult
    rw [hx.unique hy]

/-- Venues with a city, a kind that is required and an owner. The first of them is in order; the
second lacks its kind and has a city and an owner that nobody knows; the third lacks its kind. -/
def venues : Vocabulary :=
  { Vocabulary.new "venues" "Venues" .manageable with
    items := [
      { Item.named "Forum" with extra := TextMap.ofList [("city", .string "1"),
        ("kind", .string "town")] },
      { Item.named "Circus" with extra := TextMap.ofList [("city", .string "7"),
        ("owner", .string "Nero")] },
      Item.named "Baths"]
    schema := Schema.ofList
      [("city", .ofLink "places" "qcode"),
        ("kind", { FieldSpec.ofLink "kinds" "name" with required := true }),
        ("owner", .ofLink "firms" "name")] }

theorem fields_venues : venues.schema.fields = [("city", .ofLink "places" "qcode"),
    ("kind", { FieldSpec.ofLink "kinds" "name" with required := true }),
    ("owner", .ofLink "firms" "name")] := by decide

/-- The places and their kinds can be read, and there are no firms. -/
theorem linksRead_venues : venues.LinksRead .json ((ofConfig .default).run placesAndKinds ∅) := by
  have hfirms : Store.find .json ((ofConfig .default).run placesAndKinds ∅) "firms" = .ok none := by
    obtain ⟨-, -, -, hstore⟩ := Store.insertAll_eq_ok_iff.1 insertAll_placesAndKinds
    rw [← hstore]
    rfl
  intro f hf vocabulary target hvocabulary htarget
  rw [fields_venues] at hf
  simp only [List.mem_cons, List.not_mem_nil, or_false] at hf
  rcases hf with rfl | rfl | rfl
  · cases hvocabulary
    exact ⟨_, find_places⟩
  · cases hvocabulary
    exact ⟨_, find_kinds⟩
  · cases hvocabulary
    exact ⟨_, hfirms⟩

/-- The first venue breaks no declaration. -/
theorem forum_not_breaks {item : Item} (hitem : venues.items[0]? = some item) :
    ∀ f ∈ venues.schema.fields, ∀ b, ¬ item.Breaks .json ((ofConfig .default).run placesAndKinds ∅)
      venues.uniqueField f b := by
  intro f hf
  cases hitem
  refine Item.not_breaks ((Item.follows_rules_iff _ _ _ _ f).2 ?_)
  rw [fields_venues] at hf
  simp only [List.mem_cons, List.not_mem_nil, or_false] at hf
  rcases hf with rfl | rfl | rfl
  · refine ⟨fun _ => rfl, ?_⟩
    rintro _ _ _ ⟨⟩ ⟨⟩ ⟨⟩
    exact ⟨_, find_places, _, List.mem_cons_self, .string "1", rfl, by decide⟩
  · refine ⟨fun _ => rfl, ?_⟩
    rintro _ _ _ ⟨⟩ ⟨⟩ ⟨⟩
    exact ⟨_, find_kinds, _, List.mem_singleton_self _, .string "town", rfl, by decide⟩
  · refine ⟨?_, ?_⟩
    · rintro (hrequired | hunique)
      · cases hrequired
      · cases hunique
    · rintro _ _ _ - - ⟨⟩

/-- The city of the second venue comes before all else that is wrong. -/
theorem first_venues : (⟨1, 0, "city", .unresolved "places" (.string "7")⟩ : Violation).First
    .json ((ofConfig .default).run placesAndKinds ∅) venues := by
  have hcity : ¬ Store.Resolves .json ((ofConfig .default).run placesAndKinds ∅) "places" "qcode"
      (.string "7") := by
    rw [Store.resolves_iff]
    rintro ⟨items, hitems, hvalue⟩
    rw [Store.itemsOf_of_find find_places] at hitems
    cases hitems
    exact absurd (Item.any_same_iff.2 hvalue) (by decide)
  refine Violation.first_of_not_breaks rfl rfl ⟨"qcode", rfl, rfl, rfl, hcity⟩ ?_ nofun
  intro j hj item hitem
  obtain rfl : j = 0 := Nat.lt_one_iff.1 hj
  exact forum_not_breaks hitem

/-- Where no place has the code 7 and there are no firms, it is the city of the second
venue that is told of. -/
theorem venues_refused : venues.LinksRead .json ((ofConfig .default).run placesAndKinds ∅) ∧
    ((ofConfig .default).validateItems ((ofConfig .default).run placesAndKinds ∅) venues).result =
      .error (.validation (.unresolvedReference "places" "city" "7" 1)) := by
  obtain ⟨-, htells⟩ := (validateItems_names_first (ofConfig .default)
    ((ofConfig .default).run placesAndKinds ∅) venues).1 linksRead_venues
  exact ⟨linksRead_venues, (htells _).2 ⟨_, first_venues, rfl⟩⟩

end Engine

end Newsroom
