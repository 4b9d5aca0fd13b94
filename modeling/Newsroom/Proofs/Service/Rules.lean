import Newsroom.Proofs.Vocabulary.Values
import Newsroom.Service.Validation

/-!
# What the rules of a schema ask of items

A check of items reads the vocabularies that values are linked to from the store, each of them
once. What it has read is what the store has (`References.Faithful`), so what was read for earlier
rules does not matter to the answer: it is the first failure among what the rules come to with every
vocabulary looked up in the store (`Engine.result_validateItems`). The check passes exactly when
every rule of the schema holds of every item in the store (`Engine.validateItems_eq_ok_iff`).
-/

namespace Newsroom

namespace Store

/-- The items of the active vocabulary under a key; a missing vocabulary has none. -/
def itemsOf (t : TextLayer) (s : Store) (id : String) : Except StoreError (List Item) :=
  (find t s id).map fun found => (found.map Vocabulary.items).getD []

/-- Some item of the active vocabulary has the value in the field `target`. -/
def Resolves (t : TextLayer) (s : Store) (vocabulary target : String) (value : Json) : Prop :=
  ∃ w, find t s vocabulary = .ok (some w) ∧
    ∃ other ∈ w.items, ∃ x, other.field target = some x ∧ x.same value = true

variable {t : TextLayer} {s : Store} {id : String}

theorem itemsOf_of_find {v : Vocabulary} (h : find t s id = .ok (some v)) :
    itemsOf t s id = .ok v.items := by
  rw [itemsOf, h]
  rfl

theorem itemsOf_of_none (h : find t s id = .ok none) : itemsOf t s id = .ok [] := by
  rw [itemsOf, h]
  rfl

/-- A value resolves exactly when the items can be read and one of them has it. -/
theorem resolves_iff {target : String} {value : Json} : Resolves t s id target value ↔
    ∃ items, itemsOf t s id = .ok items ∧
      ∃ other ∈ items, ∃ x, other.field target = some x ∧ x.same value = true := by
  constructor
  · rintro ⟨w, hfind, hvalue⟩
    exact ⟨w.items, itemsOf_of_find hfind, hvalue⟩
  · rintro ⟨items, hitems, hvalue⟩
    cases hfind : find t s id with
    | error err =>
      rw [itemsOf, hfind] at hitems
      cases hitems
    | ok found =>
      cases found with
      | none =>
        rw [itemsOf_of_none hfind] at hitems
        cases hitems
        obtain ⟨other, hmem, -⟩ := hvalue
        cases hmem
      | some w =>
        rw [itemsOf_of_find hfind] at hitems
        cases hitems
        exact ⟨w, hfind, hvalue⟩

end Store

/-! ### Vocabularies that were read -/

namespace References

variable {t : TextLayer} {s : Store} {refs : References}

/-- What was read is what the store has. -/
def Faithful (t : TextLayer) (s : Store) (refs : References) : Prop :=
  ∀ id items, Entries.find? id refs.loaded = some items → Store.itemsOf t s id = .ok items

theorem faithful_none : References.none.Faithful t s := by
  intro id items h
  cases h

/-- From what the store has, looking a vocabulary up gives its items and again what the store
has. -/
theorem Faithful.resolve (h : refs.Faithful t s) (id : String) :
    (References.resolve t s refs id).1 = Store.itemsOf t s id ∧
      (References.resolve t s refs id).2.Faithful t s := by
  rw [References.resolve]
  cases hloaded : Entries.find? id refs.loaded with
  | some items => exact ⟨(h id items hloaded).symm, h⟩
  | none =>
    dsimp only
    cases hfind : Store.find t s id with
    | error err =>
      refine ⟨?_, h⟩
      rw [Store.itemsOf, hfind]
      rfl
    | ok found =>
      have hitems : Store.itemsOf t s id = .ok ((found.map Vocabulary.items).getD []) := by
        rw [Store.itemsOf, hfind]
        rfl
      refine ⟨?_, fun other items hother => ?_⟩
      · rw [hitems]
        cases found <;> rfl
      · rw [Entries.find?_cons] at hother
        split at hother
        case isTrue heq =>
          cases hother
          rw [← heq, hitems]
          cases found <;> rfl
        case isFalse => exact h other items hother

end References

/-! ### Checks in sequence -/

/-- The first failure among answers. -/
def firstFailure {ε : Type} : List (Except ε Unit) → Except ε Unit
  | [] => .ok ()
  | .ok _ :: rest => firstFailure rest
  | .error err :: _ => .error err

theorem firstFailure_eq_ok_iff {ε : Type} {answers : List (Except ε Unit)} :
    firstFailure answers = .ok () ↔ ∀ answer ∈ answers, answer = .ok () := by
  induction answers with
  | nil => exact iff_of_true rfl (List.forall_mem_nil _)
  | cons answer rest ih =>
    rw [List.forall_mem_cons, ← ih]
    cases answer with
    | ok _ => exact (and_iff_right rfl).symm
    | error err => exact iff_of_false nofun fun h => nomatch h.1

namespace Check

variable {t : TextLayer} {s : Store}

/-- What the check answers when nothing was read before it. -/
def alone (c : Check) : Except ServiceError Unit := (c References.none).1

/-- From what the store has, the check answers as it does alone, and leaves what the store has. -/
def Steady (t : TextLayer) (s : Store) (c : Check) : Prop :=
  ∀ refs : References, refs.Faithful t s → (c refs).1 = c.alone ∧ (c refs).2.Faithful t s

/-- Steady checks in a row answer with the first failure among their answers alone: what one of
them has read does not matter to the next. -/
theorem all_eq_firstFailure {cs : List Check} (h : ∀ c ∈ cs, c.Steady t s) {refs : References}
    (hrefs : refs.Faithful t s) : (all cs refs).1 = firstFailure (cs.map alone) := by
  induction cs generalizing refs with
  | nil => rfl
  | cons c cs ih =>
    obtain ⟨hc, hcs⟩ := List.forall_mem_cons.1 h
    obtain ⟨hanswer, hfaithful⟩ := hc refs hrefs
    rw [all, andThen, List.map_cons, ← hanswer]
    split
    case h_1 refs' hrun =>
      rw [hrun] at hfaithful ⊢
      exact ih hcs hfaithful
    case h_2 err refs' hrun => rw [hrun, firstFailure]

end Check

/-! ### Rules -/

/-- The search for a value among items. -/
theorem Item.any_same_iff {items : List Item} {target : String} {value : Json} :
    (items.any fun other => match other.field target with
      | some v => v.same value
      | none => false) = true ↔
    ∃ other ∈ items, ∃ x, other.field target = some x ∧ x.same value = true := by
  rw [List.any_eq_true]
  refine exists_congr fun other => and_congr_right fun _ => ?_
  cases other.field target <;> simp

/-- What the store says about a value that has to occur in the field `target` of some item of a
vocabulary. -/
def Store.linkAnswer (t : TextLayer) (s : Store) (vocabulary target field : String) (value : Json)
    (index : Nat) : Except ServiceError Unit :=
  match itemsOf t s vocabulary with
  | .error err => .error (.ofStore err)
  | .ok items =>
    if items.any fun other => match other.field target with
      | some v => v.same value
      | none => false
    then .ok ()
    else .error (.validation (.unresolvedReference vocabulary field value.text index))

theorem Store.linkAnswer_eq_ok_iff {t : TextLayer} {s : Store} {vocabulary target field : String}
    {value : Json} {index : Nat} : linkAnswer t s vocabulary target field value index = .ok () ↔
      Resolves t s vocabulary target value := by
  rw [linkAnswer, resolves_iff]
  cases itemsOf t s vocabulary with
  | error err => simp
  | ok items => simp [← Item.any_same_iff]

/-- What a rule about a field asks of an item. -/
def Item.Follows (t : TextLayer) (s : Store) (item : Item) (field : String) : FieldRule → Prop
  | .required | .unique => item.hasValue field = true
  | .link vocabulary target =>
    ∀ value, item.filled? field = some value → Store.Resolves t s vocabulary target value
  | .typed _ => True

/-- What a rule about a field of an item comes to when vocabularies are looked up in the store. -/
def Item.ruleAnswer (t : TextLayer) (s : Store) (item : Item) (index : Nat) (field : String) :
    FieldRule → Except ServiceError Unit
  | .required | .unique =>
    if item.hasValue field then .ok () else .error (.validation (.missingField field index))
  | .link vocabulary target =>
    match item.filled? field with
    | none => .ok ()
    | some value => Store.linkAnswer t s vocabulary target field value index
  | .typed _ => .ok ()

/-- A rule comes to success exactly when it holds. -/
theorem Item.ruleAnswer_eq_ok_iff {t : TextLayer} {s : Store} {item : Item} {index : Nat}
    {field : String} {rule : FieldRule} : item.ruleAnswer t s index field rule = .ok () ↔
      item.Follows t s field rule := by
  cases rule with
  | required | unique => simp [ruleAnswer, Follows]
  | typed cast => exact iff_of_true rfl trivial
  | link vocabulary target =>
    rw [ruleAnswer, Follows]
    cases item.filled? field with
    | none => exact iff_of_true rfl nofun
    | some value => simp [Store.linkAnswer_eq_ok_iff]

/-- What the rules of a declared field come to, in order. -/
def Item.fieldAnswers (t : TextLayer) (s : Store) (uniqueField : Option String) (item : Item)
    (index : Nat) (f : String × FieldSpec) : List (Except ServiceError Unit) :=
  (f.2.rules f.1 uniqueField).map fun rule => item.ruleAnswer t s index f.1 rule

/-- What all rules come to: item by item, and for each in the order of declaration. -/
def Vocabulary.ruleAnswers (t : TextLayer) (s : Store) (v : Vocabulary) :
    List (Except ServiceError Unit) :=
  v.items.zipIdx.flatMap fun i => v.schema.fields.flatMap fun f =>
    i.1.fieldAnswers t s v.uniqueField i.2 f

namespace Vocabulary

variable {t : TextLayer} {s : Store} {v : Vocabulary}

/-- Every rule of the schema holds of every item. -/
def FollowsRules (t : TextLayer) (s : Store) (v : Vocabulary) : Prop :=
  ∀ item ∈ v.items, ∀ f ∈ v.schema.fields, ∀ rule ∈ f.2.rules f.1 v.uniqueField,
    item.Follows t s f.1 rule

/-- Every value that an item has under a field with a link is related to that link. -/
def LinksHold (R : String → String → Json → Prop) (v : Vocabulary) : Prop :=
  ∀ item ∈ v.items, ∀ f ∈ v.schema.fields, ∀ vocabulary target,
    f.2.linkVocabulary = some vocabulary → f.2.linkField = some target →
    ∀ value, item.filled? f.1 = some value → R vocabulary target value

/-- A document that follows its rules carries what its schema requires. -/
theorem FollowsRules.carriesRequired (h : v.FollowsRules t s) : v.CarriesRequired := by
  intro f hf hrequired item hitem
  refine h item hitem f hf .required ?_
  simp [FieldSpec.rules, hrequired]

/-- A document that follows its rules carries its unique field, if that is declared. -/
theorem FollowsRules.carriesUnique (h : v.FollowsRules t s) : v.CarriesUnique := by
  intro field hfield hdeclared item hitem
  obtain ⟨f, hf, hname⟩ := List.any_eq_true.1 hdeclared
  obtain rfl : f.1 = field := of_decide_eq_true hname
  refine h item hitem f hf .unique ?_
  simp [FieldSpec.rules, hfield]

/-- The links of a document that follows its rules resolve in the store. -/
theorem FollowsRules.linksHold (h : v.FollowsRules t s) : v.LinksHold (Store.Resolves t s) := by
  intro item hitem f hf vocabulary target hvocabulary htarget
  refine h item hitem f hf (.link vocabulary target) ?_
  simp [FieldSpec.rules, FieldSpec.link?, hvocabulary, htarget]

end Vocabulary

namespace Engine

variable {e : Engine} {s : Store} {v : Vocabulary}

/-- The check of a rule answers what the rule comes to, whatever was read before, and leaves what
the store has. -/
theorem checkRule_eq (item : Item) (index : Nat) (field : String) (rule : FieldRule)
    {refs : References} (hrefs : refs.Faithful e.text s) :
    (e.checkRule s item index field rule refs).1 = item.ruleAnswer e.text s index field rule ∧
      (e.checkRule s item index field rule refs).2.Faithful e.text s := by
  cases rule with
  | required | unique =>
    rw [checkRule, Item.ruleAnswer]
    split
    · exact ⟨rfl, hrefs⟩
    · exact ⟨rfl, hrefs⟩
  | typed cast => exact ⟨rfl, hrefs⟩
  | link vocabulary target =>
    rw [checkRule, Item.ruleAnswer]
    cases item.filled? field with
    | none => exact ⟨rfl, hrefs⟩
    | some value =>
      obtain ⟨hread, hfaithful⟩ := hrefs.resolve vocabulary
      dsimp only
      rw [Store.linkAnswer, ← hread]
      cases hrun : References.resolve e.text s refs vocabulary with
      | mk read refs' =>
        rw [hrun] at hfaithful
        cases read with
        | error err => exact ⟨rfl, hfaithful⟩
        | ok items =>
          dsimp only
          rw [apply_ite Prod.fst, apply_ite Prod.snd, ite_self]
          exact ⟨rfl, hfaithful⟩

theorem alone_checkRule (item : Item) (index : Nat) (field : String) (rule : FieldRule) :
    (e.checkRule s item index field rule).alone = item.ruleAnswer e.text s index field rule :=
  (checkRule_eq item index field rule References.faithful_none).1

theorem steady_checkRule (item : Item) (index : Nat) (field : String) (rule : FieldRule) :
    (e.checkRule s item index field rule).Steady e.text s := by
  intro refs hrefs
  obtain ⟨hanswer, hfaithful⟩ := checkRule_eq (e := e) item index field rule hrefs
  exact ⟨hanswer.trans (alone_checkRule item index field rule).symm, hfaithful⟩

/-- What is read for one rule does not matter to another: a check of items answers with the first
failure among what the rules come to. -/
theorem result_validateItems :
    (e.validateItems s v).result = firstFailure (v.ruleAnswers e.text s) := by
  have hsteady : ∀ c ∈ e.candidateChecks s v, c.Steady e.text s := by
    intro c hc
    obtain ⟨i, -, hc⟩ := List.mem_flatMap.1 hc
    obtain ⟨f, -, hc⟩ := List.mem_flatMap.1 hc
    obtain ⟨rule, -, rfl⟩ := List.mem_map.1 hc
    exact steady_checkRule i.1 i.2 f.1 rule
  have hanswers : (e.candidateChecks s v).map Check.alone = v.ruleAnswers e.text s := by
    simp only [candidateChecks, itemChecks, List.map_flatMap, List.map_map,
      Vocabulary.ruleAnswers, Item.fieldAnswers, Function.comp_def, alone_checkRule]
  rw [validateItems, ← hanswers, ← Check.all_eq_firstFailure hsteady References.faithful_none,
    ← runChecks]
  split
  case isTrue hempty =>
    have hnone : e.candidateChecks s v = [] := by
      rcases Bool.or_eq_true_iff.1 hempty with hempty | hempty
      · simp [candidateChecks, itemChecks, List.isEmpty_iff.1 hempty]
      · simp [candidateChecks, List.isEmpty_iff.1 hempty]
    rw [runChecks, hnone]
    rfl
  case isFalse =>
    split
    case h_1 refs hrun => rw [hrun]
    case h_2 err refs hrun => rw [hrun]

/-- **What a check of items asks**: it passes exactly when every rule holds of every item. -/
theorem validateItems_eq_ok_iff : (e.validateItems s v).result = .ok () ↔
    v.FollowsRules e.text s := by
  rw [result_validateItems, firstFailure_eq_ok_iff, Vocabulary.FollowsRules]
  simp only [Vocabulary.ruleAnswers, Item.fieldAnswers, List.forall_mem_flatMap,
    List.forall_mem_map, Item.ruleAnswer_eq_ok_iff]
  rw [← List.zipIdx_map_fst 0 v.items, List.forall_mem_map, List.zipIdx_map_fst]

end Engine

end Newsroom
