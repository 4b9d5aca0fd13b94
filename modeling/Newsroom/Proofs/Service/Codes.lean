import Newsroom.Proofs.Service.Outcomes

/-!
# The codes that checks fail with

Each check fails with codes of its own. If every row of the store reads as a document
(`Store.Readable`), the check of a candidate's form and items fails with one of `candidateCodes`
(`Engine.failsWith_validate`), and the checks behind it fail with one of `laterCodes` and write
nothing to the journal (`Traced.Quiet`). So the code of an answer tells whether the candidate has
passed (`Engine.validate_passes_iff`), whatever the error's message quotes.
-/

namespace Newsroom

/-- The code of the error that an answer is; a success has none. -/
def codeOf {α : Type} : Except ServiceError α → Option String
  | .ok _ => none
  | .error err => some err.code

@[simp] theorem codeOf_ok {α : Type} (a : α) :
    codeOf (.ok a : Except ServiceError α) = none := rfl

@[simp] theorem codeOf_error {α : Type} (err : ServiceError) :
    codeOf (.error err : Except ServiceError α) = some err.code := rfl

/-- Answers with the same code are both errors, or both successes. -/
theorem cases_of_codeOf_eq {α β : Type} {r : Except ServiceError α} {r' : Except ServiceError β}
    (h : codeOf r = codeOf r') :
    (∃ err err', r = .error err ∧ r' = .error err') ∨ ∃ a b, r = .ok a ∧ r' = .ok b := by
  cases r with
  | error err =>
    cases r' with
    | error err' => exact .inl ⟨err, err', rfl, rfl⟩
    | ok b => cases h
  | ok a =>
    cases r' with
    | error err' => cases h
    | ok b => exact .inr ⟨a, b, rfl, rfl⟩

/-- The codes of a candidate that is not in form or breaks a rule of its schema. -/
def candidateCodes : List String :=
  ["invalid_id", "helper_text_too_long", "required_field", "unresolved_reference"]

/-- The codes of a candidate that has passed: for the values of its unique field, and for its
key. -/
def laterCodes : List String := ["duplicate_value", "empty_unique_value", "conflict", "deleted"]

theorem not_mem_candidateCodes {c : String} (h : c ∈ laterCodes) : c ∉ candidateCodes := by
  have hdisjoint : ∀ c ∈ laterCodes, c ∉ candidateCodes := by decide
  exact hdisjoint c h

theorem fromCheck_eq_error_iff {α : Type} {r : Except ValidationError α} {err : ServiceError} :
    fromCheck r = .error err ↔ ∃ verr, r = .error verr ∧ .validation verr = err := by
  cases r <;> simp

/-! ### Stores that can be read -/

namespace Store

variable {t : TextLayer} {s : Store}

/-- Every row of the store reads as a document. -/
def Readable (t : TextLayer) (s : Store) : Prop :=
  ∀ id r, s.get? id = some r → ∃ v, r.vocabulary t id = .ok v

theorem Readable.exists_findWith (h : Readable t s) (deleted : Int64) (id : String) :
    ∃ found, findWith t deleted s id = .ok found := by
  rw [findWith]
  cases hrow : s.get? id with
  | none => exact ⟨none, rfl⟩
  | some r =>
    obtain ⟨v, hread⟩ := h id r hrow
    dsimp only
    split
    · exact ⟨some v, by rw [hread]; rfl⟩
    · exact ⟨none, rfl⟩

theorem Readable.exists_resolve (h : Readable t s) (refs : References) (id : String) :
    ∃ items, (References.resolve t s refs id).1 = .ok items := by
  rw [References.resolve]
  cases Entries.find? id refs.loaded with
  | some items => exact ⟨items, rfl⟩
  | none =>
    obtain ⟨found, hfound⟩ := h.exists_findWith 0 id
    rw [find, hfound]
    exact ⟨_, rfl⟩

end Store

/-! ### Checks of items -/

namespace Check

variable {codes : List String} {a b : Check}

/-- If the check fails, then with one of the codes, whatever was read before it. -/
def FailsWith (codes : List String) (c : Check) : Prop :=
  ∀ refs err, (c refs).1 = .error err → err.code ∈ codes

theorem failsWith_pass : pass.FailsWith codes := nofun

theorem failsWith_fail {err : ServiceError} (h : err.code ∈ codes) :
    (fail err).FailsWith codes := by
  rintro refs _ ⟨⟩
  exact h

theorem FailsWith.andThen (ha : a.FailsWith codes) (hb : b.FailsWith codes) :
    (a.andThen b).FailsWith codes := by
  intro refs err h
  rw [Check.andThen] at h
  split at h
  case h_1 refs' _ => exact hb refs' err h
  case h_2 err' refs' hrun =>
    cases h
    exact ha refs err (by rw [hrun])

theorem failsWith_all {cs : List Check} (h : ∀ c ∈ cs, c.FailsWith codes) :
    (all cs).FailsWith codes := by
  induction cs with
  | nil => exact failsWith_pass
  | cons c cs ih =>
    obtain ⟨hc, hcs⟩ := List.forall_mem_cons.1 h
    exact hc.andThen (ih hcs)

end Check

namespace Traced

variable {α β : Type} {codes : List String}

/-- If the check fails, then with one of the codes. -/
def FailsWith (codes : List String) (x : Traced α) : Prop :=
  ∀ err, x.result = .error err → err.code ∈ codes

/-- The check writes nothing to the journal, and if it fails, then with one of the codes. -/
structure Quiet (codes : List String) (x : Traced α) : Prop where
  journal : x.journal = []
  fails : x.FailsWith codes

theorem quiet_lift {r : Except ServiceError α} (h : ∀ err, r = .error err → err.code ∈ codes) :
    (lift r).Quiet codes :=
  ⟨rfl, h⟩

theorem FailsWith.bind {x : Traced α} {f : α → Traced β} (hx : x.FailsWith codes)
    (hf : ∀ a, (f a).FailsWith codes) : (x >>= f).FailsWith codes := by
  intro err h
  cases hresult : x.result with
  | error err' =>
    rw [bind_of_error hresult] at h
    cases h
    exact hx err hresult
  | ok a =>
    rw [bind_of_ok hresult] at h
    exact hf a err h

theorem Quiet.bind {x : Traced α} {f : α → Traced β} (hx : x.Quiet codes)
    (hf : ∀ a, (f a).Quiet codes) : (x >>= f).Quiet codes := by
  refine ⟨?_, hx.fails.bind fun a => (hf a).fails⟩
  cases hresult : x.result with
  | error err => rw [bind_of_error hresult, hx.journal]
  | ok a => rw [bind_of_ok hresult, hx.journal, (hf a).journal, List.append_nil]

/-- What quiet checks follow has its journal alone. -/
theorem journal_bind_quiet {x : Traced α} {f : α → Traced β} (hf : ∀ a, (f a).Quiet codes) :
    (x >>= f).journal = x.journal := by
  cases hresult : x.result with
  | error err => rw [bind_of_error hresult]
  | ok a => rw [bind_of_ok hresult, (hf a).journal, List.append_nil]

end Traced

/-! ### The checks of the service -/

theorem code_checkDistinct {field : String} {seen : List String} {index : Nat} {items : List Item}
    {err : ValidationError} (h : checkDistinct field seen index items = .error err) :
    err.code ∈ laterCodes := by
  induction items generalizing seen index with
  | nil => cases h
  | cons item rest ih =>
    rw [checkDistinct] at h
    split at h
    case isTrue => exact ih h
    case isFalse =>
      split at h
      case h_1 =>
        cases h
        simp [ValidationError.code, laterCodes]
      case h_2 value _ =>
        dsimp only at h
        split at h
        case isTrue =>
          cases h
          simp [ValidationError.code, laterCodes]
        case isFalse => exact ih h

theorem code_checkUnique {uniqueField : Option String} {items : List Item} {err : ValidationError}
    (h : checkUnique uniqueField items = .error err) : err.code ∈ laterCodes := by
  cases uniqueField with
  | none => cases h
  | some field => exact code_checkDistinct h

theorem code_validateShape {v : Vocabulary} {err : ValidationError}
    (h : v.validateShape = .error err) : err.code ∈ candidateCodes := by
  rw [Vocabulary.validateShape] at h
  split at h
  case isTrue =>
    cases h
    simp [ValidationError.code, candidateCodes]
  case isFalse =>
    split at h
    case h_1 text _ =>
      split at h
      case isTrue =>
        cases h
        simp [ValidationError.code, candidateCodes]
      case isFalse => cases h
    case h_2 => cases h

namespace Engine

variable {e : Engine} {s : Store} {v : Vocabulary}

theorem code_checkReserved {err : ServiceError} (h : e.checkReserved v = .error err) :
    err.code = "conflict" := by
  rw [checkReserved] at h
  split at h
  case isTrue =>
    cases h
    rfl
  case isFalse => cases h

theorem code_checkNotDeleted (hs : s.Readable e.text) {err : ServiceError}
    (h : e.checkNotDeleted s v = .error err) : err.code = "deleted" := by
  obtain ⟨found, hfound⟩ := hs.exists_findWith 1 v.id
  rw [checkNotDeleted, Store.findDeleted, hfound] at h
  cases found with
  | none => cases h
  | some w =>
    cases h
    rfl

theorem failsWith_checkRule (hs : s.Readable e.text) (item : Item) (index : Nat) (field : String)
    (rule : FieldRule) : (e.checkRule s item index field rule).FailsWith candidateCodes := by
  have hpresence : Check.FailsWith candidateCodes (if item.hasValue field then Check.pass
      else Check.fail (.validation (.missingField field index))) := by
    split
    · exact Check.failsWith_pass
    · exact Check.failsWith_fail (by simp [ServiceError.code, ValidationError.code, candidateCodes])
  cases rule with
  | required => exact hpresence
  | unique => exact hpresence
  | typed cast => exact Check.failsWith_pass
  | link vocabulary target =>
    rw [checkRule]
    cases item.filled? field with
    | none => exact Check.failsWith_pass
    | some value =>
      intro refs err h
      obtain ⟨items, hitems⟩ := hs.exists_resolve refs vocabulary
      dsimp only at h
      split at h
      case h_1 err' refs' hrun =>
        rw [hrun] at hitems
        cases hitems
      case h_2 items' refs' hrun =>
        split at h
        case isTrue => cases h
        case isFalse =>
          cases h
          simp [ServiceError.code, ValidationError.code, candidateCodes]

theorem failsWith_validateItems (hs : s.Readable e.text) :
    (e.validateItems s v).FailsWith candidateCodes := by
  intro err h
  rw [validateItems] at h
  split at h
  case isTrue => cases h
  case isFalse =>
    split at h
    case h_1 => cases h
    case h_2 err' refs hrun =>
      cases h
      have hchecks : (Check.all (e.candidateChecks s v)).FailsWith candidateCodes := by
        refine Check.failsWith_all fun c hc => ?_
        obtain ⟨i, -, hc⟩ := List.mem_flatMap.1 hc
        obtain ⟨f, -, hc⟩ := List.mem_flatMap.1 hc
        obtain ⟨rule, -, rfl⟩ := List.mem_map.1 hc
        exact failsWith_checkRule hs i.1 i.2 f.1 rule
      exact hchecks References.none err (by rw [← runChecks, hrun])

/-- The check of a candidate has codes of its own. -/
theorem failsWith_validate (hs : s.Readable e.text) :
    (e.validate s v).FailsWith candidateCodes := by
  have hshape : (Traced.lift (fromCheck v.validateShape)).FailsWith candidateCodes := by
    intro err h
    obtain ⟨verr, hverr, rfl⟩ := fromCheck_eq_error_iff.1 h
    exact code_validateShape hverr
  exact hshape.bind fun _ => failsWith_validateItems hs

theorem quiet_checkUnique (uniqueField : Option String) (items : List Item) :
    (Traced.lift (fromCheck (checkUnique uniqueField items))).Quiet laterCodes := by
  refine Traced.quiet_lift fun err h => ?_
  obtain ⟨verr, hverr, rfl⟩ := fromCheck_eq_error_iff.1 h
  exact code_checkUnique hverr

theorem quiet_checkReserved : (Traced.lift (e.checkReserved v)).Quiet laterCodes :=
  Traced.quiet_lift fun err h => by rw [code_checkReserved h]; decide

theorem quiet_checkNotDeleted (hs : s.Readable e.text) :
    (Traced.lift (e.checkNotDeleted s v)).Quiet laterCodes :=
  Traced.quiet_lift fun err h => by rw [code_checkNotDeleted hs h]; decide

/-- The checks of a new document behind that of the candidate are quiet. -/
theorem quiet_afterNew (hs : s.Readable e.text) (v : Vocabulary) : Traced.Quiet laterCodes (do
    Traced.lift (fromCheck (checkUnique v.uniqueField v.items))
    Traced.lift (e.checkReserved v)
    Traced.lift (e.checkNotDeleted s v)) :=
  (quiet_checkUnique _ _).bind fun _ => quiet_checkReserved.bind fun _ => quiet_checkNotDeleted hs

/-- **The code tells whether the candidate has passed**: with quiet checks behind it, the check of
a candidate succeeds exactly when the whole does not fail with one of its codes. -/
theorem validate_passes_iff (hs : s.Readable e.text) {f : Unit → Traced Unit}
    (hf : ∀ a, (f a).Quiet laterCodes) : (e.validate s v).result = .ok () ↔
      ∀ c, codeOf (e.validate s v >>= f).result = some c → c ∉ candidateCodes := by
  cases hresult : (e.validate s v).result with
  | error err =>
    rw [Traced.bind_of_error hresult]
    refine iff_of_false nofun fun h => ?_
    exact h err.code rfl (failsWith_validate hs err hresult)
  | ok _ =>
    rw [Traced.bind_of_ok hresult]
    refine iff_of_true rfl fun c hc => ?_
    cases hlater : (f ()).result with
    | ok _ =>
      rw [hlater] at hc
      cases hc
    | error err =>
      rw [hlater] at hc
      cases hc
      exact not_mem_candidateCodes ((hf ()).fails err hlater)

end Engine

end Newsroom
