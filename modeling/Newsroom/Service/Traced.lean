import Newsroom.Journal
import Newsroom.Service.Error

/-!
# Answers with a journal

A check of the service has an answer and a journal, and the journal stays also when the check
fails. An operation changes the store on top of that (`Outcome`).
-/

namespace Newsroom

/-- An answer, and the journal entries made on the way to it. -/
structure Traced (α : Type) where
  /-- The answer. -/
  result : Except ServiceError α
  /-- The journal. -/
  journal : Journal

namespace Traced

variable {α β : Type}

/-- An answer without journal. -/
def lift (r : Except ServiceError α) : Traced α := ⟨r, []⟩

/-- Success without journal. -/
def pure (a : α) : Traced α := lift (.ok a)

/-- Goes on after success; after failure nothing more happens. -/
def bind (x : Traced α) (f : α → Traced β) : Traced β :=
  match x.result with
  | .error e => ⟨.error e, x.journal⟩
  | .ok a => ⟨(f a).result, x.journal ++ (f a).journal⟩

instance : Monad Traced where
  pure := Traced.pure
  bind := Traced.bind

/-- One journal entry. -/
def tell (e : Entry) : Traced Unit := ⟨.ok (), [e]⟩

theorem bind_of_ok {x : Traced α} {f : α → Traced β} {a : α} (h : x.result = .ok a) :
    x >>= f = ⟨(f a).result, x.journal ++ (f a).journal⟩ := by
  show Traced.bind x f = _
  simp [Traced.bind, h]

theorem bind_of_error {x : Traced α} {f : α → Traced β} {e : ServiceError}
    (h : x.result = .error e) : x >>= f = ⟨.error e, x.journal⟩ := by
  show Traced.bind x f = _
  simp [Traced.bind, h]

/-- A sequence succeeds exactly when both parts do. -/
theorem bind_result_ok_iff {x : Traced α} {f : α → Traced β} {b : β} :
    (x >>= f).result = .ok b ↔ ∃ a, x.result = .ok a ∧ (f a).result = .ok b := by
  cases h : x.result with
  | error e => simp [bind_of_error h]
  | ok a => simp [bind_of_ok h]

end Traced

/-- What an operation comes to. -/
structure Outcome (α : Type) where
  /-- The answer. -/
  result : Except ServiceError α
  /-- The store afterwards. -/
  store : Store
  /-- The journal. -/
  journal : Journal

/-- The outcome with its answer in another form. -/
def Outcome.map {α β : Type} (f : α → β) (o : Outcome α) : Outcome β :=
  ⟨o.result.map f, o.store, o.journal⟩

end Newsroom
