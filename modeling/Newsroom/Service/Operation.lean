import Newsroom.Service.Keywords

/-!
# Operations and runs

The writing operations of the service as values, and runs of them: one operation after the other
on one store, each with its own clock reading, whether it succeeds or fails. What every operation
keeps, every run keeps (`run_invariant`).
-/

namespace Newsroom

/-- A writing operation with its arguments. -/
inductive Operation where
  /-- Creates documents. -/
  | create (docs : List Vocabulary) (ctx : Context)
  /-- Replaces the vocabulary under a key. -/
  | replace (id : String) (doc : Vocabulary) (ctx : Context)
  /-- Applies an update to the vocabulary under a key. -/
  | update (id : String) (u : VocabularyUpdate) (ctx : Context)
  /-- Deletes the vocabulary under a key. -/
  | delete (id : String)
  /-- Adds the keywords that are missing. -/
  | addMissingKeywords (keywords : List String) (language : Option String) (ctx : Context)
  /-- Adds the keywords of a published article. -/
  | onArticlePublished (keywords : List String) (language : Option String) (ctx : Context)

/-- What a writing operation answers when it succeeds. -/
inductive Answer where
  /-- The keys of the created vocabularies. -/
  | keys (ids : List String)
  /-- The document as it is stored. -/
  | document (v : Vocabulary)
  /-- Nothing more. -/
  | done
  /-- The keywords that were added. -/
  | keywords (added : List String)
  deriving DecidableEq

namespace Engine

variable (e : Engine)

/-- Performs an operation. -/
def perform (now : Int64) (op : Operation) (s : Store) : Outcome Answer :=
  match op with
  | .create docs ctx => (e.create now docs ctx s).map .keys
  | .replace id doc ctx => (e.replace now id doc ctx s).map .document
  | .update id u ctx => (e.update now id u ctx s).map .document
  | .delete id => (e.delete now id s).map fun _ => .done
  | .addMissingKeywords keywords language ctx =>
    (e.addMissingKeywords now keywords language ctx s).map .keywords
  | .onArticlePublished keywords language ctx =>
    (e.onArticlePublished now keywords language ctx s).map .keywords

/-- The store after a run of operations, each with its clock reading. -/
def run : List (Int64 × Operation) → Store → Store
  | [], s => s
  | (now, op) :: rest, s => run rest (e.perform now op s).store

@[simp] theorem run_nil (s : Store) : e.run [] s = s := rfl

@[simp] theorem run_cons (now : Int64) (op : Operation) (rest : List (Int64 × Operation))
    (s : Store) : e.run ((now, op) :: rest) s = e.run rest (e.perform now op s).store := rfl

theorem run_append (ops more : List (Int64 × Operation)) (s : Store) :
    e.run (ops ++ more) s = e.run more (e.run ops s) := by
  induction ops generalizing s with
  | nil => rfl
  | cons step rest ih => obtain ⟨now, op⟩ := step; simp [ih]

/-- What holds of a store and is kept by every operation holds after every run. -/
theorem run_invariant {I : Store → Prop} {ops : List (Int64 × Operation)} {s : Store} (h : I s)
    (keep : ∀ step ∈ ops, ∀ s, I s → I (e.perform step.1 step.2 s).store) : I (e.run ops s) := by
  induction ops generalizing s with
  | nil => exact h
  | cons step rest ih =>
    obtain ⟨now, op⟩ := step
    exact ih (keep (now, op) (by simp) s h) fun step hstep => keep step (by simp [hstep])

end Engine

end Newsroom
