import Newsroom.Store.Basic

/-!
# Errors of the service

Why an operation of the service failed. Every error stops the whole operation.
-/

namespace Newsroom

/-- Why an operation of the service failed. -/
inductive ServiceError where
  /-- A rule about the document or its items is violated. -/
  | validation (error : ValidationError)
  /-- A custom vocabulary has a reserved key. -/
  | reservedId (id : String)
  /-- The key belongs to a deleted vocabulary. -/
  | deletedId (id : String)
  /-- The vocabulary is not custom and cannot be deleted. -/
  | protectedVocabulary (id : String)
  /-- A replacement has another key. -/
  | idMismatch (expected actual : String)
  /-- No active vocabulary has the key. -/
  | notFound (id : String)
  /-- The store failed. -/
  | store (error : StoreError)
  deriving DecidableEq

namespace ServiceError

/-- The code for programs. -/
def code : ServiceError → String
  | .validation e => e.code
  | .reservedId _ => "conflict"
  | .deletedId _ => "deleted"
  | .protectedVocabulary _ => "protected"
  | .idMismatch _ _ => "immutable_id"
  | .notFound _ => "not_found"
  | .store _ => "store"

/-- The message for people. -/
def message : ServiceError → String
  | .validation e => e.message
  | .reservedId id => id ++ " is in use"
  | .deletedId id => id ++ " is used by deleted vocabulary"
  | .protectedVocabulary id => "default vocabulary `" ++ id ++ "` cannot be deleted"
  | .idMismatch expected actual =>
    "vocabulary id is immutable: expected `" ++ expected ++ "`, got `" ++ actual ++ "`"
  | .notFound id => "vocabulary not found: " ++ id
  | .store e => e.message

/-- The message of the error that this one only passes on. -/
def cause? : ServiceError → Option String
  | .validation e => some e.message
  | .store e => some e.message
  | _ => none

/-- A failure of the store as one of the service: a violated rule and a missing vocabulary are
the same for both. -/
def ofStore : StoreError → ServiceError
  | .notFound id => .notFound id
  | .validation e => .validation e
  | e => .store e

end ServiceError

/-- The answer of a store operation as one of the service. -/
def fromStore {α : Type} (r : Except StoreError α) : Except ServiceError α :=
  r.mapError ServiceError.ofStore

/-- The answer of a check as one of the service. -/
def fromCheck {α : Type} (r : Except ValidationError α) : Except ServiceError α :=
  r.mapError ServiceError.validation

end Newsroom
