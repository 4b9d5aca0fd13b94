import Newsroom.Store.Row

/-!
# The store

Vocabularies as rows by key. Deleted vocabularies keep their row, so their key stays taken. Every
writing operation checks the form of the document first and either succeeds as a whole or leaves
no new store at all. A run is a list of writing operations, one after the other, each with its own
clock reading.
-/

namespace Newsroom

/-- The stored rows by key. -/
abbrev Store := TextMap Row

/-- What a list asks of the field type. -/
inductive FieldTypeFilter where
  /-- Nothing. -/
  | any
  /-- That there is one. -/
  | present
  /-- That there is none. -/
  | absent
  /-- That it is this one. -/
  | equals (value : String)
  deriving DecidableEq

/-- What a list asks of vocabularies. -/
structure ListQuery where
  /-- The kind. -/
  kind : Option VocabularyKind
  /-- The field type. -/
  fieldType : FieldTypeFilter
  /-- Whether the vocabulary is bound to services. -/
  hasService : Option Bool
  /-- The selection. -/
  selection : Option SelectionKind
  /-- Whether deleted vocabularies are listed too. -/
  includeDeleted : Bool
  deriving DecidableEq

namespace ListQuery

/-- The query for all active vocabularies. -/
def all : ListQuery := ⟨none, .any, none, none, false⟩

/-- Whether the columns of a row answer the query. -/
def selects (q : ListQuery) (r : Row) : Bool :=
  (q.includeDeleted || r.active)
  && (match q.kind with
    | some k => r.kind = k.name
    | none => true)
  && (match q.fieldType with
    | .any => true
    | .present => r.fieldType.isSome
    | .absent => r.fieldType.isNone
    | .equals value => r.fieldType = some value)
  && (match q.hasService with
    | some b => r.hasService = Row.ofFlag b
    | none => true)
  && (match q.selection with
    | some k => r.selection = some k.name
    | none => true)

end ListQuery

/-- Applies `f` to all elements up to the first failure. -/
def traverse {α β ε : Type} (f : α → Except ε β) : List α → Except ε (List β)
  | [] => .ok []
  | x :: xs =>
    match f x with
    | .error e => .error e
    | .ok y =>
      match traverse f xs with
      | .error e => .error e
      | .ok ys => .ok (y :: ys)

namespace Store

variable (t : TextLayer)

/-! ### Reading -/

/-- The vocabulary under `id` whose deletion column is `deleted`. -/
def findWith (deleted : Int64) (s : Store) (id : String) : Except StoreError (Option Vocabulary) :=
  match s.get? id with
  | none => .ok none
  | some r => if r.deleted = deleted then (r.vocabulary t id).map some else .ok none

/-- The active vocabulary under `id`. -/
def find (s : Store) (id : String) : Except StoreError (Option Vocabulary) := findWith t 0 s id

/-- The deleted vocabulary under `id`. -/
def findDeleted (s : Store) (id : String) : Except StoreError (Option Vocabulary) :=
  findWith t 1 s id

/-- The active vocabulary under `id`, which must exist. -/
def get (s : Store) (id : String) : Except StoreError Vocabulary :=
  match find t s id with
  | .error e => .error e
  | .ok none => .error (.notFound id)
  | .ok (some v) => .ok v

/-- The vocabularies that answer a query, in ascending order of their keys. -/
def list (s : Store) (q : ListQuery) : Except StoreError (List Vocabulary) :=
  traverse (fun e => Row.vocabulary t e.1 e.2) (s.entries.filter fun e => q.selects e.2)

/-! ### Writing -/

/-- The document as it is stored: active, and with missing timestamps set to `now`. -/
def stamped (now : Int64) (v : Vocabulary) : Vocabulary :=
  { v with
    deleted := false
    created := some (v.created.getD now)
    updated := some (v.updated.getD now) }

/-- Adds one document under a key that is not taken. -/
def insertOne (now : Int64) (s : Store) (v : Vocabulary) : Except StoreError Store :=
  match v.validateShape with
  | .error e => .error (.validation e)
  | .ok _ =>
    if s.contains v.id then .error (.alreadyExists v.id)
    else
      .ok (TextMap.insert s v.id
        (Row.ofDocument t (stamped now v) 0 (v.created.getD now) (v.updated.getD now)))

/-- Adds all documents or none of them; the answer lists their keys. -/
def insertAll (now : Int64) (s : Store) : List Vocabulary → Except StoreError (List String × Store)
  | [] => .ok ([], s)
  | v :: vs =>
    match insertOne t now s v with
    | .error e => .error e
    | .ok s =>
      match insertAll now s vs with
      | .error e => .error e
      | .ok (ids, s) => .ok (v.id :: ids, s)

/-- Writes a document to the active row under its key. The row keeps when it was created unless
the document says so, and its deletion column. -/
def writeActive (now : Int64) (s : Store) (v : Vocabulary) : Except StoreError Store :=
  match s.get? v.id with
  | none => .error (.notFound v.id)
  | some r =>
    if r.deleted = 0 then
      .ok (TextMap.insert s v.id
        (Row.ofDocument t v r.deleted (v.created.getD r.created) (v.updated.getD now)))
    else .error (.notFound v.id)

/-- Applies an update to the active vocabulary under `id`; the answer is the stored document. -/
def patch (now : Int64) (s : Store) (id : String) (u : VocabularyUpdate) :
    Except StoreError (Vocabulary × Store) :=
  match get t s id with
  | .error e => .error e
  | .ok v =>
    let v : Vocabulary := { v.applyUpdate u with updated := some now }
    match v.validateShape with
    | .error e => .error (.validation e)
    | .ok _ => (writeActive t now s v).map fun s => (v, s)

/-- Replaces the active vocabulary under the document's key. -/
def replace (now : Int64) (s : Store) (v : Vocabulary) : Except StoreError Store :=
  match v.validateShape with
  | .error e => .error (.validation e)
  | .ok _ => writeActive t now s (stamped now v)

/-- Marks the active vocabulary under `id` as deleted; nothing but the deletion column and the
timestamp changes. -/
def softDelete (now : Int64) (s : Store) (id : String) : Except StoreError Store :=
  match s.get? id with
  | none => .error (.notFound id)
  | some r =>
    if r.deleted = 0 then .ok (TextMap.insert s id { r with deleted := 1, updated := now })
    else .error (.notFound id)

end Store

/-! ### Operations and runs -/

/-- A writing operation of the store with its arguments. -/
inductive StoreOperation where
  /-- Adds documents. -/
  | insert (docs : List Vocabulary)
  /-- Applies an update to the active vocabulary under a key. -/
  | patch (id : String) (u : VocabularyUpdate)
  /-- Does the same for the housekeeping of the service, which skips the checks of requests but
  not those of the store. -/
  | systemUpdate (id : String) (u : VocabularyUpdate)
  /-- Replaces the active vocabulary under the document's key. -/
  | replace (doc : Vocabulary)
  /-- Marks the active vocabulary under a key as deleted. -/
  | softDelete (id : String)

/-- What an operation makes of a store. -/
def StoreOperation.apply (t : TextLayer) (now : Int64) (s : Store) :
    StoreOperation → Except StoreError Store
  | .insert docs => (Store.insertAll t now s docs).map Prod.snd
  | .patch id u | .systemUpdate id u => (Store.patch t now s id u).map Prod.snd
  | .replace doc => Store.replace t now s doc
  | .softDelete id => Store.softDelete now s id

namespace Store

variable (t : TextLayer)

/-- The store after an operation, whether it succeeds or fails. -/
def perform (now : Int64) (op : StoreOperation) (s : Store) : Store :=
  match op.apply t now s with
  | .error _ => s
  | .ok s => s

/-- The store after a run of operations, each with its clock reading. -/
def run : List (Int64 × StoreOperation) → Store → Store
  | [], s => s
  | (now, op) :: rest, s => run rest (perform t now op s)

end Store

end Newsroom
