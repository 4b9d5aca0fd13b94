import Newsroom.Service.Validation

/-!
# The life of a vocabulary

Creation, replacement, partial update and deletion. Each operation checks the document first,
then writes, then publishes: nothing is published unless the write succeeded, and a failed
operation leaves the store as it was. A batch is created as a whole or not at all.

`now` is the clock reading that an operation stamps documents with.
-/

namespace Newsroom

/-- A checked batch: the documents as far as the check changed them, and its answer. -/
structure CheckedBatch where
  /-- The documents; those behind the first failure are as they were given. -/
  documents : List Vocabulary
  /-- The answer. -/
  traced : Traced Unit

/-- A checked document or update: how the check left it, and its answer. -/
structure Checked (α : Type) where
  /-- What was checked, as far as the check changed it. -/
  value : α
  /-- The answer. -/
  traced : Traced Unit

/-- The entry of the event that a vocabulary changed. -/
def noticeOf (change : Change) (ctx : Context) (v : Vocabulary) : Entry :=
  .notice ⟨change, v.displayName, ctx.user, v.id⟩

namespace Engine

variable (e : Engine)

/-! ### Creation -/

/-- The key of a new document must not belong to a deleted vocabulary. -/
def checkNotDeleted (s : Store) (v : Vocabulary) : Except ServiceError Unit :=
  match fromStore (Store.findDeleted e.text s v.id) with
  | .error err => .error err
  | .ok none => .ok ()
  | .ok (some _) => .error (.deletedId v.id)

/-- Checks a new document, whose unique field has its default already. -/
def checkNew (s : Store) (v : Vocabulary) : Traced Unit := do
  e.validate s v
  Traced.lift (fromCheck (checkUnique v.uniqueField v.items))
  Traced.lift (e.checkReserved v)
  Traced.lift (e.checkNotDeleted s v)

/-- Checks a batch of new documents up to the first failure, and gives each of them the default
of its unique field. -/
def checkBatch (s : Store) : List Vocabulary → CheckedBatch
  | [] => ⟨[], Traced.pure ()⟩
  | v :: vs =>
    let v := v.withUniqueDefault
    let first := e.checkNew s v
    match first.result with
    | .error err => ⟨v :: vs, ⟨.error err, first.journal⟩⟩
    | .ok _ =>
      let rest := checkBatch s vs
      ⟨v :: rest.documents, ⟨rest.traced.result, first.journal ++ rest.traced.journal⟩⟩

/-- The entries that publish the creation of documents. -/
def createdEntries (ctx : Context) (docs : List Vocabulary) : Journal :=
  docs.map (noticeOf .created ctx)

/-- Creates all documents or none of them; the answer lists their keys. -/
def create (now : Int64) (docs : List Vocabulary) (ctx : Context) (s : Store) :
    Outcome (List String) :=
  let batch := e.checkBatch s docs
  let written : Except ServiceError (List String × Store) := match batch.traced.result with
    | .error err => .error err
    | .ok _ => fromStore (Store.insertAll e.text now s batch.documents)
  match written with
  | .error err =>
    ⟨.error err, s, batch.traced.journal ++
      [logged .warn ("event=vocabulary_create module=service status=error batch="
        ++ toString docs.length ++ " code=" ++ err.code)]⟩
  | .ok (ids, s) =>
    ⟨.ok ids, s, batch.traced.journal ++
      logged .info ("event=vocabulary_create module=service status=ok batch="
        ++ toString ids.length ++ " ids=" ++ ",".intercalate ids) ::
      createdEntries ctx batch.documents⟩

/-! ### Replacement -/

/-- Checks a replacement, whose unique field has its default already. -/
def checkFull (s : Store) (v : Vocabulary) : Traced Unit := do
  e.validate s v
  Traced.lift (fromCheck (checkUnique v.uniqueField v.items))
  Traced.lift (e.checkReserved v)

/-- The entry for a checked replacement. -/
def replacementEntry (v : Vocabulary) : Entry :=
  logged .info ("event=vocabulary_replace module=service status=validated vocabulary_id=" ++ v.id)

/-- Checks a replacement of the document `stored` and stamps it: it keeps when the vocabulary was
created and is updated now. -/
def checkReplacement (now : Int64) (s : Store) (v stored : Vocabulary) : Checked Vocabulary :=
  if v.id ≠ stored.id then ⟨v, Traced.lift (.error (.idMismatch stored.id v.id))⟩
  else
    let v := v.withUniqueDefault
    let check := e.checkFull s v
    match check.result with
    | .error err => ⟨v, ⟨.error err, check.journal⟩⟩
    | .ok _ =>
      let v : Vocabulary :=
        { v with updated := some now, created := some (stored.created.getD now) }
      ⟨v, ⟨.ok (), check.journal ++ [replacementEntry v]⟩⟩

/-- Replaces the active vocabulary under `id`. -/
def replace (now : Int64) (id : String) (v : Vocabulary) (ctx : Context) (s : Store) :
    Outcome Vocabulary :=
  match fromStore (Store.get e.text s id) with
  | .error err => ⟨.error err, s, []⟩
  | .ok stored =>
    let checked := e.checkReplacement now s v stored
    match checked.traced.result with
    | .error err => ⟨.error err, s, checked.traced.journal⟩
    | .ok _ =>
      match fromStore (Store.replace e.text now s checked.value) with
      | .error err => ⟨.error err, s, checked.traced.journal⟩
      | .ok s =>
        ⟨.ok checked.value, s,
          checked.traced.journal ++ [noticeOf .updated ctx checked.value]⟩

/-! ### Partial update -/

/-- The update with the default of the unique field written into it, when neither it nor the
stored document has one. -/
def writeBackUnique (u : VocabularyUpdate) (stored merged : Vocabulary) : VocabularyUpdate :=
  if stored.uniqueField.isNone && u.uniqueField.isNone then
    { u with uniqueField := merged.uniqueField }
  else u

/-- Checks an update of the document `stored`. The merged document must not be a custom one with a
reserved key. If the update carries items, the merged document is validated as a whole, after its
unique field had its default. If the merged document has a unique field, the values of the new
items, or else of the stored ones, must be distinct. -/
def checkUpdate (s : Store) (u : VocabularyUpdate) (stored : Vocabulary) :
    Checked VocabularyUpdate :=
  let merged := stored.applyUpdate u
  match e.checkReserved merged with
  | .error err => ⟨u, Traced.lift (.error err)⟩
  | .ok _ =>
    match u.items with
    | none => ⟨u, Traced.lift (fromCheck (checkUnique merged.uniqueField stored.items))⟩
    | some items =>
      let merged := merged.withUniqueDefault
      let check := e.validate s merged
      match check.result with
      | .error err => ⟨u, ⟨.error err, check.journal⟩⟩
      | .ok _ =>
        ⟨writeBackUnique u stored merged,
          ⟨fromCheck (checkUnique merged.uniqueField items), check.journal⟩⟩

/-- Applies an update to the active vocabulary under `id`; the answer is the stored document. -/
def update (now : Int64) (id : String) (u : VocabularyUpdate) (ctx : Context) (s : Store) :
    Outcome Vocabulary :=
  match fromStore (Store.get e.text s id) with
  | .error err => ⟨.error err, s, []⟩
  | .ok stored =>
    let checked := e.checkUpdate s u stored
    match checked.traced.result with
    | .error err =>
      ⟨.error err, s, checked.traced.journal ++
        [logged .warn ("event=vocabulary_update module=service status=error vocabulary_id=" ++ id
          ++ " code=" ++ err.code)]⟩
    | .ok _ =>
      match fromStore (Store.patch e.text now s id checked.value) with
      | .error err => ⟨.error err, s, checked.traced.journal⟩
      | .ok (updated, s) =>
        ⟨.ok updated, s, checked.traced.journal ++
          [logged .info ("event=vocabulary_update module=service status=ok vocabulary_id=" ++ id
            ++ " items=" ++ toString updated.items.length),
           noticeOf .updated ctx updated]⟩

/-! ### Deletion -/

/-- Only custom vocabularies may be deleted. -/
def checkDeletion (v : Vocabulary) : Except ServiceError Unit :=
  if v.custom then .ok () else .error (.protectedVocabulary v.id)

/-- Deletes the custom vocabulary under `id`; its key stays taken. -/
def delete (now : Int64) (id : String) (s : Store) : Outcome Unit :=
  match fromStore (Store.get e.text s id) with
  | .error err => ⟨.error err, s, []⟩
  | .ok v =>
    match checkDeletion v with
    | .error err =>
      ⟨.error err, s,
        [logged .warn ("event=vocabulary_delete module=service status=rejected vocabulary_id="
          ++ id ++ " code=" ++ err.code)]⟩
    | .ok _ =>
      match fromStore (Store.softDelete now s id) with
      | .error err => ⟨.error err, s, []⟩
      | .ok s =>
        ⟨.ok (), s,
          [logged .info ("event=vocabulary_delete module=service status=ok vocabulary_id="
            ++ id)]⟩

end Engine

end Newsroom
