import Newsroom.Vocabulary.Codec
import Newsroom.Vocabulary.ValidationError
import Newsroom.Json.Printer

/-!
# Rows

A stored vocabulary: its document as text, and beside it the columns that lists are filtered by.
The columns repeat what the document says, except that deletion and the two timestamps are read
from the columns. How documents become text and are read back is a parameter (`TextLayer`); the
store itself uses compact JSON (`TextLayer.json`).
-/

namespace Newsroom

/-- How documents are kept as text. -/
structure TextLayer where
  /-- The text of a document. -/
  print : Json → String
  /-- Reads a text as a document. -/
  read : String → Option Json

/-- Compact JSON text, of which the parts that documents know are read. -/
def TextLayer.json : TextLayer := ⟨Json.print, Json.read? Vocabulary.shape⟩

/-- What can be wrong with a stored row. -/
inductive RowFault where
  /-- The text is no document. -/
  | undecodable (id : String)
  /-- The document has another key than the row. -/
  | foreignDocument (found id : String)
  /-- The deletion column holds neither zero nor one. -/
  | deletionColumn (value : Int64)
  /-- Anything else, in words. -/
  | described (text : String)
  deriving DecidableEq

/-- The message for people. -/
def RowFault.message : RowFault → String
  | .undecodable id => "document for `" ++ id ++ "` cannot be decoded"
  | .foreignDocument found id =>
    "document id `" ++ found ++ "` does not match row id `" ++ id ++ "`"
  | .deletionColumn value =>
    "invalid is_deleted value `" ++ toString value ++ "` in vocabularies.is_deleted"
  | .described text => text

/-- Why a database could not be made ready. -/
inductive DatabaseError where
  /-- The database engine failed. -/
  | engine
  /-- The directory of the file could not be created. -/
  | createDirectory
  /-- The database was written for a later revision. -/
  | tooNew (found supported : Nat)
  /-- A revision step failed. -/
  | step (version : Nat) (name : String)
  deriving DecidableEq

/-- The message for people, as far as it is the library's own. -/
def DatabaseError.message : DatabaseError → String
  | .engine => "database error"
  | .createDirectory => "failed to create database directory"
  | .tooNew found supported =>
    "vocabulary store is at revision " ++ toString found ++ "; this build knows up to "
      ++ toString supported
  | .step version name => "schema step " ++ toString version ++ " (" ++ name ++ ") failed"

/-- Why a store operation failed. -/
inductive StoreError where
  /-- A rule about the document is violated. -/
  | validation (error : ValidationError)
  /-- The database is not ready. -/
  | database (error : DatabaseError)
  /-- No active vocabulary has the key. -/
  | notFound (id : String)
  /-- The key is taken, by an active or a deleted vocabulary. -/
  | alreadyExists (id : String)
  /-- A stored row is not what it should be. -/
  | invalidRow (fault : RowFault)
  /-- The table of vocabularies is missing. -/
  | missingTable
  /-- A column of the table is missing. -/
  | missingColumn (column : String)
  deriving DecidableEq

namespace StoreError

/-- The message for people. -/
def message : StoreError → String
  | .validation e => e.message
  | .database e => e.message
  | .notFound id => "vocabulary not found: " ++ id
  | .alreadyExists id => "vocabulary already exists: " ++ id
  | .invalidRow fault => "invalid persisted vocabulary data: " ++ fault.message
  | .missingTable => "missing required table `vocabularies`"
  | .missingColumn column => "missing required column `vocabularies." ++ column ++ "`"

/-- The message of the error that this one only passes on. -/
def cause? : StoreError → Option String
  | .validation e => some e.message
  | .database e => some e.message
  | _ => none

end StoreError

/-- A stored row, without its key. -/
structure Row where
  /-- The document as text. -/
  document : String
  /-- The name of the document's kind. -/
  kind : String
  /-- The document's field type. -/
  fieldType : Option String
  /-- The name of the document's selection. -/
  selection : Option String
  /-- One if the document is bound to services, else zero. -/
  hasService : Int64
  /-- One if the vocabulary is deleted, zero if it is active. -/
  deleted : Int64
  /-- When the vocabulary was created. -/
  created : Int64
  /-- When it was last written. -/
  updated : Int64
  deriving DecidableEq

namespace Row

/-- A flag as a column holds it. -/
def ofFlag (b : Bool) : Int64 := if b then 1 else 0

/-- Whether the row is that of an active vocabulary. -/
def active (r : Row) : Bool := r.deleted = 0

/-- The row of a document, with its deletion column and timestamps given. -/
def ofDocument (t : TextLayer) (v : Vocabulary) (deleted created updated : Int64) : Row where
  document := t.print v.toJson
  kind := v.kind.name
  fieldType := v.fieldType
  selection := v.selection.map SelectionKind.name
  hasService := ofFlag v.service.isSome
  deleted := deleted
  created := created
  updated := updated

/-- The document of the row under the key `id`. -/
def vocabulary (t : TextLayer) (id : String) (r : Row) : Except StoreError Vocabulary :=
  match (t.read r.document).bind Vocabulary.ofJson? with
  | none => .error (.invalidRow (.undecodable id))
  | some v =>
    if v.id ≠ id then .error (.invalidRow (.foreignDocument v.id id))
    else if r.deleted = 0 then
      .ok { v with deleted := false, created := some r.created, updated := some r.updated }
    else if r.deleted = 1 then
      .ok { v with deleted := true, created := some r.created, updated := some r.updated }
    else .error (.invalidRow (.deletionColumn r.deleted))

end Row

end Newsroom
