import Newsroom.Journal
import Newsroom.Store.Basic
import Newsroom.Text.Casing

/-!
# Revisions of a database

A database records its revision. Making it current runs every step above that revision, each of
which raises it by one, and all of them take effect or none. A step creates only what is missing:
it takes an existing table of the right name as it is, and fails only when something that it
builds on is not there.

Whether the table can be used is a question of its own (`Database.ready`). Names of tables and
columns compare without regard to the case of ASCII letters for the steps, and exactly for use.
-/

namespace Newsroom

/-- A table: its name and the names of its columns. -/
structure Table where
  /-- The name. -/
  name : String
  /-- The columns, in order. -/
  columns : List String
  deriving DecidableEq

/-- A database. -/
structure Database where
  /-- The recorded revision; databases that the library did not write may have any. -/
  revision : Int
  /-- The tables. -/
  tables : List Table
  /-- The names of the indexes. -/
  indexes : List String
  /-- The rows of the table of vocabularies. -/
  rows : Store
  deriving DecidableEq

/-- Equality of names up to the case of ASCII letters. -/
def sameName (a b : String) : Bool := Text.asciiLower a = Text.asciiLower b

namespace Table

/-- Whether the table has a column of that name, up to case. -/
def hasColumn (t : Table) (column : String) : Bool := t.columns.any (sameName column)

end Table

/-- The name of the table of vocabularies. -/
def vocabularyTable : String := "vocabularies"

/-- The columns of the table of vocabularies. -/
def vocabularyColumns : List String :=
  ["id", "document", "vocabulary_type", "field_type", "selection_type", "has_service",
    "is_deleted", "created_at", "updated_at"]

namespace Database

/-- The database without content. -/
def empty : Database := ⟨0, [], [], ∅⟩

/-- The database with another recorded revision; what does not fit a signed 32-bit number is
recorded as zero. -/
def withRevision (d : Database) (revision : Int) : Database :=
  { d with revision := if fitsSigned 32 revision then revision else 0 }

/-- The table of that name, up to case. -/
def table? (d : Database) (name : String) : Option Table :=
  d.tables.find? fun t => sameName t.name name

/-- Creates a table unless there is one of that name. -/
def createTable (name : String) (columns : List String) (d : Database) : Option Database :=
  match d.table? name with
  | some _ => some d
  | none =>
    if d.indexes.any (sameName name) then none
    else some { d with tables := d.tables ++ [⟨name, columns⟩] }

/-- Creates an index on columns of a table unless there is one of that name. It fails without the
table, without one of the columns, or when a table has the name of the index. -/
def createIndex (name table : String) (columns : List String) (d : Database) : Option Database :=
  match d.table? table with
  | none => none
  | some t =>
    if (d.table? name).isSome then none
    else if d.indexes.any (sameName name) then some d
    else if columns.all t.hasColumn then some { d with indexes := d.indexes ++ [name] }
    else none

/-- The first column of the table of vocabularies that is missing, or the table itself. -/
def ready (d : Database) : Except StoreError Unit :=
  match d.tables.find? fun t => t.name = vocabularyTable with
  | none => .error .missingTable
  | some t =>
    match vocabularyColumns.find? fun c => !t.columns.contains c with
    | some c => .error (.missingColumn c)
    | none => .ok ()

/-- The recorded revision; a negative one cannot be read. -/
def version (d : Database) : Except DatabaseError Nat :=
  if d.revision < 0 then .error .engine else .ok d.revision.toNat

end Database

/-- A step that brings a database to a revision. -/
structure RevisionStep where
  /-- The revision that the step brings the database to. -/
  version : Nat
  /-- The name of the step. -/
  name : String
  /-- What the step does, if it can. -/
  run : Database → Option Database

/-- The steps, in order. -/
def revisionSteps : List RevisionStep :=
  [⟨1, "vocabularies", Database.createTable vocabularyTable vocabularyColumns⟩,
   ⟨2, "vocabulary_indexes", fun d =>
      (d.createIndex "idx_vocabularies_field_type" vocabularyTable ["field_type"]).bind
        (Database.createIndex "idx_vocabularies_type_deleted" vocabularyTable
          ["vocabulary_type", "is_deleted"])⟩]

/-- The revision that the steps lead to. -/
def latestRevision : Nat := 2

/-- What making a database current comes to. -/
structure Migration where
  /-- How many steps were applied, or why none was. -/
  result : Except DatabaseError Nat
  /-- The database afterwards. -/
  database : Database
  /-- The log records, also of steps that were undone. -/
  records : List Record

namespace Database

/-- The record of a step. -/
def stepRecord (s : RevisionStep) : Record :=
  ⟨.info, "event=db_migrate module=db status=ok version=" ++ toString s.version ++ " name="
    ++ s.name⟩

/-- Runs steps one after the other. -/
def runSteps (d : Database) : List RevisionStep → Except DatabaseError Database × List Record
  | [] => (.ok d, [])
  | s :: rest =>
    match s.run d with
    | none => (.error (.step s.version s.name), [])
    | some e =>
      let (result, records) := runSteps { e with revision := s.version } rest
      (result, stepRecord s :: records)

/-- Makes a database current. A database of a later revision is refused, a current one is left
alone, and if a step fails nothing of the run remains. -/
def migrate (d : Database) : Migration :=
  match d.version with
  | .error e => ⟨.error e, d, []⟩
  | .ok found =>
    if latestRevision < found then ⟨.error (.tooNew found latestRevision), d, []⟩
    else if found = latestRevision then ⟨.ok 0, d, []⟩
    else
      let steps := revisionSteps.filter fun s => found < s.version
      match runSteps d steps with
      | (.error e, records) => ⟨.error e, d, records⟩
      | (.ok e, records) => ⟨.ok steps.length, e, records⟩

end Database

end Newsroom
