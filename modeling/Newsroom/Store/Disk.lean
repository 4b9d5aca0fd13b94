import Newsroom.Store.Revision

/-!
# Database files

Files below a directory, as far as opening databases shows them: plain texts and databases by
place. Opening a file creates the directories above it and the database itself where they are
missing, and makes the database current.

Paths are texts, read as their components: what stands between slashes, without empty components
and single dots. Two paths are the same when their components are; a double dot is a component
like any other for that purpose, and leads one level up when the path is followed. A place is the
list of names from the top of the tree.
-/

namespace Newsroom

/-! ### Places in the file tree -/

/-- A place in the file tree, as its names from the top. -/
abbrev Place := List String

namespace Place

/-- Whether a path starts at the root. -/
def isAbsolute (path : String) : Bool := path.toList.head? = some '/'

/-- The components of a path. -/
def components (path : String) : List String :=
  ((path.toList.splitOn '/').map String.ofList).filter fun c => c ≠ "" && c ≠ "."

/-- Whether two absolute paths are the same, component by component. -/
def same (a b : String) : Bool := components a = components b

/-- The places passed on the way along components, starting from a place. -/
def along (start : Place) : List String → List Place
  | [] => []
  | c :: rest =>
    let next := if c = ".." then start.dropLast else start ++ [c]
    next :: along next rest

/-- The places passed on the way along a path, the last of which it leads to. -/
def passed (path : String) : List Place := along [] (components path)

/-- The places passed before the one that a path leads to. -/
def parents (path : String) : List Place := (passed path).dropLast

/-- The place that a path leads to. -/
def target (path : String) : Place := (passed path).getLastD []

/-- The names of a place, joined by slashes. -/
def text (p : Place) : String := "/".intercalate p

end Place

/-! ### Files -/

/-- What a file holds. -/
inductive FileContent where
  /-- A plain text. -/
  | text (content : String)
  /-- A database. -/
  | database (content : Database)

/-- The files and directories below a directory, by the text of their place. -/
structure Disk where
  /-- The files. -/
  files : TextMap FileContent
  /-- The directories. -/
  directories : TextMap Unit

namespace Disk

/-- Nothing yet. -/
def empty : Disk := ⟨∅, ∅⟩

/-- Whether a place is that of a plain file or database. -/
def isFile (d : Disk) (p : Place) : Bool := d.files.contains p.text

/-- Whether a place is that of a directory; the one that all files are below always is. -/
def isDirectory (d : Disk) (p : Place) : Bool := p.isEmpty || d.directories.contains p.text

/-- Whether a path leads to a file or directory. -/
def pathExists (d : Disk) (path : String) : Bool :=
  d.isDirectory (Place.target path) || d.isFile (Place.target path)

/-- Creates the directories above a path; a file among them makes that impossible. -/
def createParents (d : Disk) (path : String) : Option Disk :=
  if (Place.parents path).any d.isFile then none
  else
    some { d with
      directories := (Place.parents path).foldl (fun m p => m.insert p.text ()) d.directories }

/-- The database in a file; a missing or empty file is an empty database. A place without its
directory holds none, nor does a directory or another text. -/
def database? (d : Disk) (path : String) : Option Database :=
  if d.isDirectory (Place.target path) || !(Place.parents path).all d.isDirectory then none
  else
    match d.files.get? (Place.target path).text with
    | none => some .empty
    | some (.database content) => some content
    | some (.text content) => if content.isEmpty then some .empty else none

/-- Writes a database to a file. -/
def putDatabase (d : Disk) (path : String) (content : Database) : Disk :=
  { d with files := d.files.insert (Place.target path).text (.database content) }

/-- Writes a plain text to a file, with the directories above it. -/
def putText (d : Disk) (path : String) (content : String) : Disk :=
  let d := (d.createParents path).getD d
  { d with files := d.files.insert (Place.target path).text (.text content) }

/-- What opening a database file comes to. -/
structure Opening where
  /-- The database, made current, or why it could not be opened. -/
  result : Except DatabaseError Database
  /-- The files afterwards. -/
  disk : Disk
  /-- The log records. -/
  records : List Record

/-- The record before a database file is opened. -/
def startRecord : Record := ⟨.info, "event=db_open module=db status=start mode=file"⟩

/-- The record after a database file was opened in `elapsed` milliseconds. -/
def openedRecord (elapsed : Nat) : Record :=
  ⟨.info, "event=db_open module=db status=ok mode=file duration_ms=" ++ toString elapsed⟩

/-- The record after a database file could not be opened. -/
def failedRecord (elapsed : Nat) (e : DatabaseError) : Record :=
  ⟨.error, "event=db_open module=db status=error mode=file duration_ms=" ++ toString elapsed
    ++ " error=" ++ e.message⟩

/-- Opens a database file and makes the database current. -/
def openFile (elapsed : Nat) (d : Disk) (path : String) : Opening :=
  match d.createParents path with
  | none => ⟨.error .createDirectory, d, [startRecord, failedRecord elapsed .createDirectory]⟩
  | some d =>
    match d.database? path with
    | none => ⟨.error .engine, d, [startRecord, failedRecord elapsed .engine]⟩
    | some found =>
      let m := found.migrate
      let d := d.putDatabase path m.database
      match m.result with
      | .error e => ⟨.error e, d, startRecord :: m.records ++ [failedRecord elapsed e]⟩
      | .ok _ => ⟨.ok m.database, d, startRecord :: m.records ++ [openedRecord elapsed]⟩

end Disk

end Newsroom
