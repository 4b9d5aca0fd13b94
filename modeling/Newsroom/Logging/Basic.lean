import Newsroom.Config
import Newsroom.Journal
import Newsroom.Store.Disk
import Newsroom.Text.Casing

/-!
# The log

The log is started once. The first acceptable settings fix its level and directory; later ones
are accepted only if they come to the same. A started log keeps the records of its level and the
graver ones, and those of panics, whose text is cleaned first.
-/

namespace Newsroom

/-- The version of the engine. -/
def engineVersion : String := "0.1.0"

/-- The platform that the engine runs on. -/
def platform : String := "linux"

/-- Why settings of the log were refused. -/
inductive LoggingError where
  /-- The level is none of the known ones. -/
  | unsupportedLevel (level : String)
  /-- No directory is given. -/
  | missingDirectory
  /-- The directory does not start at the root. -/
  | relativeDirectory (directory : String)
  /-- The directory cannot be created. -/
  | createDirectory (directory : String)
  /-- The log is started with another level. -/
  | levelConflict (active requested : Level)
  /-- The log is started in another directory. -/
  | directoryConflict (active requested : String)
  deriving DecidableEq

namespace LoggingError

/-- The code for programs. -/
def code : LoggingError → String
  | .unsupportedLevel _ => "unsupported_level"
  | .missingDirectory => "missing_log_dir"
  | .relativeDirectory _ => "relative_log_dir"
  | .createDirectory _ => "create_dir"
  | .levelConflict _ _ => "level_conflict"
  | .directoryConflict _ _ => "dir_conflict"

/-- The message for people, without the cause given by the file system. -/
def message : LoggingError → String
  | .unsupportedLevel level =>
    "unsupported log level `" ++ level ++ "`; expected trace|debug|info|warn|error"
  | .missingDirectory => "log_dir cannot be empty"
  | .relativeDirectory directory =>
    "log_dir must be an absolute path, got `" ++ directory ++ "`"
  | .createDirectory directory => "failed to create log directory `" ++ directory ++ "`"
  | .levelConflict active requested =>
    "logging already initialized with level `" ++ active.name ++ "`; refusing to switch to `"
      ++ requested.name ++ "`"
  | .directoryConflict active requested =>
    "logging already initialized at `" ++ active ++ "`; refusing to switch to `" ++ requested
      ++ "`"

end LoggingError

/-- The settings that a log runs with. -/
structure LogSettings where
  /-- The level. -/
  level : Level
  /-- The directory, as it was given, without blanks around it. -/
  directory : String
  deriving DecidableEq

namespace LogConfig

/-- The level that is asked for. Blanks and the case of ASCII letters do not count, and warnings
may be written out. -/
def level? (c : LogConfig) : Except LoggingError Level :=
  let word := Text.asciiLower (Text.trim c.level)
  match Level.ofName? (if word = "warning" then "warn" else word) with
  | some l => .ok l
  | none => .error (.unsupportedLevel word)

/-- The directory that is asked for, which must be an absolute path. -/
def directory? (c : LogConfig) : Except LoggingError String :=
  let directory := Text.trim (c.directory.getD "")
  if directory.isEmpty then .error .missingDirectory
  else if !Place.isAbsolute directory then .error (.relativeDirectory directory)
  else .ok directory

/-- The settings that are asked for: the level is looked at first. -/
def settings? (c : LogConfig) : Except LoggingError LogSettings :=
  match c.level? with
  | .error e => .error e
  | .ok level =>
    match c.directory? with
    | .error e => .error e
    | .ok directory => .ok ⟨level, directory⟩

end LogConfig

/-- The log of a process. -/
structure Log where
  /-- The settings, once the log is started. -/
  settings : Option LogSettings
  /-- The records that were kept. -/
  kept : List Record
  /-- The plain files that stand in the file tree. -/
  files : List Place

namespace Log

/-- The log before it is started. -/
def off : Log := ⟨none, [], []⟩

/-- Adds a plain file to the file tree. -/
def withFile (l : Log) (path : String) : Log := { l with files := l.files ++ [Place.target path] }

/-- Whether a directory can be created: no plain file is in the way. -/
def canCreate (l : Log) (directory : String) : Bool :=
  (Place.passed directory).all fun p => !l.files.contains p

/-- Keeps a record if the log is started and the record is grave enough. -/
def write (l : Log) (r : Record) : Log :=
  match l.settings with
  | some s => if r.level.rank ≤ s.level.rank then { l with kept := l.kept ++ [r] } else l
  | none => l

/-- The records at the start of a log. -/
def startRecords (s : LogSettings) : List Record :=
  [⟨.info, "event=engine_start module=core status=ok platform=" ++ platform ++ " version="
      ++ engineVersion⟩,
   ⟨.info, "event=logging_init module=core status=ok level=" ++ s.level.name ++ " log_dir="
      ++ s.directory⟩]

/-- Starts the log, or checks that it runs with the settings that are asked for; the directory is
compared first. -/
def start (l : Log) (c : LogConfig) : Except LoggingError Unit × Log :=
  match c.settings? with
  | .error e => (.error e, l)
  | .ok asked =>
    match l.settings with
    | none =>
      if l.canCreate asked.directory then
        (.ok (), (startRecords asked).foldl write { l with settings := some asked })
      else (.error (.createDirectory asked.directory), l)
    | some active =>
      if !Place.same active.directory asked.directory then
        (.error (.directoryConflict active.directory asked.directory), l)
      else if active.level ≠ asked.level then
        (.error (.levelConflict active.level asked.level), l)
      else (.ok (), l)

/-! ### Panics -/

/-- The greatest number of characters of a panic's text in the log. -/
def panicMax : Nat := 160

/-- A text on one line: line ends become spaces, and what is too long is cut and marked. -/
def cleaned (max : Nat) (s : String) : String :=
  let line := s.toList.map fun c => if c = '\n' || c = '\r' then ' ' else c
  String.ofList (line.take max) ++ (if max < line.length then "..." else "")

/-- The text that stands for a panic without text. -/
def noText : String := "non-string panic payload"

/-- Logs a panic at `location` with the given text. -/
def panic (l : Log) (location : String) (text : Option String) : Log :=
  l.write ⟨.error, "event=panic_captured module=core status=error location=" ++ location
    ++ " payload=" ++ cleaned panicMax (text.getD noText)⟩

/-! ### Files -/

/-- The name of the file that records are written to. -/
def currentFile : String := "vocab_core_rCURRENT.log"

/-- The names of the files in the directory of a started log, in ascending order. -/
def fileNames (l : Log) : List String :=
  match l.settings with
  | none => []
  | some s =>
    let here := Place.target s.directory
    let others := l.files.filterMap fun f => if f.dropLast = here then f.getLast? else none
    (TextMap.ofList ((currentFile :: others).map fun n => (n, ()))).keys

end Log

end Newsroom
