/-!
# The journal

What an operation tells the outside, in order: log records and published events. Records carry
keys, counts and codes, never the contents of items.
-/

namespace Newsroom

/-- How grave a log record is. -/
inductive Level where
  /-- Something failed. -/
  | error
  /-- Something was refused. -/
  | warn
  /-- Something was done. -/
  | info
  /-- Something was looked into. -/
  | debug
  /-- Everything else. -/
  | trace
  deriving DecidableEq, Repr

namespace Level

/-- The name of the level in lower case. -/
def name : Level → String
  | .error => "error"
  | .warn => "warn"
  | .info => "info"
  | .debug => "debug"
  | .trace => "trace"

/-- The name of the level in upper case, as it stands in log lines. -/
def label : Level → String
  | .error => "ERROR"
  | .warn => "WARN"
  | .info => "INFO"
  | .debug => "DEBUG"
  | .trace => "TRACE"

/-- The rank of the level: the graver, the lower. -/
def rank : Level → Nat
  | .error => 1
  | .warn => 2
  | .info => 3
  | .debug => 4
  | .trace => 5

/-- The level with the given name in lower case. -/
def ofName? (s : String) : Option Level :=
  if s = "error" then some .error
  else if s = "warn" then some .warn
  else if s = "info" then some .info
  else if s = "debug" then some .debug
  else if s = "trace" then some .trace
  else none

theorem ofName?_name (l : Level) : ofName? l.name = some l := by
  cases l <;> simp [ofName?, name]

end Level

/-- A log record. -/
structure Record where
  /-- How grave it is. -/
  level : Level
  /-- The message. -/
  text : String
  deriving DecidableEq, Repr

/-- The kinds of published events. -/
inductive Change where
  /-- A vocabulary was created. -/
  | created
  /-- A vocabulary was updated or replaced. -/
  | updated
  deriving DecidableEq, Repr

/-- The name that an event is published under. -/
def Change.event : Change → String
  | .created => "vocabularies:created"
  | .updated => "vocabularies:updated"

/-- A published event. -/
structure Notice where
  /-- What happened. -/
  change : Change
  /-- The display name of the vocabulary. -/
  vocabulary : String
  /-- The acting user, if the request named one. -/
  user : Option String
  /-- The key of the vocabulary. -/
  id : String
  deriving DecidableEq, Repr

/-- An entry of the journal. -/
inductive Entry where
  /-- A log record. -/
  | record (record : Record)
  /-- A published event. -/
  | notice (notice : Notice)
  deriving DecidableEq, Repr

/-- The entries that operations make, in order. -/
abbrev Journal := List Entry

namespace Journal

/-- The published events. -/
def notices (j : Journal) : List Notice :=
  j.filterMap fun
    | .notice n => some n
    | .record _ => none

/-- The log records. -/
def records (j : Journal) : List Record :=
  j.filterMap fun
    | .record r => some r
    | .notice _ => none

/-- A published event as a log record. -/
def noticeRecord (n : Notice) : Record :=
  ⟨.info, "event=notification_publish module=notify name=" ++ n.change.event
    ++ " vocabulary_id=" ++ n.id ++ " user=" ++ n.user.getD "-"⟩

/-- The log records when events are published by logging them. -/
def recordsWithNotices (j : Journal) : List Record :=
  j.map fun
    | .record r => r
    | .notice n => noticeRecord n

theorem notices_append (j k : Journal) : notices (j ++ k) = notices j ++ notices k := by
  simp [notices]

end Journal

/-- A journal entry for a record of the given level. -/
def logged (level : Level) (text : String) : Entry := .record ⟨level, text⟩

end Newsroom
