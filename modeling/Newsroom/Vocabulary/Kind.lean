import Newsroom.Text.Casing

/-!
# Kinds of vocabularies, selections and casts

The three closed choices that a vocabulary document names by text.
-/

namespace Newsroom

/-- Who maintains a vocabulary. -/
inductive VocabularyKind where
  /-- Editors maintain the list. -/
  | manageable
  /-- The system maintains the list; editors only read it. -/
  | unmanageable
  deriving DecidableEq, Repr

namespace VocabularyKind

/-- The stored name of the kind. -/
def name : VocabularyKind → String
  | .manageable => "manageable"
  | .unmanageable => "unmanageable"

/-- The kind with the given stored name. -/
def ofName? (s : String) : Option VocabularyKind :=
  if s = "manageable" then some .manageable
  else if s = "unmanageable" then some .unmanageable
  else none

theorem ofName?_name (k : VocabularyKind) : ofName? k.name = some k := by
  cases k <;> simp [ofName?, name]

theorem name_injective {k l : VocabularyKind} (h : k.name = l.name) : k = l := by
  have := congrArg ofName? h
  simpa [ofName?_name] using this

end VocabularyKind

/-- How editors pick values from a vocabulary. -/
inductive SelectionKind where
  /-- One value. -/
  | single
  /-- Several values. -/
  | multiple
  /-- Hidden from editors. -/
  | hidden
  deriving DecidableEq, Repr

namespace SelectionKind

/-- The stored name of the kind. -/
def name : SelectionKind → String
  | .single => "single selection"
  | .multiple => "multi selection"
  | .hidden => "do not show"

/-- The kind with the given stored name. -/
def ofName? (s : String) : Option SelectionKind :=
  if s = "single selection" then some .single
  else if s = "multi selection" then some .multiple
  else if s = "do not show" then some .hidden
  else none

theorem ofName?_name (k : SelectionKind) : ofName? k.name = some k := by
  cases k <;> simp [ofName?, name]

theorem name_injective {k l : SelectionKind} (h : k.name = l.name) : k = l := by
  have := congrArg ofName? h
  simpa [ofName?_name] using this

end SelectionKind

/-- The type that values of a field are cast to when they are read. -/
inductive Cast where
  /-- A whole number. -/
  | integer
  /-- Any number. -/
  | number
  /-- A flag. -/
  | boolean
  /-- Text. -/
  | string
  deriving DecidableEq, Repr

namespace Cast

/-- The name used in the engine's settings. -/
def name : Cast → String
  | .integer => "integer"
  | .number => "number"
  | .boolean => "boolean"
  | .string => "string"

/-- The cast with exactly the given name. -/
def ofName? (s : String) : Option Cast :=
  if s = "integer" then some .integer
  else if s = "number" then some .number
  else if s = "boolean" then some .boolean
  else if s = "string" then some .string
  else none

/-- The cast that a schema declares: blanks around the word and the case of its ASCII letters do
not count, and the short words are understood too. Other words declare no cast. -/
def ofWord? (s : String) : Option Cast :=
  let word := Text.asciiLower (Text.trim s)
  if word = "int" then some .integer
  else if word = "float" then some .number
  else if word = "bool" then some .boolean
  else ofName? word

theorem ofName?_name (c : Cast) : ofName? c.name = some c := by
  cases c <;> simp [ofName?, name]

end Cast

end Newsroom
