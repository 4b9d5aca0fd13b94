import Newsroom.Vocabulary.Basic

/-!
# Rules about one document

What can be wrong with a vocabulary, and the checks that need no other vocabulary: the form of
the key, the length of the help text, and the distinct values of the unique field. Every error
has a code for programs and a message for people; errors about an item carry its index.
-/

namespace Newsroom

/-- A violated rule. -/
inductive ValidationError where
  /-- The key has a character that keys do not have, or none at all. -/
  | invalidId (id : String)
  /-- The help text is longer than `max` characters. -/
  | helperTextTooLong (length max : Nat)
  /-- An item lacks a value that it must carry. -/
  | missingField (field : String) (item : Nat)
  /-- No item of `vocabulary` carries the value of an item in the field it must come from. -/
  | unresolvedReference (vocabulary field value : String) (item : Nat)
  /-- An earlier active item has the value already. -/
  | duplicateValue (field value : String) (item : Nat)
  /-- An active item has no value in the unique field. -/
  | emptyUniqueValue (field : String) (item : Nat)
  deriving DecidableEq, Repr

namespace ValidationError

/-- The code for programs. -/
def code : ValidationError → String
  | .invalidId _ => "invalid_id"
  | .helperTextTooLong _ _ => "helper_text_too_long"
  | .missingField _ _ => "required_field"
  | .unresolvedReference _ _ _ _ => "unresolved_reference"
  | .duplicateValue _ _ _ => "duplicate_value"
  | .emptyUniqueValue _ _ => "empty_unique_value"

/-- The index of the item that violates the rule. -/
def item? : ValidationError → Option Nat
  | .invalidId _ | .helperTextTooLong _ _ => none
  | .missingField _ i | .unresolvedReference _ _ _ i | .duplicateValue _ _ i
  | .emptyUniqueValue _ i => some i

/-- The message for people. -/
def message : ValidationError → String
  | .invalidId id => "vocabulary id `" ++ id ++ "` must match ^[a-zA-Z0-9-_]+$"
  | .helperTextTooLong length max =>
    "helper_text has " ++ toString length ++ " characters; max is " ++ toString max
  | .missingField field i => "Required " ++ field ++ " in item " ++ toString i
  | .unresolvedReference vocabulary field value i =>
    vocabulary ++ " \"" ++ field ++ "=" ++ value ++ "\" not found (item " ++ toString i ++ ")"
  | .duplicateValue field value i =>
    "Value " ++ value ++ " for field " ++ field ++ " is not unique (item " ++ toString i ++ ")"
  | .emptyUniqueValue field i => field ++ " cannot be empty (item " ++ toString i ++ ")"

end ValidationError

/-! ### The form of a document -/

/-- Characters of a key: ASCII letters and digits, minus and underscore. -/
def isIdChar (c : Char) : Bool := c.isAlphanum || c = '-' || c = '_'

/-- A key has at least one character, and characters of keys only. -/
def isValidId (id : String) : Bool := !id.toList.isEmpty && id.toList.all isIdChar

/-- The greatest number of characters in a help text. -/
def helperTextMax : Nat := 120

/-- Checks the key, then the length of the help text. -/
def Vocabulary.validateShape (v : Vocabulary) : Except ValidationError Unit :=
  if !isValidId v.id then .error (.invalidId v.id)
  else
    match v.helperText with
    | some text =>
      if helperTextMax < text.length then .error (.helperTextTooLong text.length helperTextMax)
      else .ok ()
    | none => .ok ()

/-! ### Distinct values -/

/-- The value of a field that is not empty. -/
def Item.filled? (i : Item) (field : String) : Option Json :=
  (i.field field).filter fun v => !v.isEmpty

/-- Checks the active items from `index` on, given the upper-cased values of the earlier ones. -/
def checkDistinct (field : String) : List String → Nat → List Item → Except ValidationError Unit
  | _, _, [] => .ok ()
  | seen, index, item :: rest =>
    if !item.active then checkDistinct field seen (index + 1) rest
    else
      match item.filled? field with
      | none => .error (.emptyUniqueValue field index)
      | some value =>
        let key := Text.upper value.text
        if seen.contains key then .error (.duplicateValue field value.text index)
        else checkDistinct field (key :: seen) (index + 1) rest

/-- Checks that every active item has a value of `field` and that the texts of these values
differ in more than case. Items that are not active do not count. -/
def checkUniqueness (items : List Item) (field : String) : Except ValidationError Unit :=
  checkDistinct field [] 0 items

/-- Checks the unique field of a vocabulary, if it has one, over the given items. -/
def checkUnique (uniqueField : Option String) (items : List Item) : Except ValidationError Unit :=
  match uniqueField with
  | some field => checkUniqueness items field
  | none => .ok ()

end Newsroom
