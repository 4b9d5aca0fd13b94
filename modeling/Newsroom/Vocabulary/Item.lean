import Newsroom.Json.Printer
import Newsroom.Json.Record

/-!
# Items

One entry of a vocabulary. An item is a free-form object, of which four fields have a typed slot:
`name`, `qcode`, `is_active` and `translations`. A value of the expected type lives in its slot;
any other value under one of these names lives in `extra`, like the values of all other fields.
`field` and `setField` address a field by its name wherever its value lives.

The type does not rule out a value in both places; `Item.ofJson?` and every operation here keep
it in one.
-/

namespace Newsroom

/-- Alternate values of fields, by field and language. -/
abbrev Translations := TextMap (TextMap Json)

namespace Translations

/-- The object of objects that the translations are stored as. -/
def toJson (t : Translations) : Json :=
  .object (t.entries.map fun e => (e.1, .object e.2.entries))

/-- The languages of one field. -/
def languages? : Json → Option (TextMap Json)
  | .object members => TextMap.ofAscending? members
  | _ => none

/-- Reads an object of objects, both with their keys in ascending order. -/
def ofJson? : Json → Option Translations
  | .object members =>
    (allSome? (fun e => (languages? e.2).map fun l => (e.1, l)) members).bind TextMap.ofAscending?
  | _ => none

/-- The value of `field` in `language`. -/
def value? (t : Translations) (field language : String) : Option Json :=
  (t.get? field).bind fun languages => languages.get? language

end Translations

/-- One entry of a vocabulary. -/
structure Item where
  /-- The display name, when it is text. -/
  name : Option String
  /-- The code, when it is text. -/
  qcode : Option String
  /-- The activity flag, when it is a flag. -/
  isActive : Option Bool
  /-- The translations, when they are well-formed. -/
  translations : Option Translations
  /-- All other values. -/
  extra : TextMap Json
  deriving DecidableEq

namespace Item

/-- The item without values. -/
def blank : Item := ⟨none, none, none, none, ∅⟩

instance : Inhabited Item := ⟨blank⟩

/-- The active item whose name and code are both `value`. -/
def named (value : String) : Item :=
  { blank with name := some value, qcode := some value, isActive := some true }

/-- An item is active unless its flag says otherwise. -/
def active (i : Item) : Bool := i.isActive ≠ some false

/-! ### Fields by name -/

/-- Values that a text slot takes; `null` clears it. -/
def takesText : Json → Bool
  | .null | .string _ => true
  | _ => false

/-- Values that the activity slot takes; `null` clears it. -/
def takesFlag : Json → Bool
  | .null | .bool _ => true
  | _ => false

/-- Values that the translations slot takes; `null` clears it. -/
def takesTranslations (v : Json) : Bool := v.isNull || (Translations.ofJson? v).isSome

/-- The value in the typed slot of a field. -/
def slot? (i : Item) (field : String) : Option Json :=
  if field = "name" then i.name.map .string
  else if field = "qcode" then i.qcode.map .string
  else if field = "is_active" then i.isActive.map .bool
  else if field = "translations" then i.translations.map Translations.toJson
  else none

/-- The value of a field, from its slot if that is filled. -/
def field (i : Item) (field : String) : Option Json :=
  (i.slot? field).or (i.extra.get? field)

/-- The value of a field as text. -/
def fieldText (i : Item) (field : String) : Option String := (i.field field).map Json.text

/-- Whether a field carries a value that is not empty. -/
def hasValue (i : Item) (field : String) : Bool :=
  match i.field field with
  | some v => !v.isEmpty
  | none => false

/-- The extra values after `value` was set under `field`, where `taken` says that the slot of the
field takes it. -/
def settle (extra : TextMap Json) (field : String) (value : Json) (taken : Bool) : TextMap Json :=
  if taken then extra.erase field else extra.insert field value

/-- Sets a field. A value that the slot of the field does not take goes to the extra values,
except that an activity flag which is neither a flag nor `null` is not set at all. -/
def setField (i : Item) (field : String) (value : Json) : Item :=
  if field = "name" then
    { i with name := value.asString?, extra := settle i.extra field value (takesText value) }
  else if field = "qcode" then
    { i with qcode := value.asString?, extra := settle i.extra field value (takesText value) }
  else if field = "is_active" then
    if takesFlag value then { i with isActive := value.asBool?, extra := i.extra.erase field } else i
  else if field = "translations" then
    { i with
      translations := Translations.ofJson? value
      extra := settle i.extra field value (takesTranslations value) }
  else { i with extra := i.extra.insert field value }

/-- The value of `field` in `language`. -/
def translation? (i : Item) (field language : String) : Option Json :=
  i.translations.bind fun t => t.value? field language

/-- The item without its activity flag. -/
def withoutFlag (i : Item) : Item := { i with isActive := none }

/-! ### JSON form -/

/-- Removes `field` when `p` holds of its value. -/
def takeOut (p : Json → Bool) (field : String) (values : TextMap Json) : TextMap Json :=
  match values.get? field with
  | some v => if p v then values.erase field else values
  | none => values

/-- The item with the given values: each is put into its slot if it has the expected type and
dropped if it is a `null` for a name, code or translations; the others are extra. -/
def ofValues (values : TextMap Json) : Item where
  name := (values.get? "name").bind Json.asString?
  qcode := (values.get? "qcode").bind Json.asString?
  isActive := (values.get? "is_active").bind Json.asBool?
  translations := (values.get? "translations").bind Translations.ofJson?
  extra := takeOut takesText "name" (takeOut takesText "qcode"
    (takeOut takesTranslations "translations"
      (takeOut (fun v => v.asBool?.isSome) "is_active" values)))

/-- Reads an item; only an object is one. -/
def ofJson? (v : Json) : Option Item := v.asFreeMap?.map ofValues

/-- The members of the stored form: the filled slots, then the extra values. -/
def members (i : Item) : List (String × Json) :=
  Json.optionalMember "name" .string i.name
    ++ Json.optionalMember "qcode" .string i.qcode
    ++ Json.optionalMember "is_active" .bool i.isActive
    ++ Json.optionalMember "translations" Translations.toJson i.translations
    ++ i.extra.entries

/-- The stored form. -/
def toJson (i : Item) : Json := .object i.members

end Item

end Newsroom
