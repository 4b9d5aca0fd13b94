import Newsroom.Json.Reader
import Newsroom.Vocabulary.Basic

/-!
# The stored form of vocabularies

Documents and updates as JSON records. Fields that are not there are left out when writing;
`items` and the flag for whole categories are always written, the deletion flag only when it is
set, the schema of a document only when it declares a field. Fields that no document knows are
dropped when reading.
-/

namespace Newsroom

namespace Tag

/-- The field of a tag. -/
def knownFields : List String := ["text"]

/-- The stored form. -/
def toJson (t : Tag) : Json := .object (Json.member "text" (.string t.text))

/-- Reads a tag. -/
def ofJson? (v : Json) : Option Tag := do
  let members ← Json.record? knownFields v
  return ⟨← Json.required? "text" Json.asString? members⟩

end Tag

namespace DateShortcut

/-- The fields of a relative date. -/
def knownFields : List String := ["value", "term", "label"]

/-- The stored form. -/
def toJson (d : DateShortcut) : Json :=
  .object (Json.member "value" (.ofInt d.value) ++ Json.member "term" (.string d.term)
    ++ Json.member "label" (.string d.label))

/-- Reads a relative date. -/
def ofJson? (v : Json) : Option DateShortcut := do
  let members ← Json.record? knownFields v
  let value ← Json.required? "value" Json.asInt? members
  let term ← Json.required? "term" Json.asString? members
  let label ← Json.required? "label" Json.asString? members
  return ⟨value, term, label⟩

end DateShortcut

namespace NameTranslations

/-- The field of the translations. -/
def knownFields : List String := ["display_name"]

/-- The stored form; no languages leave the field out. -/
def toJson (t : NameTranslations) : Json :=
  .object (if t.displayName.isEmpty then []
    else Json.member "display_name" (Json.ofMap .string t.displayName))

/-- Reads translations. -/
def ofJson? (v : Json) : Option NameTranslations := do
  let members ← Json.record? knownFields v
  return ⟨← Json.defaulted? "display_name" ∅ (Json.asMap? Json.asString?) members⟩

end NameTranslations

/-- A list as an array. -/
def Json.ofList {α : Type} (f : α → Json) (xs : List α) : Json := .array (xs.map f)

/-- Reads the name of a kind. -/
def VocabularyKind.ofJson? (v : Json) : Option VocabularyKind := v.asChoice?.bind ofName?

/-- The name of a kind as a value. -/
def VocabularyKind.toJson (k : VocabularyKind) : Json := .string k.name

/-- Reads the name of a selection. -/
def SelectionKind.ofJson? (v : Json) : Option SelectionKind := v.asChoice?.bind ofName?

/-- The name of a selection as a value. -/
def SelectionKind.toJson (k : SelectionKind) : Json := .string k.name

/-- A free-form map as an object. -/
def Json.ofFreeMap (m : TextMap Json) : Json := .object m.entries

namespace Vocabulary

/-- The fields of a document, in stored order. -/
def knownFields : List String :=
  ["_id", "display_name", "description", "helper_text", "tags", "popup_width", "type", "items",
    "selection_type", "read_only", "schema_field", "dependent", "service", "priority",
    "unique_field", "schema", "field_type", "field_options", "init_version", "preffered_items",
    "disable_entire_category_selection", "date_shortcuts", "custom_field_type",
    "custom_field_config", "translations", "_deleted", "_created", "_updated"]

/-- The parts that are read of the field under `key`: all of it, but of tags, relative dates and
translations only the known fields. -/
def fieldShape (key : String) : Shape :=
  if key = "tags" then .list (.record (Tag.knownFields.map (·, .whole)))
  else if key = "date_shortcuts" then .list (.record (DateShortcut.knownFields.map (·, .whole)))
  else if key = "translations" then .record (NameTranslations.knownFields.map (·, .whole))
  else .whole

/-- The parts of a text that are read as a document. -/
def shape : Shape := .record (knownFields.map fun key => (key, fieldShape key))

/-- The members of the stored form. -/
def members (v : Vocabulary) : List (String × Json) :=
  Json.member "_id" (.string v.id)
    ++ Json.member "display_name" (.string v.displayName)
    ++ Json.optionalMember "description" .string v.description
    ++ Json.optionalMember "helper_text" .string v.helperText
    ++ Json.optionalMember "tags" (Json.ofList Tag.toJson) v.tags
    ++ Json.optionalMember "popup_width" Json.ofInt v.popupWidth
    ++ Json.member "type" v.kind.toJson
    ++ Json.member "items" (Json.ofList Item.toJson v.items)
    ++ Json.optionalMember "selection_type" SelectionKind.toJson v.selection
    ++ Json.optionalMember "read_only" .bool v.readOnly
    ++ Json.optionalMember "schema_field" .string v.schemaField
    ++ Json.optionalMember "dependent" .bool v.dependent
    ++ Json.optionalMember "service" (Json.ofMap Json.ofInt) v.service
    ++ Json.optionalMember "priority" Json.ofInt v.priority
    ++ Json.optionalMember "unique_field" .string v.uniqueField
    ++ (if v.schema.fields.isEmpty then [] else Json.member "schema" v.schema.toJson)
    ++ Json.optionalMember "field_type" .string v.fieldType
    ++ Json.optionalMember "field_options" Json.ofFreeMap v.fieldOptions
    ++ Json.optionalMember "init_version" Json.ofInt v.initVersion
    ++ Json.optionalMember "preffered_items" .bool v.preferredItems
    ++ Json.member "disable_entire_category_selection" (.bool v.disableEntireCategory)
    ++ Json.optionalMember "date_shortcuts" (Json.ofList DateShortcut.toJson) v.dateShortcuts
    ++ Json.optionalMember "custom_field_type" .string v.customFieldType
    ++ Json.optionalMember "custom_field_config" Json.ofFreeMap v.customFieldConfig
    ++ Json.optionalMember "translations" NameTranslations.toJson v.translations
    ++ Json.flagMember "_deleted" v.deleted
    ++ Json.optionalMember "_created" Json.ofInt v.created
    ++ Json.optionalMember "_updated" Json.ofInt v.updated

/-- The stored form. -/
def toJson (v : Vocabulary) : Json := .object v.members

/-- Reads a document. -/
def ofJson? (v : Json) : Option Vocabulary := do
  let ms ← Json.record? knownFields v
  let id ← Json.required? "_id" Json.asString? ms
  let displayName ← Json.required? "display_name" Json.asString? ms
  let description ← Json.optional? "description" Json.asString? ms
  let helperText ← Json.optional? "helper_text" Json.asString? ms
  let tags ← Json.optional? "tags" (Json.asList? Tag.ofJson?) ms
  let popupWidth ← Json.optional? "popup_width" Json.asInt? ms
  let kind ← Json.required? "type" VocabularyKind.ofJson? ms
  let items ← Json.defaulted? "items" [] (Json.asList? Item.ofJson?) ms
  let selection ← Json.optional? "selection_type" SelectionKind.ofJson? ms
  let readOnly ← Json.optional? "read_only" Json.asBool? ms
  let schemaField ← Json.optional? "schema_field" Json.asString? ms
  let dependent ← Json.optional? "dependent" Json.asBool? ms
  let service ← Json.optional? "service" (Json.asMap? Json.asInt?) ms
  let priority ← Json.optional? "priority" Json.asInt? ms
  let uniqueField ← Json.optional? "unique_field" Json.asString? ms
  let schema ← Json.defaulted? "schema" ∅ Schema.ofJson? ms
  let fieldType ← Json.optional? "field_type" Json.asString? ms
  let fieldOptions ← Json.optional? "field_options" Json.asFreeMap? ms
  let initVersion ← Json.optional? "init_version" Json.asInt? ms
  let preferredItems ← Json.optional? "preffered_items" Json.asBool? ms
  let disableEntireCategory ←
    Json.defaulted? "disable_entire_category_selection" false Json.asBool? ms
  let dateShortcuts ← Json.optional? "date_shortcuts" (Json.asList? DateShortcut.ofJson?) ms
  let customFieldType ← Json.optional? "custom_field_type" Json.asString? ms
  let customFieldConfig ← Json.optional? "custom_field_config" Json.asFreeMap? ms
  let translations ← Json.optional? "translations" NameTranslations.ofJson? ms
  let deleted ← Json.defaulted? "_deleted" false Json.asBool? ms
  let created ← Json.optional? "_created" Json.asInt? ms
  let updated ← Json.optional? "_updated" Json.asInt? ms
  return {
    id, displayName, description, helperText, tags, popupWidth, kind, items, selection, readOnly,
    schemaField, dependent, service, priority, uniqueField, schema, fieldType, fieldOptions,
    initVersion, preferredItems, disableEntireCategory, dateShortcuts, customFieldType,
    customFieldConfig, translations, deleted, created, updated }

end Vocabulary

namespace VocabularyUpdate

/-- The fields of an update, in stored order. -/
def knownFields : List String :=
  ["display_name", "description", "helper_text", "tags", "popup_width", "type", "items",
    "selection_type", "read_only", "schema_field", "dependent", "service", "priority",
    "unique_field", "schema", "field_type", "field_options", "init_version", "preffered_items",
    "disable_entire_category_selection", "date_shortcuts", "custom_field_type",
    "custom_field_config", "translations"]

/-- The parts of a text that are read as an update: those of a document under its fields. -/
def shape : Shape :=
  match Vocabulary.shape with
  | .record fields => .record (fields.filter fun e => knownFields.contains e.1)
  | s => s

/-- The members of the stored form. -/
def members (u : VocabularyUpdate) : List (String × Json) :=
  Json.optionalMember "display_name" .string u.displayName
    ++ Json.optionalMember "description" .string u.description
    ++ Json.optionalMember "helper_text" .string u.helperText
    ++ Json.optionalMember "tags" (Json.ofList Tag.toJson) u.tags
    ++ Json.optionalMember "popup_width" Json.ofInt u.popupWidth
    ++ Json.optionalMember "type" VocabularyKind.toJson u.kind
    ++ Json.optionalMember "items" (Json.ofList Item.toJson) u.items
    ++ Json.optionalMember "selection_type" SelectionKind.toJson u.selection
    ++ Json.optionalMember "read_only" .bool u.readOnly
    ++ Json.optionalMember "schema_field" .string u.schemaField
    ++ Json.optionalMember "dependent" .bool u.dependent
    ++ Json.optionalMember "service" (Json.ofMap Json.ofInt) u.service
    ++ Json.optionalMember "priority" Json.ofInt u.priority
    ++ Json.optionalMember "unique_field" .string u.uniqueField
    ++ Json.optionalMember "schema" Schema.toJson u.schema
    ++ Json.optionalMember "field_type" .string u.fieldType
    ++ Json.optionalMember "field_options" Json.ofFreeMap u.fieldOptions
    ++ Json.optionalMember "init_version" Json.ofInt u.initVersion
    ++ Json.optionalMember "preffered_items" .bool u.preferredItems
    ++ Json.optionalMember "disable_entire_category_selection" .bool u.disableEntireCategory
    ++ Json.optionalMember "date_shortcuts" (Json.ofList DateShortcut.toJson) u.dateShortcuts
    ++ Json.optionalMember "custom_field_type" .string u.customFieldType
    ++ Json.optionalMember "custom_field_config" Json.ofFreeMap u.customFieldConfig
    ++ Json.optionalMember "translations" NameTranslations.toJson u.translations

/-- The stored form. -/
def toJson (u : VocabularyUpdate) : Json := .object u.members

/-- Reads an update. -/
def ofJson? (v : Json) : Option VocabularyUpdate := do
  let ms ← Json.record? knownFields v
  let displayName ← Json.optional? "display_name" Json.asString? ms
  let description ← Json.optional? "description" Json.asString? ms
  let helperText ← Json.optional? "helper_text" Json.asString? ms
  let tags ← Json.optional? "tags" (Json.asList? Tag.ofJson?) ms
  let popupWidth ← Json.optional? "popup_width" Json.asInt? ms
  let kind ← Json.optional? "type" VocabularyKind.ofJson? ms
  let items ← Json.optional? "items" (Json.asList? Item.ofJson?) ms
  let selection ← Json.optional? "selection_type" SelectionKind.ofJson? ms
  let readOnly ← Json.optional? "read_only" Json.asBool? ms
  let schemaField ← Json.optional? "schema_field" Json.asString? ms
  let dependent ← Json.optional? "dependent" Json.asBool? ms
  let service ← Json.optional? "service" (Json.asMap? Json.asInt?) ms
  let priority ← Json.optional? "priority" Json.asInt? ms
  let uniqueField ← Json.optional? "unique_field" Json.asString? ms
  let schema ← Json.optional? "schema" Schema.ofJson? ms
  let fieldType ← Json.optional? "field_type" Json.asString? ms
  let fieldOptions ← Json.optional? "field_options" Json.asFreeMap? ms
  let initVersion ← Json.optional? "init_version" Json.asInt? ms
  let preferredItems ← Json.optional? "preffered_items" Json.asBool? ms
  let disableEntireCategory ← Json.optional? "disable_entire_category_selection" Json.asBool? ms
  let dateShortcuts ← Json.optional? "date_shortcuts" (Json.asList? DateShortcut.ofJson?) ms
  let customFieldType ← Json.optional? "custom_field_type" Json.asString? ms
  let customFieldConfig ← Json.optional? "custom_field_config" Json.asFreeMap? ms
  let translations ← Json.optional? "translations" NameTranslations.ofJson? ms
  return {
    displayName, description, helperText, tags, popupWidth, kind, items, selection, readOnly,
    schemaField, dependent, service, priority, uniqueField, schema, fieldType, fieldOptions,
    initVersion, preferredItems, disableEntireCategory, dateShortcuts, customFieldType,
    customFieldConfig, translations }

end VocabularyUpdate

end Newsroom
