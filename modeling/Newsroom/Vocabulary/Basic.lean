import Newsroom.Vocabulary.FieldSpec
import Newsroom.Vocabulary.Item

/-!
# Vocabularies

The vocabulary document and the partial update. Of an update only the fields that are present
take effect (`Vocabulary.applyUpdate`); identity, deletion flag and timestamps are no fields of
an update.
-/

namespace Newsroom

/-- A free-text tag of a vocabulary. -/
structure Tag where
  /-- The text. -/
  text : String
  deriving DecidableEq

/-- A relative date that a date field offers. -/
structure DateShortcut where
  /-- The distance from now. -/
  value : Int64
  /-- The unit of the distance. -/
  term : String
  /-- What editors see. -/
  label : String
  deriving DecidableEq

/-- Translations of a vocabulary's own display name. -/
structure NameTranslations where
  /-- The display name by language. -/
  displayName : TextMap String
  deriving DecidableEq

/-- A vocabulary document. -/
structure Vocabulary where
  /-- The key of the vocabulary. -/
  id : String
  /-- What editors see. -/
  displayName : String
  /-- A description. -/
  description : Option String
  /-- A short help for editors. -/
  helperText : Option String
  /-- Tags. -/
  tags : Option (List Tag)
  /-- The width of the editor's popup. -/
  popupWidth : Option Int64
  /-- Who maintains the vocabulary. -/
  kind : VocabularyKind
  /-- The items, in order. -/
  items : List Item
  /-- How editors pick values. -/
  selection : Option SelectionKind
  /-- Whether editors may change values. -/
  readOnly : Option Bool
  /-- The article field that holds the values. -/
  schemaField : Option String
  /-- Whether the field depends on another. -/
  dependent : Option Bool
  /-- The services that the vocabulary is bound to. -/
  service : Option (TextMap Int64)
  /-- The place among other vocabularies. -/
  priority : Option Int64
  /-- The field whose values are distinct among active items. -/
  uniqueField : Option String
  /-- The declared fields of the items. -/
  schema : Schema
  /-- Its presence marks a custom vocabulary. -/
  fieldType : Option String
  /-- Options of the custom field. -/
  fieldOptions : Option (TextMap Json)
  /-- The version of the data it was set up from. -/
  initVersion : Option Int64
  /-- Whether preferred items are offered. -/
  preferredItems : Option Bool
  /-- Whether whole categories cannot be picked. -/
  disableEntireCategory : Bool
  /-- Relative dates on offer. -/
  dateShortcuts : Option (List DateShortcut)
  /-- The type of a custom field. -/
  customFieldType : Option String
  /-- Settings of a custom field. -/
  customFieldConfig : Option (TextMap Json)
  /-- Translations of the display name. -/
  translations : Option NameTranslations
  /-- Whether the vocabulary is deleted; its id stays taken. -/
  deleted : Bool
  /-- When it was created, in milliseconds. -/
  created : Option Int64
  /-- When it was last written, in milliseconds. -/
  updated : Option Int64
  deriving DecidableEq

namespace Vocabulary

/-- The empty vocabulary with the given key, name and kind. -/
def new (id displayName : String) (kind : VocabularyKind) : Vocabulary where
  id := id
  displayName := displayName
  description := none
  helperText := none
  tags := none
  popupWidth := none
  kind := kind
  items := []
  selection := none
  readOnly := none
  schemaField := none
  dependent := none
  service := none
  priority := none
  uniqueField := none
  schema := ∅
  fieldType := none
  fieldOptions := none
  initVersion := none
  preferredItems := none
  disableEntireCategory := false
  dateShortcuts := none
  customFieldType := none
  customFieldConfig := none
  translations := none
  deleted := false
  created := none
  updated := none

instance : Inhabited Vocabulary := ⟨new "" "" .manageable⟩

/-- Custom vocabularies have a field type; only they may be deleted. -/
def custom (v : Vocabulary) : Bool := v.fieldType.isSome

/-- The vocabulary with `qcode` as its unique field when its schema declares `qcode` and it has
no unique field. -/
def withUniqueDefault (v : Vocabulary) : Vocabulary :=
  if v.uniqueField.isNone && v.schema.declares "qcode" then { v with uniqueField := some "qcode" }
  else v

/-- The vocabulary marked as deleted. -/
def softDeleted (v : Vocabulary) : Vocabulary := { v with deleted := true }

end Vocabulary

/-- A partial update: fields that are `none` leave the stored value alone. -/
structure VocabularyUpdate where
  /-- Sets the display name. -/
  displayName : Option String
  /-- Sets the description. -/
  description : Option String
  /-- Sets the help for editors. -/
  helperText : Option String
  /-- Sets the tags. -/
  tags : Option (List Tag)
  /-- Sets the popup width. -/
  popupWidth : Option Int64
  /-- Sets who maintains the vocabulary. -/
  kind : Option VocabularyKind
  /-- Replaces all items. -/
  items : Option (List Item)
  /-- Sets how editors pick values. -/
  selection : Option SelectionKind
  /-- Sets whether editors may change values. -/
  readOnly : Option Bool
  /-- Sets the article field. -/
  schemaField : Option String
  /-- Sets whether the field depends on another. -/
  dependent : Option Bool
  /-- Sets the services. -/
  service : Option (TextMap Int64)
  /-- Sets the place among other vocabularies. -/
  priority : Option Int64
  /-- Sets the unique field. -/
  uniqueField : Option String
  /-- Replaces the whole schema. -/
  schema : Option Schema
  /-- Sets the field type. -/
  fieldType : Option String
  /-- Sets the options of the custom field. -/
  fieldOptions : Option (TextMap Json)
  /-- Sets the version of the set-up data. -/
  initVersion : Option Int64
  /-- Sets whether preferred items are offered. -/
  preferredItems : Option Bool
  /-- Sets whether whole categories cannot be picked. -/
  disableEntireCategory : Option Bool
  /-- Sets the relative dates. -/
  dateShortcuts : Option (List DateShortcut)
  /-- Sets the type of a custom field. -/
  customFieldType : Option String
  /-- Sets the settings of a custom field. -/
  customFieldConfig : Option (TextMap Json)
  /-- Sets the translations of the display name. -/
  translations : Option NameTranslations
  deriving DecidableEq

namespace VocabularyUpdate

/-- The update that changes nothing. -/
def blank : VocabularyUpdate where
  displayName := none
  description := none
  helperText := none
  tags := none
  popupWidth := none
  kind := none
  items := none
  selection := none
  readOnly := none
  schemaField := none
  dependent := none
  service := none
  priority := none
  uniqueField := none
  schema := none
  fieldType := none
  fieldOptions := none
  initVersion := none
  preferredItems := none
  disableEntireCategory := none
  dateShortcuts := none
  customFieldType := none
  customFieldConfig := none
  translations := none

instance : Inhabited VocabularyUpdate := ⟨blank⟩

/-- The update that replaces the whole list of items. -/
def ofItems (items : List Item) : VocabularyUpdate := { blank with items := some items }

/-- Whether the update carries items. -/
def touchesItems (u : VocabularyUpdate) : Bool := u.items.isSome

end VocabularyUpdate

namespace Vocabulary

/-- The vocabulary with every field that is present in the update replaced. -/
def applyUpdate (v : Vocabulary) (u : VocabularyUpdate) : Vocabulary where
  id := v.id
  displayName := u.displayName.getD v.displayName
  description := u.description.or v.description
  helperText := u.helperText.or v.helperText
  tags := u.tags.or v.tags
  popupWidth := u.popupWidth.or v.popupWidth
  kind := u.kind.getD v.kind
  items := u.items.getD v.items
  selection := u.selection.or v.selection
  readOnly := u.readOnly.or v.readOnly
  schemaField := u.schemaField.or v.schemaField
  dependent := u.dependent.or v.dependent
  service := u.service.or v.service
  priority := u.priority.or v.priority
  uniqueField := u.uniqueField.or v.uniqueField
  schema := u.schema.getD v.schema
  fieldType := u.fieldType.or v.fieldType
  fieldOptions := u.fieldOptions.or v.fieldOptions
  initVersion := u.initVersion.or v.initVersion
  preferredItems := u.preferredItems.or v.preferredItems
  disableEntireCategory := u.disableEntireCategory.getD v.disableEntireCategory
  dateShortcuts := u.dateShortcuts.or v.dateShortcuts
  customFieldType := u.customFieldType.or v.customFieldType
  customFieldConfig := u.customFieldConfig.or v.customFieldConfig
  translations := u.translations.or v.translations
  deleted := v.deleted
  created := v.created
  updated := v.updated

end Vocabulary

end Newsroom
