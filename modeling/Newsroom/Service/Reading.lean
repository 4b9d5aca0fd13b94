import Newsroom.Reading.Casting
import Newsroom.Reading.Projection
import Newsroom.Service.Context
import Newsroom.Service.Error

/-!
# Reading vocabularies

What readers get. Unless a request lists manageable vocabularies, documents are shaped: inactive
items and activity flags are left out, the requested language is laid over the items, and typed
fields are cast.
-/

namespace Newsroom

namespace Engine

variable (e : Engine)

/-- A document in the shape for readers. -/
def shapeForReader (ctx : Context) (v : Vocabulary) : Vocabulary :=
  let v := v.withoutInactive
  let v : Vocabulary := { v with items := localizeItems v.items ctx.language }
  v.castItems (e.config.casts? v.id)

/-- A document as the request gets it. -/
def presented (ctx : Context) (v : Vocabulary) : Vocabulary :=
  if ctx.requestsManageable then v else e.shapeForReader ctx v

/-- The vocabularies that answer a query, as the request gets them. -/
def fetch (q : ListQuery) (ctx : Context) (s : Store) : Except ServiceError (List Vocabulary) :=
  fromStore ((Store.list e.text s q).map fun docs => docs.map (e.presented ctx))

/-- One active vocabulary, as the request gets it. -/
def fetchOne (id : String) (ctx : Context) (s : Store) : Except ServiceError Vocabulary :=
  fromStore ((Store.get e.text s id).map (e.presented ctx))

/-- The active vocabulary under `id` as it is stored. -/
def findOne (id : String) (s : Store) : Except ServiceError (Option Vocabulary) :=
  fromStore (Store.find e.text s id)

/-- The items of a vocabulary that a query selects; a missing vocabulary has none. -/
def getItems (id : String) (q : ItemQuery) (s : Store) :
    Except ServiceError (List SchemedItem) :=
  (e.findOne id s).map fun found =>
    match found with
    | some v => v.project q
    | none => []

/-- The active items of the vocabulary of languages. -/
def getLanguages (s : Store) : Except ServiceError (List SchemedItem) :=
  e.getItems e.config.languagesVocabulary .all s

/-- The vocabularies behind custom article fields. -/
def getExtraFields (s : Store) : Except ServiceError (List Vocabulary) :=
  fromStore (Store.list e.text s { ListQuery.all with fieldType := .present })

/-- The vocabularies that are bound to services and no custom fields. -/
def getCustomVocabularies (s : Store) : Except ServiceError (List Vocabulary) :=
  fromStore (Store.list e.text s
    { ListQuery.all with fieldType := .absent, hasService := some true })

/-- Those of them that are hidden from editors. -/
def getForbiddenCustomVocabularies (s : Store) : Except ServiceError (List Vocabulary) :=
  fromStore (Store.list e.text s
    { ListQuery.all with
      fieldType := .absent, hasService := some true, selection := some .hidden })

/-- The field options of a vocabulary; none when it is missing or has none. -/
def getFieldOptions (id : String) (s : Store) : Except ServiceError (TextMap Json) :=
  (e.findOne id s).map fun found => (found.bind Vocabulary.fieldOptions).getD ∅

end Engine

/-- The part of a name before its first double dash. -/
def beforeDoubleDash : List Char → List Char
  | [] => []
  | '-' :: '-' :: _ => []
  | c :: rest => c :: beforeDoubleDash rest

namespace Engine

variable (e : Engine)

/-- Whether a name, up to its first double dash, is the key of a vocabulary of related content. -/
def isRelatedContent (name : String) (s : Store) : Except ServiceError Bool :=
  let key := String.ofList (beforeDoubleDash name.toList)
  (fromStore (Store.list e.text s
    { ListQuery.all with fieldType := .equals e.config.relatedContentFieldType })).map
      fun docs => docs.any fun v => v.id = key

end Engine

end Newsroom
