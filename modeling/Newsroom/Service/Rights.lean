import Newsroom.Service.Reading

/-!
# Rights of articles

Finds the copyright and usage terms of an article: in the vocabulary of rights, the item named by
the article's source, or else the one named `default`, in the language of the article.
-/

namespace Newsroom

/-- What of an article decides about its rights. -/
structure Article where
  /-- The source. -/
  source : Option String
  /-- The source that the article came from first. -/
  firstSource : Option String
  /-- The language. -/
  language : Option String
  deriving DecidableEq

namespace Article

/-- The fields of an article. -/
def knownFields : List String := ["source", "original_source", "language"]

/-- Reads an article. -/
def ofJson? (v : Json) : Option Article := do
  let ms ← Json.record? knownFields v
  let source ← Json.optional? "source" Json.asString? ms
  let firstSource ← Json.optional? "original_source" Json.asString? ms
  let language ← Json.optional? "language" Json.asString? ms
  return ⟨source, firstSource, language⟩

/-- The name of the rights of an article without source. -/
def defaultRights : String := "default"

/-- The name of the rights of an article: its source, its first source, or `default`. -/
def rightsKey (a : Article) : String :=
  (a.source.or a.firstSource).getD defaultRights

end Article

/-- Copyright and usage terms. -/
structure Rights where
  /-- Who holds the copyright. -/
  holder : Option String
  /-- The copyright notice. -/
  notice : Option String
  /-- The terms of use. -/
  terms : Option String
  deriving DecidableEq

namespace Rights

/-- Nothing known. -/
def empty : Rights := ⟨none, none, none⟩

/-- Whether nothing is known. -/
def isEmpty (r : Rights) : Bool := r.holder.isNone && r.notice.isNone && r.terms.isNone

/-- The text of a field, unless it is missing or `null`. -/
def text? (i : Item) (field : String) : Option String :=
  ((i.field field).filter fun v => !v.isNull).map Json.text

/-- The terms that an item states. -/
def ofItem (i : Item) : Rights :=
  ⟨text? i "copyrightHolder", text? i "copyrightNotice", text? i "usageTerms"⟩

/-- The record of the terms. -/
def toJson (r : Rights) : Json :=
  let field (v : Option String) : Json :=
    match v with
    | some s => .string s
    | none => .null
  .object [("copyrightholder", field r.holder), ("copyrightnotice", field r.notice),
    ("usageterms", field r.terms)]

end Rights

/-- The first item with the given name. -/
def namedItem? (items : List Item) (name : String) : Option Item :=
  items.find? fun i => i.name = some name

/-- The item of an article's rights: the one named by its source, else the default one. -/
def rightsItem? (items : List Item) (a : Article) : Option Item :=
  (namedItem? items a.rightsKey).or (namedItem? items Article.defaultRights)

/-- The rights of an article; nothing when no item states them. -/
def Engine.getRights (e : Engine) (a : Article) (s : Store) : Except ServiceError Rights :=
  (e.findOne e.config.rightsVocabulary s).map fun found =>
    match found with
    | none => .empty
    | some v =>
      match rightsItem? (localizeItems v.items a.language) a with
      | some i => Rights.ofItem i
      | none => .empty

end Newsroom
