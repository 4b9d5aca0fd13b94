import Newsroom.Vocabulary.Codec

/-!
# Items for readers

Lays the translations of items over their fields, selects items of a vocabulary and shapes them as
an article refers to them: without activity flag and with the key of their vocabulary as scheme. A
translation replaces only a field that the item carries; the translations themselves are never
replaced. A query for a code or a name finds at most one item, the first that matches.
-/

namespace Newsroom

/-! ### In a language -/

namespace Item

/-- Lays the value of one field in `language` over the item, if there is one. -/
def overlay (language : String) (i : Item) (entry : String × TextMap Json) : Item :=
  match entry.2.get? language with
  | some value => i.setField entry.1 value
  | none => i

/-- The item in `language`. Whether a field is carried is asked of the item as it was. -/
def localize (i : Item) (language : String) : Item :=
  match i.translations with
  | none => i
  | some t =>
    (t.entries.filter fun e => e.1 ≠ "translations" && (i.field e.1).isSome).foldl
      (overlay language) i

end Item

/-- The items in `language`; a missing or blank language changes nothing, and blanks around it do
not count. -/
def localizeItems (items : List Item) (language : Option String) : List Item :=
  match language.map Text.trim with
  | none => items
  | some l => if l.isEmpty then items else items.map fun i => i.localize l

/-! ### Queries -/

/-- What a reader asks of the items of a vocabulary. -/
structure ItemQuery where
  /-- The exact code. -/
  qcode : Option String
  /-- The name, up to case. -/
  name : Option String
  /-- The language of the name; none stands for the name itself. -/
  language : Option String
  /-- The activity; none stands for both. -/
  active : Option Bool
  deriving DecidableEq

namespace ItemQuery

/-- The query for all active items. -/
def all : ItemQuery := ⟨none, none, none, some true⟩

/-- Whether the query asks for one item by code or name. -/
def isLookup (q : ItemQuery) : Bool := q.qcode.isSome || q.name.isSome

/-- The text of an item's name in the language of the query. -/
def nameOf? (q : ItemQuery) (i : Item) : Option String :=
  match q.language with
  | some l => (i.translation? "name" l).map Json.text
  | none => i.fieldText "name"

/-- Whether an item has the code and the name that the query asks for. -/
def matchesItem (q : ItemQuery) (i : Item) : Bool :=
  (match q.qcode with
    | some code => i.fieldText "qcode" = some code
    | none => true)
  && (match q.name with
    | some name =>
      match q.nameOf? i with
      | some text => Text.lower text = Text.lower name
      | none => false
    | none => true)

end ItemQuery

/-- An item as an article refers to it. -/
structure SchemedItem where
  /-- The item. -/
  item : Item
  /-- The key of its vocabulary. -/
  scheme : String
  deriving DecidableEq

namespace SchemedItem

/-- The members of the stored form: those of the item, then the scheme. -/
def members (s : SchemedItem) : List (String × Json) :=
  s.item.members ++ Json.member "scheme" (.string s.scheme)

/-- The stored form. -/
def toJson (s : SchemedItem) : Json := .object s.members

/-- Reads an object with a scheme and the values of an item. -/
def ofJson? : Json → Option SchemedItem
  | .object ms =>
    if Json.Distinct ["scheme"] ms then do
      let scheme ← Json.required? "scheme" Json.asString? ms
      let item ← Item.ofJson? (.object (ms.filter fun e => e.1 ≠ "scheme"))
      some ⟨item, scheme⟩
    else none
  | _ => none

end SchemedItem

/-- The item as an article refers to it. -/
def Item.toArticle (i : Item) (scheme : String) : SchemedItem := ⟨i.withoutFlag, scheme⟩

namespace Vocabulary

/-- The vocabulary without its inactive items and without the activity flags of the others. -/
def withoutInactive (v : Vocabulary) : Vocabulary :=
  { v with items := (v.items.filter Item.active).map Item.withoutFlag }

/-- The items that a query selects before activity counts: the first match of a look-up, or all. -/
def candidates (v : Vocabulary) (q : ItemQuery) : List Item :=
  if q.isLookup then (v.items.find? q.matchesItem).toList else v.items

/-- The items that a query selects, as an article refers to them. -/
def project (v : Vocabulary) (q : ItemQuery) : List SchemedItem :=
  ((v.candidates q).filter fun i =>
    match q.active with
    | some wanted => i.active = wanted
    | none => true).map fun i => i.toArticle v.id

end Vocabulary

end Newsroom
