import Newsroom.Config
import Newsroom.Json.Reader
import Newsroom.Store.Row

/-!
# Requests

What an operation knows of the request it serves, and the engine that serves it.
-/

namespace Newsroom

/-- The request that an operation serves. -/
structure Context where
  /-- The acting user. -/
  user : Option String
  /-- The language that items are wanted in. -/
  language : Option String
  /-- The condition of a listing. -/
  condition : Option Json
  deriving DecidableEq

namespace Context

/-- A request that says nothing. -/
def blank : Context := ⟨none, none, none⟩

instance : Inhabited Context := ⟨blank⟩

/-- The request with a condition given as JSON text. -/
def withCondition? (c : Context) (text : String) : Option Context :=
  (Json.ofText? text).map fun v => { c with condition := some v.normal }

/-- Whether the request lists manageable vocabularies by name. Editors see these lists with
inactive items and as they are stored. -/
def requestsManageable (c : Context) : Bool :=
  match c.condition with
  | some v => (v.get? "type").bind Json.asString? = some VocabularyKind.manageable.name
  | none => false

end Context

/-- An engine: its settings, and how the store keeps documents. -/
structure Engine where
  /-- The settings. -/
  config : Config
  /-- How documents are kept as text. -/
  text : TextLayer

namespace Engine

/-- The engine with the given settings over compact JSON. -/
def ofConfig (c : Config) : Engine := ⟨c, TextLayer.json⟩

/-- The reserved keys. -/
def reserved (e : Engine) : ReservedKeys := e.config.reserved

end Engine

end Newsroom
