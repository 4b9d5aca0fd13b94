import Newsroom.Json.Normal
import Newsroom.Number.Numeral

/-!
# Records in JSON

Reading and writing of values with fixed fields. A record is an object in which no known field
occurs twice; fields it does not know are not looked at. An array stands for a record as well: its
elements are the values of the known fields in their order, and the fields behind the last element
are missing. A field is *required*, *optional* (missing and `null` are the same) or has a *default*
that stands for it only when it is missing.
-/

namespace Newsroom

/-- Applies `f` to all elements, if it succeeds on each of them. -/
def allSome? {α β : Type} (f : α → Option β) : List α → Option (List β)
  | [] => some []
  | x :: xs =>
    match f x, allSome? f xs with
    | some y, some ys => some (y :: ys)
    | _, _ => none

namespace Json

/-! ### Reading -/

/-- The value of a whole number in the signed 64-bit range. -/
def asInt? : Json → Option Int64
  | .number (.int n) => n.toInt64?
  | _ => none

/-- The name of a choice that carries nothing: the name itself, or an object with the name as its
one key and `null` under it. -/
def asChoice? : Json → Option String
  | .string name => some name
  | .object [(name, .null)] => some name
  | _ => none

/-- The elements of an array, each read by `f`. -/
def asList? {α : Type} (f : Json → Option α) : Json → Option (List α)
  | .array values => allSome? f values
  | _ => none

/-- The members of an object, each value read by `f`. -/
def asMap? {α : Type} (f : Json → Option α) : Json → Option (TextMap α)
  | .object members =>
    (allSome? (fun e => (f e.2).map fun v => (e.1, v)) members).map TextMap.ofList
  | _ => none

/-- A free-form object: its members in normal form. -/
def asFreeMap? : Json → Option (TextMap Json)
  | .object members => some (TextMap.ofList (normalMembers members))
  | _ => none

/-- No field of `known` occurs twice among the members. -/
def Distinct (known : List String) (members : List (String × Json)) : Bool :=
  known.all fun key => (members.filter fun e => e.1 = key).length ≤ 1

/-- The members of a record with the fields `known`, by name or by position. -/
def record? (known : List String) : Json → Option (List (String × Json))
  | .object members => if Distinct known members then some members else none
  | .array values => if values.length ≤ known.length then some (known.zip values) else none
  | _ => none

/-- A field that must be there. -/
def required? {α : Type} (key : String) (f : Json → Option α) (members : List (String × Json)) :
    Option α :=
  (Entries.find? key members).bind f

/-- A field that may be missing or `null`. -/
def optional? {α : Type} (key : String) (f : Json → Option α) (members : List (String × Json)) :
    Option (Option α) :=
  match Entries.find? key members with
  | none => some none
  | some .null => some none
  | some v => (f v).map some

/-- A field that may be missing, but not `null`. -/
def defaulted? {α : Type} (key : String) (default : α) (f : Json → Option α)
    (members : List (String × Json)) : Option α :=
  match Entries.find? key members with
  | none => some default
  | some v => f v

/-! ### Writing -/

/-- A signed 64-bit number. -/
def ofInt (n : Int64) : Json := .number (.int (.ofInt64 n))

/-- An object with the entries of a map. -/
def ofMap {α : Type} (f : α → Json) (m : TextMap α) : Json :=
  .object (m.entries.map fun e => (e.1, f e.2))

/-- One member. -/
def member (key : String) (value : Json) : List (String × Json) := [(key, value)]

/-- One member, or none for a value that is not there. -/
def optionalMember {α : Type} (key : String) (f : α → Json) : Option α → List (String × Json)
  | none => []
  | some v => [(key, f v)]

/-- One member when the flag is set. -/
def flagMember (key : String) (flag : Bool) : List (String × Json) :=
  if flag then [(key, .bool true)] else []

end Json

end Newsroom
