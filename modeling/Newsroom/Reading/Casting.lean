import Newsroom.Vocabulary.Basic

/-!
# Typed values

Casts of field values to their declared types. A cast loses nothing: a value that has no equal in
the wanted type is left as it is.
-/

namespace Newsroom

namespace Cast

/-- Casts a value to a whole number: whole numbers, doubles without fraction below `2 ^ 63`, and
the decimal text of a signed 64-bit number. -/
def toInteger? : Json → Option Json
  | .number (.int n) => some (.number (.int n))
  | .number (.double x) =>
    ((x.toInt?.filter fun n => n.natAbs < twoTo 63).bind Whole.ofInt?).map fun n =>
      .number (.int n)
  | .string s => (whole? (Text.trim s).toList).map Json.ofInt
  | _ => none

/-- Casts a value to a number: numbers, and the text of a finite decimal number. -/
def toNumber? : Json → Option Json
  | .number n => some (.number n)
  | .string s => (decimal? (Text.trim s).toList).map fun x => .number (.double x)
  | _ => none

/-- The flag of a value that stands for one of the two, if it does. -/
def flagOf? (isTrue isFalse : Bool) : Option Json :=
  if isTrue then some (.bool true) else if isFalse then some (.bool false) else none

/-- Casts a value to a flag: flags, the whole numbers zero and one, and their words. -/
def toBoolean? : Json → Option Json
  | .bool b => some (.bool b)
  | .number (.int n) => flagOf? (n.value = 1) (n.value = 0)
  | .string s =>
    let word := Text.asciiLower (Text.trim s)
    flagOf? (word = "true" || word = "1") (word = "false" || word = "0")
  | _ => none

/-- Casts a value to text: text, numbers and flags as they are written. -/
def toText? : Json → Option Json
  | .string s => some (.string s)
  | .number n => some (.string (Json.number n).print)
  | .bool b => some (.string (Json.bool b).print)
  | _ => none

/-- The value cast to the type `c`, if it has an equal there. -/
def convert? (c : Cast) (v : Json) : Option Json :=
  match c with
  | .integer => toInteger? v
  | .number => toNumber? v
  | .boolean => toBoolean? v
  | .string => toText? v

end Cast

/-- Casts one field of an item, if it is there and the cast is possible. -/
def Item.castField (i : Item) (entry : String × Cast) : Item :=
  match (i.field entry.1).bind entry.2.convert? with
  | some value => i.setField entry.1 value
  | none => i

/-- Casts the fields of an item, in ascending order of their names. -/
def Item.castFields (i : Item) (casts : TextMap Cast) : Item :=
  casts.entries.foldl castField i

/-- The casts that the declarations of a schema ask for. -/
def Schema.casts (s : Schema) : TextMap Cast :=
  TextMap.ofList (s.fields.filterMap fun e => e.2.cast?.map fun c => (e.1, c))

/-- The vocabulary with the fields of all items cast: by the casts that its own schema declares,
and by the registered ones, which count where both have one. -/
def Vocabulary.castItems (v : Vocabulary) (registered : Option (TextMap Cast)) : Vocabulary :=
  let casts := match registered with
    | some r => v.schema.casts.overlay r
    | none => v.schema.casts
  { v with items := v.items.map fun i => i.castFields casts }

end Newsroom
