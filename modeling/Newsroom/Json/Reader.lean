import Newsroom.Json.Basic
import Newsroom.Json.Source

/-!
# The meaning of a JSON text

Turns the form of a text into a value. Numerals must be in range, unicode escapes must pair up to
characters, and arrays and objects nest at most 127 deep. A `Shape` says which parts of a text
are read: in a record only the members with a known name are, and the others are dropped with
nothing asked of their values but their form. A record that is written as an array is read by
position.
-/

namespace Newsroom

/-- Which parts of a text are read. -/
inductive Shape where
  /-- All of it. -/
  | whole
  /-- An array whose elements all have the given shape. -/
  | list (element : Shape)
  /-- A record of which the listed fields are read, each in its shape. -/
  | record (fields : List (String × Shape))

namespace Shape

/-- The shape of the first element of an array. The elements of an array that stands for a record
are its fields in their order. -/
def head : Shape → Shape
  | .list s => s
  | .record ((_, s) :: _) => s
  | _ => .whole

/-- The shape of an array after its first element. -/
def tail : Shape → Shape
  | .record (_ :: fields) => .record fields
  | s => s

/-- The shape of the member under `key`; `none` if it is not read. -/
def member? (key : String) : Shape → Option Shape
  | .record fields => Entries.find? key fields
  | _ => some .whole

end Shape

namespace Json

/-- The deepest nesting of arrays and objects that is read. -/
def maxDepth : Nat := 127

/-- The characters that pieces of a string stand for. A unit of the high surrogates must be
followed by one of the low surrogates, and none of these stands alone. -/
def charsOfPieces? : List Piece → Option (List Char)
  | [] => some []
  | .char c :: rest => (charsOfPieces? rest).map (c :: ·)
  | .unit high :: .unit low :: rest =>
    if 0xD800 ≤ high && high ≤ 0xDBFF then
      if 0xDC00 ≤ low && low ≤ 0xDFFF then
        (charsOfPieces? rest).map
          (Char.ofNat (0x10000 + (high - 0xD800) * 0x400 + (low - 0xDC00)) :: ·)
      else none
    else if 0xDC00 ≤ high && high ≤ 0xDFFF then none
    else (charsOfPieces? (.unit low :: rest)).map (Char.ofNat high :: ·)
  | .unit value :: rest =>
    if 0xD800 ≤ value && value ≤ 0xDFFF then none
    else (charsOfPieces? rest).map (Char.ofNat value :: ·)

/-- The text that pieces of a string stand for. -/
def textOfPieces? (pieces : List Piece) : Option String :=
  (charsOfPieces? pieces).map String.ofList

/-- The value of a numeral. -/
def Number.ofNumeral? (n : Numeral) : Option Number :=
  match n.toWhole? with
  | some i => some (.int i)
  | none => n.toDouble?.map .double

mutual

/-- The value of a form that may nest `depth` deep. -/
def ofSource? (depth : Nat) (shape : Shape) : Source → Option Json
  | .null => some .null
  | .bool b => some (.bool b)
  | .numeral n => (Number.ofNumeral? n).map .number
  | .string pieces => (textOfPieces? pieces).map .string
  | .array values =>
    if depth = 0 then none
    else (ofSourceList? (depth - 1) shape values).map .array
  | .object members =>
    if depth = 0 then none else (ofSourceMembers? (depth - 1) shape members).map .object

/-- The values of the elements of an array. -/
def ofSourceList? (depth : Nat) (shape : Shape) : List Source → Option (List Json)
  | [] => some []
  | v :: vs =>
    match ofSource? depth shape.head v, ofSourceList? depth shape.tail vs with
    | some value, some values => some (value :: values)
    | _, _ => none

/-- The members of an object that are read. -/
def ofSourceMembers? (depth : Nat) (shape : Shape) :
    List (List Piece × Source) → Option (List (String × Json))
  | [] => some []
  | (pieces, v) :: rest =>
    match textOfPieces? pieces with
    | none => none
    | some key =>
      match shape.member? key with
      | none => ofSourceMembers? depth shape rest
      | some inner =>
        match ofSource? depth inner v, ofSourceMembers? depth shape rest with
        | some value, some members => some ((key, value) :: members)
        | _, _ => none

end

/-- Reads a text; parts that the shape leaves out are dropped. -/
def read? (shape : Shape) (text : String) : Option Json :=
  (Source.ofChars? text.toList).bind (ofSource? maxDepth shape)

/-- Reads all of a text. -/
def ofText? (text : String) : Option Json := read? .whole text

end Json

end Newsroom
