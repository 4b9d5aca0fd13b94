import Newsroom.Number.Numeral

/-!
# The form of a JSON text

A first reading of a JSON text recognises its form only: numbers stay numerals, and the unicode
escapes in strings stay sixteen-bit units. Whether a numeral is in range, whether units pair up
to characters and how deep a text nests are questions about its meaning (`Newsroom.Json.Reader`),
because parts of a text that nobody reads are asked for their form only.

The grammar is that of RFC 8259, without byte order mark and without text after the value.
-/

namespace Newsroom

/-- A piece of a string: a character, or the sixteen-bit unit of a unicode escape. -/
inductive Piece where
  /-- A character that stands for itself or has a short escape. -/
  | char (c : Char)
  /-- A unicode escape. -/
  | unit (value : Nat)

/-- The form of a JSON value. -/
inductive Source where
  /-- `null`. -/
  | null
  /-- `true` or `false`. -/
  | bool (value : Bool)
  /-- A number as it is written. -/
  | numeral (value : Numeral)
  /-- A string as it is written. -/
  | string (pieces : List Piece)
  /-- An array. -/
  | array (values : List Source)
  /-- An object, its members in the order of the text. -/
  | object (members : List (List Piece × Source))

namespace Source

/-- Drops blanks in front: space, tab, line feed and carriage return. -/
def skipBlanks (cs : List Char) : List Char :=
  cs.dropWhile fun c => c = ' ' || c = '\t' || c = '\n' || c = '\r'

/-- The value of a hexadecimal digit. -/
def hexValue? (c : Char) : Option Nat :=
  if '0' ≤ c && c ≤ '9' then some (c.toNat - '0'.toNat)
  else if 'a' ≤ c && c ≤ 'f' then some (c.toNat - 'a'.toNat + 10)
  else if 'A' ≤ c && c ≤ 'F' then some (c.toNat - 'A'.toNat + 10)
  else none

/-- The character of a short escape. -/
def shortEscape? (c : Char) : Option Char :=
  if c = '"' then some '"'
  else if c = '\\' then some '\\'
  else if c = '/' then some '/'
  else if c = 'b' then some '\x08'
  else if c = 'f' then some '\x0c'
  else if c = 'n' then some '\n'
  else if c = 'r' then some '\r'
  else if c = 't' then some '\t'
  else none

/-- Reads a string after its opening quote. -/
def string? : List Char → Option (List Piece × List Char)
  | [] => none
  | '"' :: rest => some ([], rest)
  | '\\' :: 'u' :: a :: b :: c :: d :: rest => do
    let value := (← hexValue? a) * 4096 + (← hexValue? b) * 256 + (← hexValue? c) * 16
      + (← hexValue? d)
    let (pieces, rest) ← string? rest
    some (.unit value :: pieces, rest)
  | '\\' :: c :: rest => do
    let short ← shortEscape? c
    let (pieces, rest) ← string? rest
    some (.char short :: pieces, rest)
  | c :: rest =>
    if c.toNat < 0x20 || c = '\\' then none
    else do
      let (pieces, rest) ← string? rest
      some (.char c :: pieces, rest)

mutual

/-- Reads a value from the front of a text, in at most `fuel` steps. -/
def value? : Nat → List Char → Option (Source × List Char)
  | 0, _ => none
  | fuel + 1, cs =>
    match skipBlanks cs with
    | 'n' :: 'u' :: 'l' :: 'l' :: rest => some (.null, rest)
    | 't' :: 'r' :: 'u' :: 'e' :: rest => some (.bool true, rest)
    | 'f' :: 'a' :: 'l' :: 's' :: 'e' :: rest => some (.bool false, rest)
    | '"' :: rest => (string? rest).map fun (pieces, rest) => (.string pieces, rest)
    | '[' :: rest =>
      match skipBlanks rest with
      | ']' :: rest => some (.array [], rest)
      | rest => (elements? fuel rest).map fun (values, rest) => (.array values, rest)
    | '\x7b' :: rest =>
      match skipBlanks rest with
      | '\x7d' :: rest => some (.object [], rest)
      | rest => (members? fuel rest).map fun (members, rest) => (.object members, rest)
    | rest => (Numeral.scan rest).map fun (n, rest) => (.numeral n, rest)

/-- Reads the elements of an array and its closing bracket. -/
def elements? : Nat → List Char → Option (List Source × List Char)
  | 0, _ => none
  | fuel + 1, cs => do
    let (value, rest) ← value? fuel cs
    match skipBlanks rest with
    | ']' :: rest => some ([value], rest)
    | ',' :: rest =>
      let (values, rest) ← elements? fuel rest
      some (value :: values, rest)
    | _ => none

/-- Reads the members of an object and its closing brace. -/
def members? : Nat → List Char → Option (List (List Piece × Source) × List Char)
  | 0, _ => none
  | fuel + 1, cs =>
    match skipBlanks cs with
    | '"' :: rest => do
      let (key, rest) ← string? rest
      match skipBlanks rest with
      | ':' :: rest =>
        let (value, rest) ← value? fuel rest
        match skipBlanks rest with
        | '\x7d' :: rest => some ([(key, value)], rest)
        | ',' :: rest =>
          let (members, rest) ← members? fuel rest
          some ((key, value) :: members, rest)
        | _ => none
      | _ => none
    | _ => none

end

/-- The form of a whole text. Two steps are taken for each character at most, so the fuel is
never used up. -/
def ofChars? (cs : List Char) : Option Source :=
  match value? (2 * cs.length + 2) cs with
  | some (value, rest) => if (skipBlanks rest).isEmpty then some value else none
  | none => none

end Source

end Newsroom
