import Newsroom.Json.Basic
import Newsroom.Number.Shortest

/-!
# Compact JSON text

Writes a value without any blanks, members in the order the value holds them. Strings escape the
quote, the backslash and the characters below U+0020, with a short escape where there is one;
everything else stands for itself.
-/

namespace Newsroom

namespace Json

/-- A hexadecimal digit in lower case. -/
def hexDigit (n : Nat) : Char := Nat.digitChar n

/-- A character inside a string. -/
def escape (c : Char) : List Char :=
  if c = '"' then ['\\', '"']
  else if c = '\\' then ['\\', '\\']
  else if c = '\x08' then ['\\', 'b']
  else if c = '\x0c' then ['\\', 'f']
  else if c = '\n' then ['\\', 'n']
  else if c = '\r' then ['\\', 'r']
  else if c = '\t' then ['\\', 't']
  else if c.toNat < 0x20 then
    ['\\', 'u', '0', '0', hexDigit (c.toNat / 16), hexDigit (c.toNat % 16)]
  else [c]

/-- A string with its quotes. -/
def quoted (s : String) : List Char :=
  '"' :: (s.toList.flatMap escape ++ ['"'])

/-- The numeral of a number. -/
def Number.numeral : Number → Numeral
  | .int n => .ofInt n.value
  | .double x => x.numeral

/-- The text of a number. -/
def Number.chars (n : Number) : List Char := n.numeral.chars

mutual

/-- The text of a value. -/
def chars : Json → List Char
  | .null => ['n', 'u', 'l', 'l']
  | .bool true => ['t', 'r', 'u', 'e']
  | .bool false => ['f', 'a', 'l', 's', 'e']
  | .number n => n.chars
  | .string s => quoted s
  | .array [] => ['[', ']']
  | .array (v :: vs) => '[' :: (chars v ++ charsAfter vs)
  | .object [] => ['\x7b', '\x7d']
  | .object ((k, v) :: rest) => '\x7b' :: (quoted k ++ ':' :: (chars v ++ membersAfter rest))

/-- The further elements of an array and its end. -/
def charsAfter : List Json → List Char
  | [] => [']']
  | v :: vs => ',' :: (chars v ++ charsAfter vs)

/-- The further members of an object and its end. -/
def membersAfter : List (String × Json) → List Char
  | [] => ['\x7d']
  | (k, v) :: rest => ',' :: (quoted k ++ ':' :: (chars v ++ membersAfter rest))

end

/-- The compact text of a value. -/
def print (v : Json) : String := String.ofList v.chars

/-- A value as plain text: a string as it is, everything else as JSON. -/
def text : Json → String
  | .string s => s
  | v => v.print

end Json

end Newsroom
