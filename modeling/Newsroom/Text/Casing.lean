import Newsroom.Text.CaseTable
import Newsroom.Text.CasedTable

/-!
# Blanks and the case of text

The White_Space property of the Unicode character database and the trimming of text by it, and the
full case mappings of text. Every character is mapped by itself, possibly to several
characters, with one exception: a capital sigma becomes the final sigma when it ends a word,
that is when the nearest character before it that is not case-ignorable is cased and the nearest
one after it is not. Folding for ASCII only, `asciiLower`, leaves all other characters alone.
-/

namespace Newsroom.Text

/-! ### Blanks -/

/-- The White_Space property. -/
def isBlank (c : Char) : Bool :=
  let n := c.toNat
  0x09 ≤ n && n ≤ 0x0D || n = 0x20 || n = 0x85 || n = 0xA0 || n = 0x1680
    || 0x2000 ≤ n && n ≤ 0x200A || n = 0x2028 || n = 0x2029 || n = 0x202F || n = 0x205F
    || n = 0x3000

/-- Drops blanks from the front. -/
def trimFront (cs : List Char) : List Char := cs.dropWhile isBlank

/-- Drops blanks from the back. -/
def trimBack (cs : List Char) : List Char := (cs.reverse.dropWhile isBlank).reverse

/-- Drops blanks from both ends. -/
def trimList (cs : List Char) : List Char := trimBack (trimFront cs)

/-- Text without blanks at its ends. -/
def trim (s : String) : String := String.ofList (trimList s.toList)

/-! ### Letter case -/

/-- The characters that `c` becomes under a table of ranges and one of special cases. -/
def mapCase (ranges : List CaseRange) (special : List (Nat × List Nat)) (c : Char) : List Char :=
  match ranges.find? (·.holds c.toNat) with
  | some r => [Char.ofNat (c.toNat + r.shift).toNat]
  | none =>
    match special.lookup c.toNat with
    | some codes => codes.map Char.ofNat
    | none => [c]

/-- The lower case of a character, taken by itself. -/
def lowerChar (c : Char) : List Char := mapCase lowerRanges lowerSpecial c

/-- The upper case of a character. -/
def upperChar (c : Char) : List Char := mapCase upperRanges upperSpecial c

/-- Whether some range of the table has the code point of `c`. -/
def inRanges (ranges : List (Nat × Nat)) (c : Char) : Bool :=
  ranges.any fun r => r.1 ≤ c.toNat && c.toNat ≤ r.2

/-- Whether the first character that is not case-ignorable is cased. -/
def meetsCased (cs : List Char) : Bool :=
  match cs.dropWhile (inRanges caseIgnorableRanges) with
  | [] => false
  | c :: _ => inRanges casedRanges c

/-- The lower case of `rest` after the characters `before`, the nearest of them first. -/
def lowerAfter (before : List Char) : List Char → List Char
  | [] => []
  | c :: rest =>
    let mapped :=
      if c = 'Σ' then [if meetsCased before && !meetsCased rest then 'ς' else 'σ'] else lowerChar c
    mapped ++ lowerAfter (c :: before) rest

/-- The lower case of text. -/
def lower (s : String) : String := String.ofList (lowerAfter [] s.toList)

/-- The upper case of text. -/
def upper (s : String) : String := String.ofList (s.toList.flatMap upperChar)

/-- The letters A to Z in lower case, all else unchanged. -/
def asciiLowerChar (c : Char) : Char :=
  if 'A' ≤ c && c ≤ 'Z' then Char.ofNat (c.toNat + 32) else c

/-- Text with the letters A to Z in lower case and all else unchanged. -/
def asciiLower (s : String) : String := String.ofList (s.toList.map asciiLowerChar)

end Newsroom.Text
