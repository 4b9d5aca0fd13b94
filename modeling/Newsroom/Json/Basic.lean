import Newsroom.Number.Numeral
import Newsroom.TextMap

/-!
# JSON values

The value type of the library. Whole numbers and doubles are different values: `1` is not `1.0`.
The members of an object are a list, so that a value can hold them in the order of a text or of
a declaration.

`same` is equality of JSON values as numbers compare: it differs from equality of values only in
that the two zeros of doubles are the same.
-/

namespace Newsroom

/-- A JSON number. -/
inductive Json.Number where
  /-- A whole number, written without point and exponent. -/
  | int (value : Whole)
  /-- Any other number. -/
  | double (value : Double)
  deriving DecidableEq

/-- A JSON value. -/
inductive Json where
  /-- `null`. -/
  | null
  /-- `true` or `false`. -/
  | bool (value : Bool)
  /-- A number. -/
  | number (value : Json.Number)
  /-- A string. -/
  | string (value : String)
  /-- An array. -/
  | array (values : List Json)
  /-- An object, with its members in the order they are written in. -/
  | object (members : List (String × Json))

namespace Json

instance : Inhabited Json := ⟨.null⟩

/-! ### Equality -/

mutual

/-- Decides equality of values. -/
def decEq : (a b : Json) → Decidable (a = b)
  | .null, .null => .isTrue rfl
  | .bool a, .bool b => if h : a = b then .isTrue (h ▸ rfl) else .isFalse (by simpa using h)
  | .number a, .number b => if h : a = b then .isTrue (h ▸ rfl) else .isFalse (by simpa using h)
  | .string a, .string b => if h : a = b then .isTrue (h ▸ rfl) else .isFalse (by simpa using h)
  | .array a, .array b =>
    match decEqList a b with
    | .isTrue h => .isTrue (h ▸ rfl)
    | .isFalse h => .isFalse (by simpa using h)
  | .object a, .object b =>
    match decEqMembers a b with
    | .isTrue h => .isTrue (h ▸ rfl)
    | .isFalse h => .isFalse (by simpa using h)
  | .null, .bool _ | .null, .number _ | .null, .string _ | .null, .array _ | .null, .object _
  | .bool _, .null | .bool _, .number _ | .bool _, .string _ | .bool _, .array _
  | .bool _, .object _ | .number _, .null | .number _, .bool _ | .number _, .string _
  | .number _, .array _ | .number _, .object _ | .string _, .null | .string _, .bool _
  | .string _, .number _ | .string _, .array _ | .string _, .object _ | .array _, .null
  | .array _, .bool _ | .array _, .number _ | .array _, .string _ | .array _, .object _
  | .object _, .null | .object _, .bool _ | .object _, .number _ | .object _, .string _
  | .object _, .array _ => .isFalse (by simp)

/-- Decides equality of lists of values. -/
def decEqList : (a b : List Json) → Decidable (a = b)
  | [], [] => .isTrue rfl
  | [], _ :: _ | _ :: _, [] => .isFalse (by simp)
  | x :: xs, y :: ys =>
    match decEq x y, decEqList xs ys with
    | .isTrue h, .isTrue h' => .isTrue (h ▸ h' ▸ rfl)
    | .isFalse h, _ => .isFalse (by simp [h])
    | _, .isFalse h => .isFalse (by simp [h])

/-- Decides equality of lists of members. -/
def decEqMembers : (a b : List (String × Json)) → Decidable (a = b)
  | [], [] => .isTrue rfl
  | [], _ :: _ | _ :: _, [] => .isFalse (by simp)
  | (k, x) :: xs, (l, y) :: ys =>
    if hk : k = l then
      match decEq x y, decEqMembers xs ys with
      | .isTrue h, .isTrue h' => .isTrue (hk ▸ h ▸ h' ▸ rfl)
      | .isFalse h, _ => .isFalse (by simp [h])
      | _, .isFalse h => .isFalse (by simp [h])
    else .isFalse (by simp [hk])

end

instance : DecidableEq Json := decEq

/-- Equality of numbers; a whole number and a double are never the same. -/
def Number.same : Number → Number → Bool
  | .int a, .int b => a = b
  | .double a, .double b => a.same b
  | _, _ => false

mutual

/-- Equality of values, with numbers compared as numbers. -/
def same : Json → Json → Bool
  | .null, .null => true
  | .bool a, .bool b => a = b
  | .number a, .number b => a.same b
  | .string a, .string b => a = b
  | .array a, .array b => sameList a b
  | .object a, .object b => sameMembers a b
  | _, _ => false

/-- The same values in the same order. -/
def sameList : List Json → List Json → Bool
  | [], [] => true
  | a :: as, b :: bs => same a b && sameList as bs
  | _, _ => false

/-- The same values under the same keys in the same order. -/
def sameMembers : List (String × Json) → List (String × Json) → Bool
  | [], [] => true
  | (k, a) :: as, (l, b) :: bs => k = l && same a b && sameMembers as bs
  | _, _ => false

end

/-! ### Questions about one value -/

/-- `null`, the empty string and the empty containers carry nothing. -/
def isEmpty : Json → Bool
  | .null => true
  | .string s => s.isEmpty
  | .array values => values.isEmpty
  | .object members => members.isEmpty
  | .bool _ | .number _ => false

/-- Whether the value is `null`. -/
def isNull : Json → Bool
  | .null => true
  | _ => false

/-- The member under `key` of an object. -/
def get? (key : String) : Json → Option Json
  | .object members => Entries.find? key members
  | _ => none

/-- The text of a string value. -/
def asString? : Json → Option String
  | .string s => some s
  | _ => none

/-- The flag of a boolean value. -/
def asBool? : Json → Option Bool
  | .bool b => some b
  | _ => none

end Json

end Newsroom
