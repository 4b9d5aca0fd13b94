import Mathlib.Data.List.DropRight
import Newsroom.Proofs.Number.Numeral
import Newsroom.Proofs.Reading.Presentation

/-!
# Values that are written as text

A cast to text writes a whole number in decimals and a flag as its word, and a cast back reads them.
A flag always comes back. A whole number does exactly when it is a signed 64-bit one
(`Cast.written_cast_back`): a number may also be one of the greater unsigned ones, which the cast to
whole numbers takes as they are, but not once they are written out. A field that has the text of
such a number is then read otherwise than one that has the number itself.
-/

namespace Newsroom

/-! ### Decimal text -/

theorem Sign.span_of_digit {c : Char} {cs : List Char} (h : c.isDigit = true) :
    span (c :: cs) = (false, c :: cs) := by
  rw [span.eq_def]
  split
  case h_1 heq =>
    cases heq
    cases h
  case h_2 heq =>
    cases heq
    cases h
  case h_3 => rfl

theorem Numeral.chars_ofInt (n : Int) :
    (ofInt n).chars = (if n < 0 then ['-'] else []) ++ Decimal.digitsOf n.natAbs := by
  simp [chars, ofInt, fractionChars, exponentChars]

/-- The sign and the digits of a decimal text. -/
theorem Sign.span_chars_ofInt (n : Int) :
    span (Numeral.ofInt n).chars = (decide (n < 0), Decimal.digitsOf n.natAbs) := by
  rw [Numeral.chars_ofInt]
  split
  case isTrue hneg =>
    rw [List.singleton_append, span, decide_eq_true hneg]
  case isFalse hneg =>
    obtain ⟨c, cs, hdigits⟩ := List.exists_cons_of_ne_nil (Decimal.digitsOf_ne_nil n.natAbs)
    rw [List.nil_append, hdigits,
      span_of_digit (Decimal.isDigit_of_mem_digitsOf (hdigits ▸ List.mem_cons_self)),
      decide_eq_false hneg]

/-- The decimal text of a whole number is read as that number, if it is a signed 64-bit one. -/
theorem whole?_chars_ofInt (n : Int) :
    whole? (Numeral.ofInt n).chars = if fitsSigned 64 n then some (.ofInt n) else none := by
  have hdigits : (Decimal.digitsOf n.natAbs).all Char.isDigit = true :=
    List.all_eq_true.2 fun c hc => Decimal.isDigit_of_mem_digitsOf hc
  have hsome : (Decimal.digitsOf n.natAbs).isEmpty = false :=
    List.isEmpty_eq_false_iff.2 (Decimal.digitsOf_ne_nil n.natAbs)
  have hsigned : (if decide (n < 0) = true then -(n.natAbs : Int) else n.natAbs) = n := by
    split
    case isTrue hneg =>
      have := of_decide_eq_true hneg
      omega
    case isFalse hneg =>
      have := of_decide_eq_false (Bool.eq_false_iff.2 hneg)
      omega
  simp only [whole?, Sign.span_chars_ofInt, hdigits, hsome, Digits.value_digitsOf, hsigned,
    Bool.not_true, Bool.or_self, Bool.false_eq_true, if_false]

/-! ### Trimming -/

/-- Text without any blank has none to trim. -/
theorem Text.trimList_eq_self {cs : List Char} (h : ∀ c ∈ cs, isBlank c = false) :
    trimList cs = cs := by
  have hfront : trimFront cs = cs :=
    List.dropWhile_eq_self_iff.2 fun hlen => by simp [h _ (List.getElem_mem hlen)]
  have hback : trimBack cs = cs :=
    List.rdropWhile_eq_self_iff.2 fun hne => by simp [h _ (List.getLast_mem hne)]
  rw [trimList, hfront, hback]

theorem Text.isBlank_of_isDigit {c : Char} (h : c.isDigit = true) : isBlank c = false := by
  have hrange : 48 ≤ c.toNat ∧ c.toNat ≤ 57 := by
    simpa [Char.isDigit, UInt32.le_iff_toNat_le] using h
  simp only [isBlank, Bool.or_eq_false_iff, Bool.and_eq_false_iff, decide_eq_false_iff_not]
  omega

theorem Text.trimList_chars_ofInt (n : Int) :
    trimList (Numeral.ofInt n).chars = (Numeral.ofInt n).chars := by
  have hdigits : ∀ c ∈ Decimal.digitsOf n.natAbs, isBlank c = false := fun c hc =>
    isBlank_of_isDigit (Decimal.isDigit_of_mem_digitsOf hc)
  refine trimList_eq_self ?_
  rw [Numeral.chars_ofInt]
  split
  case isTrue => exact List.forall_mem_cons.2 ⟨by decide, hdigits⟩
  case isFalse => exact hdigits

/-! ### Casts -/

namespace Cast

/-- The text of a whole number, cast to a whole number. -/
theorem toInteger?_print (n : Whole) :
    toInteger? (.string (Json.number (.int n)).print) =
      if fitsSigned 64 n.value then some (.number (.int n)) else none := by
  have htrim : (Text.trim (Json.number (.int n)).print).toList =
      (Numeral.ofInt n.value).chars := by
    rw [Text.trim, Json.print, String.toList_ofList, String.toList_ofList]
    exact Text.trimList_chars_ofInt n.value
  rw [toInteger?, htrim, whole?_chars_ofInt]
  split
  case isTrue hfits => rw [Option.map_some, Json.ofInt, Whole.ofInt64_ofInt hfits]
  case isFalse => rfl

/-- The word for a flag, cast to a flag. -/
theorem toBoolean?_print (b : Bool) :
    toBoolean? (.string (Json.bool b).print) = some (.bool b) := by
  cases b with
  | true => decide
  | false => decide

/-- **What is written as text is cast back**: flags always, and whole numbers exactly when they are
signed 64-bit ones; a greater number stays the text it was written as. So under a cast to flags the
word of a flag is read like the flag, and under a cast to whole numbers the decimal text of a number
is read like the number exactly when this is a signed 64-bit one. -/
theorem written_cast_back (n : Whole) (b : Bool) :
    (convert? .string (.number (.int n))).bind (convert? .integer) =
      (if fitsSigned 64 n.value then some (.number (.int n)) else none) ∧
    (convert? .string (.bool b)).bind (convert? .boolean) = some (.bool b) ∧
    (applied (some .integer) (.string (Json.number (.int n)).print) =
      applied (some .integer) (.number (.int n)) ↔ fitsSigned 64 n.value = true) ∧
    applied (some .boolean) (.string (Json.bool b).print) =
      applied (some .boolean) (.bool b) := by
  refine ⟨?_, ?_, ?_, ?_⟩
  · rw [convert?, toText?, Option.bind_some, convert?, toInteger?_print]
  · rw [convert?, toText?, Option.bind_some, convert?, toBoolean?_print]
  · rw [applied, applied, Option.bind_some, Option.bind_some, convert?, convert?, toInteger?_print]
    cases fitsSigned 64 n.value with
    | true => exact iff_of_true rfl rfl
    | false => exact iff_of_false (fun h => by cases h) Bool.false_ne_true
  · rw [applied, Option.bind_some, convert?, toBoolean?_print]
    rfl

/-- The least whole number that is too great for a signed 64-bit one. -/
def greatCount : Whole := ⟨twoTo 63, by decide, by decide⟩

/-- The cast to whole numbers takes this number, but not its decimal text. -/
theorem greatCount_not_cast_back :
    convert? .integer (.number (.int greatCount)) = some (.number (.int greatCount)) ∧
    ¬ ∀ n : Whole,
      (convert? .string (.number (.int n))).bind (convert? .integer) = some (.number (.int n)) := by
  refine ⟨rfl, fun h => ?_⟩
  have hgreat : fitsSigned 64 greatCount.value = false := by decide +kernel
  have hback := h greatCount
  rw [convert?, toText?, Option.bind_some, convert?, toInteger?_print, hgreat] at hback
  cases hback

end Cast

end Newsroom
