import Newsroom.Number.Shortest

/-!
# Numerals that are read as they were written

The text of a well-formed numeral is read from the front of a longer text when what follows it
cannot go on with the numeral (`Numeral.scan_chars`). The numeral of a whole number is well-formed
and stands for that number (`Numeral.toWhole?_ofInt`).
-/

namespace Newsroom

/-! ### Decimal digits -/

namespace Decimal

theorem digitsOf_ne_nil (n : Nat) : digitsOf n ≠ [] := Nat.toDigits_ne_nil

theorem isDigit_of_mem_digitsOf {n : Nat} {c : Char} (h : c ∈ digitsOf n) : c.isDigit = true :=
  Nat.isDigit_of_mem_toDigits (by decide) (by decide) h

/-- Only zero is written with a zero in front. -/
theorem head?_digitsOf {n : Nat} (h : n ≠ 0) : (digitsOf n).head? ≠ some '0' := by
  induction n using Nat.strongRecOn with
  | _ n ih =>
    rcases Nat.lt_or_ge n 10 with hlt | hge
    · rw [digitsOf, Nat.toDigits_of_lt_base hlt]
      match n, h, hlt with
      | 1, _, _ | 2, _, _ | 3, _, _ | 4, _, _ | 5, _, _ | 6, _, _ | 7, _, _ | 8, _, _
      | 9, _, _ => decide
    · have hfront : n / 10 ≠ 0 := by omega
      obtain ⟨c, cs, hdigits⟩ := List.exists_cons_of_ne_nil (digitsOf_ne_nil (n / 10))
      rw [digitsOf, Nat.toDigits_of_base_le (by decide) hge]
      have hhead := ih (n / 10) (by omega) hfront
      rw [digitsOf] at hdigits hhead
      rw [hdigits] at hhead ⊢
      exact hhead

end Decimal

namespace Digits

/-- The digits of a number stand for it. -/
@[simp] theorem value_digitsOf (n : Nat) : value (Decimal.digitsOf n) 0 = n := by
  have hstep : ∀ (before : Nat) (c : Char),
      before * 10 + (c.toNat - '0'.toNat) = 10 * before + (c.toNat - '0'.toNat) :=
    fun before c => by rw [Nat.mul_comm]
  simp only [value, hstep]
  exact Nat.ofDigitChars_toDigits (by decide) (by decide)

/-- The text does not begin with a digit. -/
def Stops (cs : List Char) : Prop := ∀ c ∈ cs.head?, c.isDigit = false

/-- Digits are split from a text that does not begin with one. -/
theorem span_append {ds rest : List Char} (hds : ∀ c ∈ ds, c.isDigit = true)
    (hrest : Stops rest) : span (ds ++ rest) = (ds, rest) := by
  rw [span, List.takeWhile_append_of_pos hds, List.dropWhile_append_of_pos hds]
  cases rest with
  | nil => simp
  | cons c cs => simp [hrest c rfl]

end Digits

namespace Numeral

/-! ### Well-formed numerals -/

/-- Digits stand where they are asked for, and no zero in front of others. -/
structure WellFormed (n : Numeral) : Prop where
  before_ne : n.before ≠ []
  before : ∀ c ∈ n.before, c.isDigit = true
  zero : n.before.head? = some '0' → n.before = ['0']
  after : ∀ c ∈ n.after, c.isDigit = true
  exponent_ne : ∀ e ∈ n.exponent, e.2 ≠ []
  exponent : ∀ e ∈ n.exponent, ∀ c ∈ e.2, c.isDigit = true

/-- The text cannot go on with a numeral. -/
structure Ends (cs : List Char) : Prop where
  digits : Digits.Stops cs
  point : cs.head? ≠ some '.'
  lower : cs.head? ≠ some 'e'
  upper : cs.head? ≠ some 'E'

variable {n : Numeral} {rest : List Char}

theorem integer?_append {ds : List Char} (hne : ds ≠ []) (hds : ∀ c ∈ ds, c.isDigit = true)
    (hzero : ds.head? = some '0' → ds = ['0']) (hrest : Digits.Stops rest) :
    integer? (ds ++ rest) = some (ds, rest) := by
  rw [integer?, Digits.span_append hds hrest]
  split
  case h_1 heq => exact absurd (congrArg Prod.fst heq) hne
  case h_2 heq =>
    obtain rfl := congrArg Prod.fst heq
    cases hzero rfl
  case h_3 heq => rw [← heq]

theorem fraction?_append (h : ∀ c ∈ n.after, c.isDigit = true) (hrest : Digits.Stops rest)
    (hpoint : rest.head? ≠ some '.') :
    fraction? (n.fractionChars ++ rest) = some (n.after, rest) := by
  rw [fractionChars]
  cases hafter : n.after with
  | nil =>
    show fraction? rest = _
    rw [fraction?.eq_def]
    split
    case h_1 => exact absurd rfl hpoint
    case h_2 => rfl
  | cons d ds =>
    rw [hafter] at h
    show fraction? ('.' :: (d :: ds ++ rest)) = _
    rw [fraction?, Digits.span_append h hrest]

theorem exponent?_append (hne : ∀ e ∈ n.exponent, e.2 ≠ [])
    (h : ∀ e ∈ n.exponent, ∀ c ∈ e.2, c.isDigit = true) (hrest : Ends rest) :
    exponent? (n.exponentChars ++ rest) = some (n.exponent, rest) := by
  rw [exponentChars]
  cases hexponent : n.exponent with
  | none =>
    show exponent? rest = _
    cases rest with
    | nil => rfl
    | cons c cs =>
      have hlower : c ≠ 'e' := fun heq => hrest.lower (heq ▸ rfl)
      have hupper : c ≠ 'E' := fun heq => hrest.upper (heq ▸ rfl)
      simp [exponent?, hlower, hupper]
  | some e =>
    obtain ⟨negative, ds⟩ := e
    have hspan := Digits.span_append (h _ hexponent) hrest.digits
    have hsign : Sign.span ((if negative = true then '-' else '+') :: (ds ++ rest)) =
        (negative, ds ++ rest) := by cases negative <;> rfl
    obtain ⟨d, ds', hds⟩ := List.exists_cons_of_ne_nil (hne _ hexponent)
    obtain rfl : ds = d :: ds' := hds
    simp only [List.cons_append, exponent?] at hsign hspan ⊢
    simp [hsign, hspan]

theorem stops_exponentChars (hrest : Ends rest) : Digits.Stops (n.exponentChars ++ rest) := by
  rw [exponentChars]
  cases n.exponent with
  | none => exact hrest.digits
  | some e =>
    rintro _ ⟨⟩
    rfl

theorem exponentChars_no_point (hrest : Ends rest) :
    (n.exponentChars ++ rest).head? ≠ some '.' := by
  rw [exponentChars]
  cases n.exponent with
  | none => exact hrest.point
  | some e =>
    rintro ⟨⟩

theorem stops_fractionChars (hrest : Digits.Stops rest) :
    Digits.Stops (n.fractionChars ++ rest) := by
  rw [fractionChars]
  split
  · exact hrest
  · rintro _ ⟨⟩
    rfl

theorem sign_minus_chars (h : n.WellFormed) : Sign.minus (n.chars ++ rest) =
    (n.negative, n.before ++ (n.fractionChars ++ (n.exponentChars ++ rest))) := by
  simp only [chars, List.append_assoc]
  cases n.negative with
  | true => rfl
  | false =>
    obtain ⟨c, cs, hbefore⟩ := List.exists_cons_of_ne_nil h.before_ne
    have hdigit : c.isDigit = true := h.before c (hbefore ▸ List.mem_cons_self)
    rw [hbefore]
    show Sign.minus (c :: _) = _
    rw [Sign.minus.eq_def]
    split
    case h_1 heq =>
      cases heq
      cases hdigit
    case h_2 => rfl

/-- The text of a well-formed numeral is read as that numeral, up to what follows it. -/
theorem scan_chars (h : n.WellFormed) (hrest : Ends rest) :
    scan (n.chars ++ rest) = some (n, rest) := by
  have hexponent := exponent?_append h.exponent_ne h.exponent hrest
  have hfraction := fraction?_append h.after (stops_exponentChars (n := n) hrest)
    (exponentChars_no_point hrest)
  have hinteger := integer?_append h.before_ne h.before h.zero
    (stops_fractionChars (n := n) (stops_exponentChars (n := n) hrest))
  simp only [scan, sign_minus_chars h, hinteger, hfraction, hexponent]

/-! ### Whole numbers -/

theorem wellFormed_ofInt (n : Int) : (ofInt n).WellFormed where
  before_ne := Decimal.digitsOf_ne_nil _
  before := fun _ => Decimal.isDigit_of_mem_digitsOf
  zero := by
    intro hzero
    have hn : n.natAbs = 0 := Decidable.byContradiction fun hn => Decimal.head?_digitsOf hn hzero
    show Decimal.digitsOf n.natAbs = ['0']
    rw [hn]
    rfl
  after := by simp [ofInt]
  exponent_ne := by simp [ofInt]
  exponent := by simp [ofInt]

/-- The numeral of a whole number stands for it. -/
theorem toWhole?_ofInt (n : Whole) : (ofInt n.value).toWhole? = some n := by
  simp only [toWhole?, ofInt, List.isEmpty_nil, Option.isNone_none, Bool.and_self, if_true,
    Digits.value_digitsOf, decide_eq_true_eq, Int.natAbs_eq_zero]
  split
  case isTrue hneg =>
    have habs : -(n.value.natAbs : Int) = n.value := by omega
    rw [if_neg (by omega), habs, Whole.ofInt?_value]
  case isFalse hneg =>
    have habs : (n.value.natAbs : Int) = n.value := by omega
    rw [habs, Whole.ofInt?_value]

end Numeral

end Newsroom
