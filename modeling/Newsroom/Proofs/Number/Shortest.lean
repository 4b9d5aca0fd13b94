import Newsroom.Proofs.Number.Numeral

/-!
# The numerals of doubles

The shortest decimal of a double other than zero has a digit other than zero
(`Double.digits_shortest_ne_zero`): the search starts at the place of the leading digit, so no
candidate on its way is zero. So the numeral of a double is well-formed, and it is never taken for a
whole number, for it has a point or an exponent.
-/

namespace Newsroom

/-! ### The place of the leading digit -/

theorem one_le_tenTo (k : Nat) : 1 ≤ tenTo k := Nat.pow_pos (by decide)

theorem tenTo_le_tenTo {j k : Nat} (h : j ≤ k) : tenTo j ≤ tenTo k :=
  Nat.pow_le_pow_right (by decide) h

theorem twoTo_le_twoTo {j k : Nat} (h : j ≤ k) : twoTo j ≤ twoTo k :=
  Nat.pow_le_pow_right (by decide) h

/-- A number of `k` digits reaches the power with `k - 1` zeros. -/
theorem Decimal.tenTo_le {n : Nat} (h : n ≠ 0) : tenTo ((digitsOf n).length - 1) ≤ n := by
  by_cases hlength : 0 < (digitsOf n).length - 1
  · refine Nat.le_of_not_lt fun hlt => ?_
    have hshort : (digitsOf n).length ≤ (digitsOf n).length - 1 :=
      (Nat.length_toDigits_le_iff (by decide) hlength).2 hlt
    omega
  · rw [Nat.le_zero.1 (Nat.not_lt.1 hlength)]
    exact Nat.pos_of_ne_zero h

namespace Double

theorem le_leadingZeros {num den fuel start : Nat} (h : den ≤ num * tenTo (start + fuel)) :
    den ≤ num * tenTo (leadingZeros num den fuel start) := by
  induction fuel generalizing start with
  | zero => exact h
  | succ fuel ih =>
    rw [leadingZeros]
    split
    case isTrue hle => exact hle
    case isFalse => exact ih (by rwa [Nat.add_right_comm, Nat.add_assoc])

/-- The quotient is not below the power of ten that is found for it. -/
theorem le_floorLog10 {num den : Nat} (hden : 0 < den) (h : den ≤ num * tenTo 401) :
    den * tenTo (floorLog10 num den).toNat ≤ num * tenTo (-floorLog10 num den).toNat := by
  rw [floorLog10]
  split
  case isTrue hle =>
    have hne : num / den ≠ 0 := Nat.ne_of_gt (Nat.div_pos hle hden)
    have hplace : (((Decimal.digitsOf (num / den)).length : Int) - 1).toNat =
        (Decimal.digitsOf (num / den)).length - 1 := by omega
    rw [hplace]
    calc den * tenTo ((Decimal.digitsOf (num / den)).length - 1)
        ≤ den * (num / den) := Nat.mul_le_mul_left den (Decimal.tenTo_le hne)
      _ ≤ num := Nat.mul_div_le num den
      _ ≤ num * tenTo _ := Nat.le_mul_of_pos_right num (one_le_tenTo _)
  case isFalse =>
    have hplace : (-(leadingZeros num den 400 1 : Nat) : Int).toNat = 0 := by omega
    rw [hplace, Int.neg_neg, Int.toNat_natCast]
    exact Nat.le_trans (Nat.le_of_eq (Nat.mul_one den)) (le_leadingZeros h)

/-! ### The search -/

namespace Interval

variable {i : Interval} {top place : Int}

/-- On every grid that is no coarser than that of the leading digit, the number is at least one. -/
theorem one_le_floor (hunit : 0 < i.unit)
    (htop : i.unit * tenTo top.toNat ≤ i.centre * tenTo (-top).toNat) (hplace : place ≤ top) :
    1 ≤ i.centre * tenTo (-place).toNat / (i.unit * tenTo place.toNat) := by
  refine Nat.div_pos ?_ (Nat.mul_pos hunit (one_le_tenTo _))
  rcases Int.le_total 0 top with hpos | hneg
  · have hzero : (-top).toNat = 0 := by omega
    rw [hzero] at htop
    calc i.unit * tenTo place.toNat
        ≤ i.unit * tenTo top.toNat := Nat.mul_le_mul_left _ (tenTo_le_tenTo (by omega))
      _ ≤ i.centre * tenTo 0 := htop
      _ ≤ i.centre * tenTo (-place).toNat :=
          Nat.mul_le_mul_left _ (tenTo_le_tenTo (Nat.zero_le _))
  · have hzero : top.toNat = 0 := by omega
    have hzero' : place.toNat = 0 := by omega
    rw [hzero] at htop
    rw [hzero']
    exact Nat.le_trans htop (Nat.mul_le_mul_left _ (tenTo_le_tenTo (by omega)))

theorem digits_nearest?_ne_zero {d : Decimal}
    (hfloor : 1 ≤ i.centre * tenTo (-place).toNat / (i.unit * tenTo place.toNat))
    (h : i.nearest? place = some d) : d.digits ≠ 0 := by
  simp only [nearest?] at h
  split at h
  · cases h
    exact Nat.ne_of_gt hfloor
  · split at h
    · cases h
      exact Nat.succ_ne_zero _
    · cases h

theorem digits_search_ne_zero (hunit : 0 < i.unit)
    (htop : i.unit * tenTo top.toNat ≤ i.centre * tenTo (-top).toNat) {fuel count : Nat}
    (hcount : 1 ≤ count) : (i.search top fuel count).digits ≠ 0 := by
  induction fuel generalizing count with
  | zero =>
    have hplace : (count - 1 - top : Int) = -(top - count + 1) := by omega
    rw [search, hplace]
    exact Nat.ne_of_gt (one_le_floor hunit htop (by omega))
  | succ fuel ih =>
    rw [search]
    split
    case h_1 d hd => exact digits_nearest?_ne_zero (one_le_floor hunit htop (by omega)) hd
    case h_2 => exact ih (by omega)

end Interval

theorem digits_strip_ne_zero {fuel : Nat} {d : Decimal} (h : d.digits ≠ 0) :
    (d.strip fuel).digits ≠ 0 := by
  induction fuel generalizing d with
  | zero => exact h
  | succ fuel ih =>
    rw [Decimal.strip]
    split
    case isTrue hzero => exact ih (show d.digits / 10 ≠ 0 by omega)
    case isFalse => exact h

theorem neg_exponent_le (x : Double) : (-x.exponent).toNat ≤ 1074 := by
  rw [exponent]
  split
  case isTrue => decide
  case isFalse hnormal =>
    have hone : 1 ≤ x.magnitude / twoTo 52 := Nat.div_pos (Nat.le_of_not_lt hnormal) (by decide)
    omega

theorem significand_pos {x : Double} (h : x.isZero = false) : 0 < x.significand := by
  rw [significand]
  split
  case isTrue => exact Nat.pos_of_ne_zero (of_decide_eq_false h)
  case isFalse => exact Nat.add_pos_left (by decide) _

/-- The shortest decimal of a number other than zero is not zero. -/
theorem digits_shortest_ne_zero {x : Double} (h : x.isZero = false) : x.shortest.digits ≠ 0 := by
  have hunit : 0 < x.interval.unit := Nat.mul_pos (by decide) (Nat.pow_pos (by decide))
  have hcentre : 1 ≤ x.interval.centre :=
    Nat.mul_pos (Nat.mul_pos (by decide) (significand_pos h)) (Nat.pow_pos (by decide))
  have hbound : x.interval.unit ≤ x.interval.centre * tenTo 401 :=
    calc x.interval.unit
        ≤ 4 * twoTo 1074 :=
          Nat.mul_le_mul_left 4 (twoTo_le_twoTo (neg_exponent_le x))
      _ ≤ tenTo 401 := by decide +kernel
      _ ≤ x.interval.centre * tenTo 401 := Nat.le_mul_of_pos_left _ hcentre
  exact digits_strip_ne_zero (Interval.digits_search_ne_zero hunit
    (le_floorLog10 hunit hbound) (Nat.le_refl 1))

/-! ### The numeral -/

/-- A well-formed numeral with a point or an exponent. -/
structure Fractional (n : Numeral) : Prop where
  wellFormed : n.WellFormed
  notWhole : n.after ≠ [] ∨ n.exponent ≠ none

theorem fractional_point {before after : List Char} (negative : Bool) (hne : before ≠ [])
    (hbefore : ∀ c ∈ before, c.isDigit = true)
    (hzero : before.head? = some '0' → before = ['0']) (hne' : after ≠ [])
    (hafter : ∀ c ∈ after, c.isDigit = true) : Fractional ⟨negative, before, after, none⟩ where
  wellFormed := {
    before_ne := hne
    before := hbefore
    zero := hzero
    after := hafter
    exponent_ne := by simp
    exponent := by simp }
  notWhole := .inl hne'

theorem isDigit_of_mem_zeros {k : Nat} {c : Char} (h : c ∈ List.replicate k '0') :
    c.isDigit = true := by
  rw [List.eq_of_mem_replicate h]
  rfl

/-- Whatever the layout, the numeral of a decimal other than zero is well-formed. -/
theorem fractional_layout (layout : Layout) (negative : Bool) {d : Decimal} (h : d.digits ≠ 0) :
    Fractional (layout.numeral negative d) := by
  have hhead := Decimal.head?_digitsOf h
  have hdigits : ∀ c ∈ Decimal.digitsOf d.digits, c.isDigit = true :=
    fun _ => Decimal.isDigit_of_mem_digitsOf
  obtain ⟨c, cs, hcons⟩ := List.exists_cons_of_ne_nil (Decimal.digitsOf_ne_nil d.digits)
  simp only [Layout.numeral]
  rw [hcons] at hhead hdigits ⊢
  obtain ⟨hc, hcs⟩ := List.forall_mem_cons.1 hdigits
  split
  case isTrue =>
    split
    case isTrue =>
      refine fractional_point negative (by simp) (by simp) (fun _ => rfl) (by simp) ?_
      exact fun x hx => (List.mem_append.1 hx).elim isDigit_of_mem_zeros (hdigits x)
    case isFalse hpositive =>
      -- the leading digit stands before the point, and with it zeros up to the point
      obtain ⟨k, hk⟩ : ∃ k, (d.exponent + ((c :: cs).length : Int) - 1 + 1).toNat = k + 1 :=
        ⟨_, (Nat.succ_pred_eq_of_pos (by omega)).symm⟩
      rw [hk]
      generalize hpadded : cs ++ List.replicate (k + 1 - (c :: cs).length) '0' = padded
      have hall : ∀ x ∈ padded, x.isDigit = true := by
        rw [← hpadded]
        exact fun x hx => (List.mem_append.1 hx).elim (hcs x) isDigit_of_mem_zeros
      rw [List.cons_append, hpadded, List.take_succ_cons, List.drop_succ_cons]
      refine fractional_point negative (by simp) ?_ (fun hzero => absurd hzero hhead) ?_ ?_
      · exact List.forall_mem_cons.2 ⟨hc, fun x hx => hall x (List.mem_of_mem_take hx)⟩
      · split
        case isTrue => simp
        case isFalse hsome => simpa using hsome
      · split
        case isTrue => simp
        case isFalse => exact fun x hx => hall x (List.mem_of_mem_drop hx)
  case isFalse =>
    exact {
      wellFormed := {
        before_ne := by simp
        before := by simpa using hc
        zero := by
          intro hzero
          obtain rfl : c = '0' := Option.some.inj hzero
          rfl
        after := hcs
        exponent_ne := by simp [Decimal.digitsOf_ne_nil]
        exponent := by
          rintro _ ⟨⟩
          exact fun _ => Decimal.isDigit_of_mem_digitsOf }
      notWhole := .inr (by simp) }

theorem fractional_numeral (x : Double) : Fractional x.numeral := by
  rw [numeral]
  split
  case isTrue =>
    exact fractional_point x.negative (by simp) (by simp) (fun _ => rfl) (by simp) (by simp)
  case isFalse h => exact fractional_layout _ _ (digits_shortest_ne_zero (Bool.eq_false_iff.2 h))

/-- A numeral with a point or an exponent is not taken for a whole number. -/
theorem Fractional.toWhole?_eq {n : Numeral} (h : Fractional n) : n.toWhole? = none := by
  have hnot : (n.after.isEmpty && n.exponent.isNone) = false := by
    rcases h.notWhole with hafter | hexponent
    · simp [hafter]
    · simp [Option.isSome_iff_ne_none.2 hexponent]
  rw [Numeral.toWhole?, hnot]
  rfl

end Double

end Newsroom
