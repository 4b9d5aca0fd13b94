import Mathlib.Data.List.Chain
import Newsroom.Text.Casing

/-!
# Ranges and tables

What a case table says of a character, from the ranges of the table. A table in order has one range
at most for a character. Whether one range belongs to another, or shares no character with it, is
seen from the ends of both, so statements about whole tables are evaluated range by range.
-/

namespace Newsroom.Text

/-! ### Ranges -/

theorem toNat_ofNat {n : Nat} (h : n.isValidChar) : (Char.ofNat n).toNat = n := by
  rw [Char.ofNat, dif_pos h]
  rfl

/-- A number that is none of a character stands for the first character. -/
theorem toNat_ofNat_of_not_valid {n : Nat} (h : ¬ n.isValidChar) : (Char.ofNat n).toNat = 0 := by
  rw [Char.ofNat, dif_neg h]
  rfl

namespace CaseRange

variable {r u : CaseRange} {n : Nat}

theorem holds_iff :
    r.holds n = true ↔ r.first ≤ n ∧ n ≤ r.last ∧ (n - r.first) % r.step = 0 := by
  simp [holds, and_assoc]

/-- The range of the characters that those of `r` become; it moves them back. -/
def moved (r : CaseRange) : CaseRange :=
  ⟨(r.first + r.shift).toNat, (r.last + r.shift).toNat, r.step, -r.shift⟩

/-- The range of one character that stays. -/
def only (n : Nat) : CaseRange := ⟨n, n, 1, 0⟩

theorem holds_only : (only n).holds n = true := by simp [holds_iff, only]

/-- All of one range lies before another. -/
def Before (r u : CaseRange) : Prop := r.first ≤ r.last ∧ r.last < u.first ∧ u.first ≤ u.last

instance : DecidableRel Before := fun _ _ => inferInstanceAs (Decidable (_ ∧ _))

instance : Trans Before Before Before :=
  ⟨fun {a b c} (h : a.Before b) (h' : b.Before c) =>
    ⟨h.1, lt_of_lt_of_le h.2.1 (le_trans h.2.2 (le_of_lt h'.2.1)), h'.2.2⟩⟩

-- The next three are evaluated for tens of thousands of pairs of ranges, hence the comparisons of
-- numbers that yield Booleans.

/-- The ends of the range become characters, with no gap in the code points between them. -/
def movesToChars (r : CaseRange) : Bool :=
  0 ≤ r.first + r.shift && (Nat.blt r.moved.last 0xD800 ||
    Nat.blt 0xDFFF r.moved.first && Nat.blt r.moved.last 0x110000)

/-- All of `r` belongs to `u`, as seen from their ends. -/
def within (r u : CaseRange) : Bool :=
  Nat.ble u.first r.first && Nat.ble r.last u.last &&
    Nat.beq ((r.first - u.first) % u.step) 0 && Nat.beq (r.step % u.step) 0

/-- Nothing belongs to both ranges, as seen from their ends: one lies behind the other, or they
alternate. -/
def apart (r u : CaseRange) : Bool :=
  Nat.blt u.last r.first || Nat.blt r.last u.first ||
    (Nat.beq (r.step % u.step) 0 || Nat.beq r.first r.last) &&
      !Nat.beq (r.first % u.step) (u.first % u.step)

theorem holds_of_within (h : r.within u = true) (hn : r.holds n = true) : u.holds n = true := by
  simp only [within, Bool.and_eq_true, Nat.ble_eq, Nat.beq_eq] at h
  obtain ⟨⟨⟨hfirst, hlast⟩, hoffset⟩, hstep⟩ := h
  rw [holds_iff] at hn ⊢
  obtain ⟨hle, hle', hmod⟩ := hn
  refine ⟨by omega, by omega, ?_⟩
  have hsplit : n - u.first = (n - r.first) + (r.first - u.first) := by omega
  have hdvd : u.step ∣ n - r.first :=
    Nat.dvd_trans (Nat.dvd_of_mod_eq_zero hstep) (Nat.dvd_of_mod_eq_zero hmod)
  rw [hsplit]
  exact Nat.mod_eq_zero_of_dvd (Nat.dvd_add hdvd (Nat.dvd_of_mod_eq_zero hoffset))

/-- Within a range the rest by the step, or by a divisor of it, stays the same. -/
theorem mod_eq_of_holds {k : Nat} (h : r.holds n = true) (hk : r.step % k = 0) :
    n % k = r.first % k := by
  obtain ⟨hle, -, hmod⟩ := holds_iff.1 h
  obtain ⟨q, hq⟩ : k ∣ n - r.first :=
    Nat.dvd_trans (Nat.dvd_of_mod_eq_zero hk) (Nat.dvd_of_mod_eq_zero hmod)
  rw [show n = r.first + k * q by omega, Nat.add_mul_mod_self_left]

theorem not_holds_of_apart (h : r.apart u = true) (hn : r.holds n = true) :
    u.holds n = false := by
  simp only [apart, Bool.or_eq_true, Bool.and_eq_true, Nat.blt_eq, Nat.beq_eq, Bool.not_eq_true',
    ← Bool.not_eq_true] at h
  rw [Bool.eq_false_iff]
  intro hu
  obtain ⟨hle, hle', -⟩ := holds_iff.1 hn
  obtain ⟨hule, hule', -⟩ := holds_iff.1 hu
  obtain (h | h) | ⟨hsame, hne⟩ := h
  · omega
  · omega
  · refine hne ?_
    rw [← mod_eq_of_holds hu (Nat.mod_self _)]
    rcases hsame with hstep | hsingle
    · exact (mod_eq_of_holds hn hstep).symm
    · rw [show n = r.first by omega]

theorem movesToChars_iff : r.movesToChars = true ↔ 0 ≤ r.first + r.shift ∧
    (r.moved.last < 0xD800 ∨ 0xDFFF < r.moved.first ∧ r.moved.last < 0x110000) := by
  simp [movesToChars]

theorem holds_moved (h : r.movesToChars = true) (hn : r.holds n = true) :
    r.moved.holds (n + r.shift).toNat = true := by
  obtain ⟨hpos, -⟩ := movesToChars_iff.1 h
  rw [holds_iff] at hn ⊢
  obtain ⟨hle, hle', hmod⟩ := hn
  have hoffset : (n + r.shift).toNat - (r.first + r.shift).toNat = n - r.first := by omega
  exact ⟨by dsimp only [moved]; omega, by dsimp only [moved]; omega, by rwa [moved, hoffset]⟩

/-- What the characters of the range become are characters. -/
theorem toNat_moved (h : r.movesToChars = true) (hn : r.holds n = true) :
    (Char.ofNat (n + r.shift).toNat).toNat = (n + r.shift).toNat := by
  obtain ⟨hfirst, hlast, -⟩ := holds_iff.1 (holds_moved h hn)
  obtain ⟨-, hchars⟩ := movesToChars_iff.1 h
  refine toNat_ofNat ?_
  rcases hchars with hlow | ⟨hhigh, hlow⟩
  · exact .inl (by omega)
  · exact .inr ⟨by omega, by omega⟩

end CaseRange

/-! ### Tables -/

section Tables

variable {ranges : List CaseRange} {special : List (Nat × List Nat)} {u : CaseRange} {c d : Char}

/-- In a table in order there is one range at most that has a character. -/
theorem find?_eq_of_holds {n : Nat} (horder : ranges.IsChain CaseRange.Before) (hu : u ∈ ranges)
    (hn : u.holds n = true) : ranges.find? (·.holds n) = some u := by
  rw [List.isChain_iff_pairwise] at horder
  induction ranges with
  | nil => cases hu
  | cons r rest ih =>
    obtain ⟨hbefore, hrest⟩ := List.pairwise_cons.1 horder
    rcases List.mem_cons.1 hu with rfl | hu
    · exact List.find?_cons_of_pos hn
    · have hnot : ¬ r.holds n = true := by
        intro hr
        obtain ⟨-, hlt, -⟩ := hbefore u hu
        obtain ⟨-, hle, -⟩ := CaseRange.holds_iff.1 hr
        obtain ⟨hle', -, -⟩ := CaseRange.holds_iff.1 hn
        omega
      exact (List.find?_cons_of_neg (p := fun r : CaseRange => r.holds n) hnot).trans (ih hrest hu)

theorem mapCase_of_holds (horder : ranges.IsChain CaseRange.Before) (hu : u ∈ ranges)
    (hc : u.holds c.toNat = true) :
    mapCase ranges special c = [Char.ofNat (c.toNat + u.shift).toNat] := by
  rw [mapCase, find?_eq_of_holds horder hu hc]

/-- What the table does not have stays. -/
theorem mapCase_of_not_holds (hranges : ∀ r ∈ ranges, r.holds c.toNat = false)
    (hspecial : ∀ e ∈ special, e.1 ≠ c.toNat) : mapCase ranges special c = [c] := by
  have hnone : ranges.find? (·.holds c.toNat) = none :=
    List.find?_eq_none.2 fun r hr => by rw [hranges r hr]; exact Bool.false_ne_true
  have hlookup : special.lookup c.toNat = none :=
    List.lookup_eq_none_iff.2 fun e he => bne_iff_ne.2 (hspecial e he).symm
  rw [mapCase, hnone, hlookup]

/-- The table moves no character of the range, as seen from the ends of its ranges. -/
def CaseRange.untouched (r : CaseRange) (ranges : List CaseRange)
    (special : List (Nat × List Nat)) : Bool :=
  ranges.all (r.apart ·) && special.all fun e => (CaseRange.only e.1).apart r

theorem mapCase_of_untouched {r : CaseRange} (h : r.untouched ranges special = true)
    (hc : r.holds c.toNat = true) : mapCase ranges special c = [c] := by
  obtain ⟨hranges, hspecial⟩ := Bool.and_eq_true_iff.1 h
  refine mapCase_of_not_holds
    (fun u hu => CaseRange.not_holds_of_apart (List.all_eq_true.1 hranges u hu) hc) ?_
  rintro e he heq
  have hnot := CaseRange.not_holds_of_apart (List.all_eq_true.1 hspecial e he) CaseRange.holds_only
  rw [heq, hc] at hnot
  cases hnot

/-- A character moves with its range, becomes several characters, or stays. -/
theorem mapCase_cases (ranges : List CaseRange) (special : List (Nat × List Nat)) (c : Char) :
    (∃ r ∈ ranges, r.holds c.toNat = true ∧
      mapCase ranges special c = [Char.ofNat (c.toNat + r.shift).toNat]) ∨
    (∃ e ∈ special, e.1 = c.toNat ∧ mapCase ranges special c = e.2.map Char.ofNat) ∨
    mapCase ranges special c = [c] := by
  rw [mapCase]
  cases hfind : ranges.find? (·.holds c.toNat) with
  | some r =>
    exact .inl ⟨r, List.mem_of_find?_eq_some hfind,
      List.find?_some (p := fun r : CaseRange => r.holds c.toNat) hfind, rfl⟩
  | none =>
    cases hlookup : special.lookup c.toNat with
    | some codes =>
      obtain ⟨before, after, hsplit, -⟩ := List.lookup_eq_some_iff.1 hlookup
      exact .inr (.inl ⟨(c.toNat, codes), by rw [hsplit]; simp, rfl, rfl⟩)
    | none => exact .inr (.inr rfl)

/-- Some range or special case of the table leads to the character. -/
def leadsTo (ranges : List CaseRange) (special : List (Nat × List Nat)) (d : Char) : Bool :=
  (ranges.any fun r => r.holds (d.toNat - r.shift).toNat) ||
    special.any fun e => (e.2.map Char.ofNat).contains d

/-- What the table does not lead to comes from itself only. -/
theorem eq_of_mem_mapCase (hd : d.toNat ≠ 0) (htable : leadsTo ranges special d = false)
    (h : d ∈ mapCase ranges special c) : d = c := by
  obtain ⟨hranges, hspecial⟩ := Bool.or_eq_false_iff.1 htable
  rcases mapCase_cases ranges special c with ⟨r, hr, hc, hmap⟩ | ⟨e, he, -, hmap⟩ | hmap
  · rw [hmap, List.mem_singleton] at h
    by_cases hvalid : (c.toNat + r.shift).toNat.isValidChar
    · have hcode : d.toNat = (c.toNat + r.shift).toNat := by rw [h, toNat_ofNat hvalid]
      have hnot := List.any_eq_false.1 hranges r hr
      rw [show (d.toNat - r.shift).toNat = c.toNat by omega] at hnot
      exact absurd hc hnot
    · rw [h, toNat_ofNat_of_not_valid hvalid] at hd
      exact absurd rfl hd
  · rw [hmap] at h
    exact absurd (List.contains_iff_mem.2 h) (List.any_eq_false.1 hspecial e he)
  · rw [hmap, List.mem_singleton] at h
    exact h

end Tables

end Newsroom.Text
