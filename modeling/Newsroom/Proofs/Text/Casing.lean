import Newsroom.Proofs.Text.CaseTable

/-!
# Foldings that agree

Texts may agree in upper case and differ in lower case, such as `Straße` and `Strasse`. ASCII texts
do not: only the first range of either table has ASCII characters (`mapCase_ascii`), so the lower
case of ASCII text does not depend on the case that it is written in (`lower_upper`).
-/

namespace Newsroom.Text

/-- All characters of the text are ASCII. -/
def IsAscii (s : String) : Prop := ∀ c ∈ s.toList, c.toNat < 128

instance (s : String) : Decidable (IsAscii s) :=
  List.decidableBAll (fun c : Char => c.toNat < 128) s.toList

/-- The character that the range makes of `c`. -/
def CaseRange.map (r : CaseRange) (c : Char) : Char :=
  if r.holds c.toNat then Char.ofNat (c.toNat + r.shift).toNat else c

/-- The letters A to Z, which move to the small letters. -/
def CaseRange.capitals : CaseRange := ⟨0x41, 0x5A, 1, 32⟩

/-- The letters a to z, which move to the capital letters. -/
def CaseRange.smalls : CaseRange := ⟨0x61, 0x7A, 1, -32⟩

/-- In a table whose other ranges and special cases lie behind the ASCII characters, these move
with the first range only. -/
theorem mapCase_ascii {r : CaseRange} {rest : List CaseRange} {special : List (Nat × List Nat)}
    {c : Char} (hrest : ∀ r ∈ rest, 128 ≤ r.first) (hspecial : ∀ e ∈ special, 128 ≤ e.1)
    (hc : c.toNat < 128) : mapCase (r :: rest) special c = [r.map c] := by
  rw [CaseRange.map]
  cases hholds : r.holds c.toNat with
  | true =>
    rw [mapCase, List.find?_cons, hholds]
    rfl
  | false =>
    refine mapCase_of_not_holds (List.forall_mem_cons.2 ⟨hholds, fun u hu => ?_⟩) fun e he => ?_
    · rw [Bool.eq_false_iff]
      intro hu'
      obtain ⟨hle, -⟩ := CaseRange.holds_iff.1 hu'
      have hfirst := hrest u hu
      omega
    · have hkey := hspecial e he
      omega

theorem lowerChar_ascii {c : Char} (hc : c.toNat < 128) :
    lowerChar c = [CaseRange.capitals.map c] :=
  mapCase_ascii (by decide +kernel) (by decide +kernel) hc

theorem upperChar_ascii {c : Char} (hc : c.toNat < 128) :
    upperChar c = [CaseRange.smalls.map c] :=
  mapCase_ascii (by decide +kernel) (by decide +kernel) hc

/-- The capital of an ASCII character is one too and has the same small letter. -/
theorem map_capitals_map_smalls {c : Char} (hc : c.toNat < 128) :
    (CaseRange.smalls.map c).toNat < 128 ∧
      CaseRange.capitals.map (CaseRange.smalls.map c) = CaseRange.capitals.map c := by
  have hall : ∀ n < 128, (CaseRange.smalls.map (Char.ofNat n)).toNat < 128 ∧
      CaseRange.capitals.map (CaseRange.smalls.map (Char.ofNat n)) =
        CaseRange.capitals.map (Char.ofNat n) := by decide +kernel
  have hcase := hall c.toNat hc
  rwa [Char.ofNat_toNat] at hcase

theorem upper_ascii {s : String} (h : IsAscii s) :
    upper s = String.ofList (s.toList.map CaseRange.smalls.map) := by
  rw [upper, List.flatMap_def, List.map_congr_left fun c hc => upperChar_ascii (h c hc),
    ← List.flatMap_def, ← List.map_eq_flatMap]

/-- ASCII text has no capital sigma, so its lower case goes character by character. -/
theorem lower_ascii {s : String} (h : IsAscii s) :
    lower s = String.ofList (s.toList.map CaseRange.capitals.map) := by
  have hchars : ∀ (cs before : List Char), (∀ c ∈ cs, c.toNat < 128) →
      lowerAfter before cs = cs.map CaseRange.capitals.map := by
    intro cs
    induction cs with
    | nil => exact fun _ _ => rfl
    | cons c cs ih =>
      intro before hcs
      obtain ⟨hc, hcs⟩ := List.forall_mem_cons.1 hcs
      have hsigma : c ≠ 'Σ' := by
        rintro rfl
        exact absurd hc (by decide)
      rw [lowerAfter, if_neg hsigma, lowerChar_ascii hc, ih _ hcs]
      rfl
  rw [lower, hchars _ _ h]

/-- The lower case of ASCII text does not depend on the case that it is written in. -/
theorem lower_upper {s : String} (h : IsAscii s) : lower (upper s) = lower s := by
  have hupper : IsAscii (upper s) := by
    rw [upper_ascii h, IsAscii, String.toList_ofList]
    intro c hc
    obtain ⟨d, hd, rfl⟩ := List.mem_map.1 hc
    exact (map_capitals_map_smalls (h d hd)).1
  rw [lower_ascii hupper, lower_ascii h, upper_ascii h, String.toList_ofList, List.map_map]
  exact congrArg String.ofList
    (List.map_congr_left fun c hc => (map_capitals_map_smalls (h c hc)).2)

/-- ASCII texts that agree in upper case agree in lower case. -/
theorem lower_eq_of_upper_eq {a b : String} (ha : IsAscii a) (hb : IsAscii b)
    (h : upper a = upper b) : lower a = lower b := by
  rw [← lower_upper ha, h, lower_upper hb]

end Newsroom.Text
