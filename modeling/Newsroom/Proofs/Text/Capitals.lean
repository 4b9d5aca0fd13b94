import Newsroom.Proofs.Text.CaseTable

/-!
# Capitals that lower case forgets

Upper case takes back what lower case makes of a text, unless the text has one of six capitals that
share their small letter with another capital: the dotted I, the theta symbol, the sharp S, and the
signs for ohm, kelvin and ångström (`mem_loneCapitals_iff`, `upper_lower_iff`). So texts without
them that agree in lower case agree in upper case. The converse fails for many more letters, see
`lower_eq_of_upper_eq`.

Most ranges of the lower case table are taken back by one range of the upper case table, which is
seen from the ends of both (`CaseRange.reversible`). The few others have letters in title case,
capitals whose upper case is several letters, or lone capitals; their characters are evaluated one
by one.
-/

namespace Newsroom.Text

/-! ### Single characters -/

/-- The capitals that share their small letter with another capital: the dotted I, the theta
symbol, the sharp S, and the signs for ohm, kelvin and ångström. -/
def loneCapitals : List Char := ['\u0130', '\u03F4', '\u1E9E', '\u2126', '\u212A', '\u212B']

/-- Upper case takes back what lower case makes of the range: no character of it moves in the upper
case table, and one range of that table takes it back as a whole. -/
def CaseRange.reversible (r : CaseRange) : Bool :=
  r.movesToChars && r.untouched upperRanges upperSpecial &&
    upperRanges.any fun u => r.moved.within u && u.shift = r.moved.shift

theorem upperRanges_inOrder : upperRanges.IsChain CaseRange.Before := by decide +kernel

/-- All ranges are reversible, or their characters are lone capitals or are taken back each. -/
theorem lowerRanges_reversible : (lowerRanges.all fun r => r.reversible ||
    (List.range' r.first (r.last + 1 - r.first)).all fun n =>
      loneCapitals.contains (Char.ofNat n) ||
        (lowerChar (Char.ofNat n)).flatMap upperChar = upperChar (Char.ofNat n)) = true := by
  decide +kernel

theorem upperChar_of_reversible {r : CaseRange} {c : Char} (h : r.reversible = true)
    (hc : r.holds c.toNat = true) :
    upperChar (Char.ofNat (c.toNat + r.shift).toNat) = upperChar c := by
  simp only [CaseRange.reversible, Bool.and_eq_true, List.any_eq_true, decide_eq_true_eq] at h
  obtain ⟨⟨hchars, huntouched⟩, u, hu, hwithin, hshift⟩ := h
  have hstays : upperChar c = [c] := mapCase_of_untouched huntouched hc
  have hcode := CaseRange.toNat_moved hchars hc
  have hholds := CaseRange.holds_of_within hwithin (CaseRange.holds_moved hchars hc)
  rw [← hcode] at hholds
  have hback : ((c.toNat + r.shift).toNat + u.shift).toNat = c.toNat := by
    obtain ⟨hpos, -⟩ := CaseRange.movesToChars_iff.1 hchars
    obtain ⟨hle, -⟩ := CaseRange.holds_iff.1 hc
    have hminus : r.moved.shift = -r.shift := rfl
    omega
  rw [hstays, upperChar, mapCase_of_holds upperRanges_inOrder hu hholds, hcode, hback,
    Char.ofNat_toNat]

/-- Upper case takes back what lower case makes of a character, unless it is a lone capital. -/
theorem flatMap_upperChar_lowerChar {c : Char} (h : c ∉ loneCapitals) :
    (lowerChar c).flatMap upperChar = upperChar c := by
  rcases mapCase_cases lowerRanges lowerSpecial c with ⟨r, hr, hc, hlower⟩ | ⟨e, he, hc, -⟩ | hlower
  · rcases Bool.or_eq_true_iff.1 (List.all_eq_true.1 lowerRanges_reversible r hr) with
      hreversible | hevaluated
    · rw [lowerChar, hlower, List.flatMap_singleton, upperChar_of_reversible hreversible hc]
    · obtain ⟨hle, hle', -⟩ := CaseRange.holds_iff.1 hc
      have hcase := List.all_eq_true.1 hevaluated c.toNat (List.mem_range'_1.2 ⟨hle, by omega⟩)
      rw [Char.ofNat_toNat] at hcase
      simpa [h] using hcase
  · -- the only special case of lower case is the dotted I
    have hdotted : ∀ e ∈ lowerSpecial, Char.ofNat e.1 ∈ loneCapitals := by decide
    have hmem := hdotted e he
    rw [hc, Char.ofNat_toNat] at hmem
    exact absurd hmem h
  · rw [lowerChar, hlower, List.flatMap_singleton]

/-- The lone capitals are exactly the characters that upper case does not give back. -/
theorem mem_loneCapitals_iff {c : Char} :
    c ∈ loneCapitals ↔ (lowerChar c).flatMap upperChar ≠ upperChar c := by
  have hlost : (loneCapitals.all fun c => (lowerChar c).flatMap upperChar ≠ upperChar c) = true := by
    decide
  exact ⟨fun h => of_decide_eq_true (List.all_eq_true.1 hlost c h),
    fun hne => by_contra fun h => hne (flatMap_upperChar_lowerChar h)⟩

/-- No lone capital comes from lower case. -/
theorem not_mem_lowerChar {c d : Char} (hd : d ∈ loneCapitals) : d ∉ lowerChar c := by
  have htable : (loneCapitals.all fun d => d.toNat ≠ 0 && !leadsTo lowerRanges lowerSpecial d &&
      !(lowerChar d).contains d) = true := by decide
  have hchar := List.all_eq_true.1 htable d hd
  simp only [Bool.and_eq_true, decide_eq_true_eq, Bool.not_eq_true', ← Bool.not_eq_true,
    List.contains_iff_mem] at hchar
  obtain ⟨⟨hcode, hleads⟩, hself⟩ := hchar
  intro hmem
  obtain rfl := eq_of_mem_mapCase hcode (Bool.eq_false_iff.2 hleads) hmem
  exact hself hmem

/-- A lone capital is its own upper case and that of no other character. -/
theorem mem_upperChar_iff {c d : Char} (hd : d ∈ loneCapitals) : d ∈ upperChar c ↔ d = c := by
  have htable : (loneCapitals.all fun d => d.toNat ≠ 0 && !leadsTo upperRanges upperSpecial d &&
      (upperChar d).contains d) = true := by decide
  have hchar := List.all_eq_true.1 htable d hd
  simp only [Bool.and_eq_true, decide_eq_true_eq, Bool.not_eq_true', List.contains_iff_mem] at hchar
  obtain ⟨⟨hcode, hleads⟩, hself⟩ := hchar
  refine ⟨eq_of_mem_mapCase hcode hleads, ?_⟩
  rintro rfl
  exact hself

/-- What lower case leads to stays in lower case. -/
theorem lowerRanges_moved_untouched : (lowerRanges.all fun r => r.movesToChars &&
    r.moved.untouched lowerRanges lowerSpecial) = true := by
  decide +kernel

theorem lowerChar_of_mem_lowerChar {c d : Char} (h : d ∈ lowerChar c) : lowerChar d = [d] := by
  rcases mapCase_cases lowerRanges lowerSpecial c with ⟨r, hr, hc, hlower⟩ | ⟨e, he, -, hlower⟩ |
    hlower
  · obtain ⟨hchars, huntouched⟩ :=
      Bool.and_eq_true_iff.1 (List.all_eq_true.1 lowerRanges_moved_untouched r hr)
    rw [lowerChar, hlower, List.mem_singleton] at h
    have hholds := CaseRange.holds_moved hchars hc
    rw [← CaseRange.toNat_moved hchars hc, ← h] at hholds
    exact mapCase_of_untouched huntouched hholds
  · have hfixed : (lowerSpecial.all fun e => (e.2.map Char.ofNat).all fun d =>
        lowerChar d = [d]) = true := by decide
    rw [lowerChar, hlower] at h
    exact of_decide_eq_true (List.all_eq_true.1 (List.all_eq_true.1 hfixed e he) d h)
  · rw [lowerChar, hlower, List.mem_singleton] at h
    rwa [h]

theorem lowerChar_ne_nil (c : Char) : lowerChar c ≠ [] := by
  rcases mapCase_cases lowerRanges lowerSpecial c with ⟨r, -, -, hlower⟩ | ⟨e, he, -, hlower⟩ |
    hlower
  · rw [lowerChar, hlower]
    exact List.cons_ne_nil _ _
  · have hcodes : ∀ e ∈ lowerSpecial, e.2.map Char.ofNat ≠ [] := by decide
    rw [lowerChar, hlower]
    exact hcodes e he
  · rw [lowerChar, hlower]
    exact List.cons_ne_nil _ _

/-! ### Texts -/

/-- The text has a capital that lower case forgets. -/
def HasLoneCapital (s : String) : Prop := ∃ c ∈ s.toList, c ∈ loneCapitals

instance (s : String) : Decidable (HasLoneCapital s) :=
  List.decidableBEx (fun c => c ∈ loneCapitals) s.toList

/-- A character becomes its lower case, unless a capital sigma becomes the final one. -/
theorem lowerAfter_cons (before : List Char) (c : Char) (rest : List Char) :
    ∃ mapped, lowerAfter before (c :: rest) = mapped ++ lowerAfter (c :: before) rest ∧
      (mapped = lowerChar c ∨ c = 'Σ' ∧ mapped = ['ς']) := by
  have hsigma : lowerChar 'Σ' = ['σ'] := by decide
  rw [lowerAfter]
  refine ⟨_, rfl, ?_⟩
  by_cases hc : c = 'Σ'
  · rw [if_pos hc, hc, hsigma]
    split
    · exact .inr ⟨rfl, rfl⟩
    · exact .inl rfl
  · rw [if_neg hc]
    exact .inl rfl

theorem mem_lowerAfter {d : Char} {before cs : List Char} (h : d ∈ lowerAfter before cs) :
    (∃ c ∈ cs, d ∈ lowerChar c) ∨ d = 'ς' := by
  induction cs generalizing before with
  | nil => cases h
  | cons c rest ih =>
    obtain ⟨mapped, hlower, hmapped⟩ := lowerAfter_cons before c rest
    rw [hlower, List.mem_append] at h
    rcases h with h | h
    · rcases hmapped with rfl | ⟨-, rfl⟩
      · exact .inl ⟨c, List.mem_cons_self, h⟩
      · exact .inr (List.mem_singleton.1 h)
    · rcases ih h with ⟨c', hc', hd⟩ | hd
      · exact .inl ⟨c', List.mem_cons_of_mem c hc', hd⟩
      · exact .inr hd

/-- Characters that lower case leaves alone by themselves stay in every text. -/
theorem lowerAfter_eq_self {cs before : List Char} (h : ∀ d ∈ cs, lowerChar d = [d]) :
    lowerAfter before cs = cs := by
  have hsigma : lowerChar 'Σ' ≠ ['Σ'] := by decide
  induction cs generalizing before with
  | nil => rfl
  | cons d rest ih =>
    obtain ⟨hd, hrest⟩ := List.forall_mem_cons.1 h
    obtain ⟨mapped, hlower, rfl | ⟨rfl, -⟩⟩ := lowerAfter_cons before d rest
    · rw [hlower, hd, ih hrest]
      rfl
    · exact absurd hd hsigma

/-- Lower case of lower case is the same. -/
theorem lower_lower (s : String) : lower (lower s) = lower s := by
  have hfinal : lowerChar 'ς' = ['ς'] := rfl
  rw [lower, lower, String.toList_ofList, lowerAfter_eq_self]
  intro d hd
  rcases mem_lowerAfter hd with ⟨c, -, hc⟩ | rfl
  · exact lowerChar_of_mem_lowerChar hc
  · exact hfinal

theorem not_hasLoneCapital_lower (s : String) : ¬ HasLoneCapital (lower s) := by
  rintro ⟨c, hc, hlone⟩
  rw [lower, String.toList_ofList] at hc
  rcases mem_lowerAfter hc with ⟨_, -, hmem⟩ | rfl
  · exact not_mem_lowerChar hlone hmem
  · exact absurd hlone (by decide)

theorem hasLoneCapital_upper_iff {s : String} : HasLoneCapital (upper s) ↔ HasLoneCapital s := by
  rw [HasLoneCapital, upper, String.toList_ofList]
  constructor
  · rintro ⟨c, hc, hlone⟩
    obtain ⟨d, hd, hmem⟩ := List.mem_flatMap.1 hc
    obtain rfl := (mem_upperChar_iff hlone).1 hmem
    exact ⟨c, hd, hlone⟩
  · rintro ⟨c, hc, hlone⟩
    exact ⟨c, List.mem_flatMap.2 ⟨c, hc, (mem_upperChar_iff hlone).2 rfl⟩, hlone⟩

theorem flatMap_upperChar_lowerAfter {cs before : List Char} (h : ∀ c ∈ cs, c ∉ loneCapitals) :
    (lowerAfter before cs).flatMap upperChar = cs.flatMap upperChar := by
  have hfinal : upperChar 'ς' = upperChar 'Σ' := rfl
  induction cs generalizing before with
  | nil => rfl
  | cons c rest ih =>
    obtain ⟨hc, hrest⟩ := List.forall_mem_cons.1 h
    obtain ⟨mapped, hlower, hmapped⟩ := lowerAfter_cons before c rest
    have hupper : mapped.flatMap upperChar = upperChar c := by
      rcases hmapped with rfl | ⟨rfl, rfl⟩
      · exact flatMap_upperChar_lowerChar hc
      · rw [List.flatMap_singleton, hfinal]
    rw [hlower, List.flatMap_append, hupper, ih hrest, List.flatMap_cons]

/-- **What lower case forgets**: upper case takes back what lower case makes of a text exactly when
the text has no lone capital. -/
theorem upper_lower_iff {s : String} : upper (lower s) = upper s ↔ ¬ HasLoneCapital s := by
  constructor
  · intro h hlone
    have hlower := hasLoneCapital_upper_iff.2 hlone
    rw [← h] at hlower
    exact not_hasLoneCapital_lower s (hasLoneCapital_upper_iff.1 hlower)
  · intro h
    rw [upper, lower, String.toList_ofList,
      flatMap_upperChar_lowerAfter fun c hc hlone => h ⟨c, hc, hlone⟩, upper]

/-- Lower case leaves no text empty but the empty one. -/
theorem lower_ne_empty {s : String} (h : s ≠ "") : lower s ≠ "" := by
  intro hlower
  have hchars : lowerAfter [] s.toList = [] := by
    rw [← String.toList_ofList (l := lowerAfter [] s.toList)]
    exact congrArg String.toList hlower
  cases hs : s.toList with
  | nil => exact h (String.toList_eq_nil_iff.1 hs)
  | cons c rest =>
    obtain ⟨mapped, hcons, hmapped⟩ := lowerAfter_cons [] c rest
    rw [hs, hcons, List.append_eq_nil_iff] at hchars
    rcases hmapped with rfl | ⟨-, rfl⟩
    · exact lowerChar_ne_nil c hchars.1
    · exact List.cons_ne_nil _ _ hchars.1

end Newsroom.Text
