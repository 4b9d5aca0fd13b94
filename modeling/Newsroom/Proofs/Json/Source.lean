import Newsroom.Json.Printer
import Newsroom.Json.Source
import Newsroom.Proofs.Number.Shortest

/-!
# The form of a printed text

Every value has the form (`Json.source`) that is recognised in its text, whatever follows the text,
as long as that cannot go on with a number (`Source.value?_chars`). So a printed text has the form
of its value (`Source.ofChars?_chars`).
-/

namespace Newsroom

/-- The piece that a character inside a string is written as. Control characters without a short
escape are unicode escapes. -/
def Piece.ofChar (c : Char) : Piece :=
  if c.toNat < 0x20 ∧ c ∉ ['\x08', '\x0c', '\n', '\r', '\t'] then .unit c.toNat else .char c

namespace Json

/-- The pieces of a string. -/
def pieces (s : String) : List Piece := s.toList.map Piece.ofChar

mutual

/-- The form of the text of a value. -/
def source : Json → Source
  | .null => .null
  | .bool b => .bool b
  | .number n => .numeral n.numeral
  | .string s => .string (pieces s)
  | .array values => .array (sourceList values)
  | .object members => .object (sourceMembers members)

/-- The forms of the elements of an array. -/
def sourceList : List Json → List Source
  | [] => []
  | v :: vs => source v :: sourceList vs

/-- The forms of the members of an object. -/
def sourceMembers : List (String × Json) → List (List Piece × Source)
  | [] => []
  | (k, v) :: rest => (pieces k, source v) :: sourceMembers rest

end

end Json

namespace Source

variable {rest : List Char}

/-! ### Strings -/

theorem hexValue?_hexDigit {n : Nat} (h : n < 16) : hexValue? (Json.hexDigit n) = some n := by
  revert h
  revert n
  decide

theorem string?_short {e c : Char} (he : e ≠ 'u') (h : shortEscape? e = some c) :
    string? ('\\' :: e :: rest) =
      (string? rest).map fun (ps, rest) => (.char c :: ps, rest) := by
  rw [string?]
  · rw [h]
    cases string? rest <;> rfl
  · intro _ _ _ _ _ hu
    exact absurd hu he

theorem string?_control {n : Nat} (h : n < 0x20) :
    string? ('\\' :: 'u' :: '0' :: '0' :: Json.hexDigit (n / 16) :: Json.hexDigit (n % 16) ::
      rest) = (string? rest).map fun (ps, rest) => (.unit n :: ps, rest) := by
  have hhigh : hexValue? (Json.hexDigit (n / 16)) = some (n / 16) := hexValue?_hexDigit (by omega)
  have hlow : hexValue? (Json.hexDigit (n % 16)) = some (n % 16) := hexValue?_hexDigit (by omega)
  have hzero : hexValue? '0' = some 0 := rfl
  have hvalue : 0 * 4096 + 0 * 256 + n / 16 * 16 + n % 16 = n := by omega
  rw [string?]
  simp only [hhigh, hlow, hzero, Option.bind_eq_bind, Option.bind_some, hvalue]
  cases string? rest <;> rfl

theorem string?_plain {c : Char} (hquote : c ≠ '"') (hslash : c ≠ '\\') (h : ¬ c.toNat < 0x20) :
    string? (c :: rest) = (string? rest).map fun (ps, rest) => (.char c :: ps, rest) := by
  rw [string?]
  · simp only [h, hslash, decide_false, Bool.or_self, Bool.false_eq_true, if_false]
    cases string? rest <;> rfl
  · exact hquote
  · rintro _ _ _ _ _ rfl
    exact absurd rfl hslash
  · rintro _ _ rfl
    exact absurd rfl hslash

/-- A character is recognised in what it is written as. -/
theorem string?_escape (c : Char) : string? (Json.escape c ++ rest) =
    (string? rest).map fun (ps, rest) => (Piece.ofChar c :: ps, rest) := by
  by_cases hquote : c = '"'
  · subst hquote
    exact string?_short (by decide) rfl
  by_cases hslash : c = '\\'
  · subst hslash
    exact string?_short (by decide) rfl
  by_cases hb : c = '\x08'
  · subst hb
    exact string?_short (by decide) rfl
  by_cases hf : c = '\x0c'
  · subst hf
    exact string?_short (by decide) rfl
  by_cases hn : c = '\n'
  · subst hn
    exact string?_short (by decide) rfl
  by_cases hr : c = '\r'
  · subst hr
    exact string?_short (by decide) rfl
  by_cases ht : c = '\t'
  · subst ht
    exact string?_short (by decide) rfl
  rw [Json.escape, if_neg hquote, if_neg hslash, if_neg hb, if_neg hf, if_neg hn, if_neg hr,
    if_neg ht, Piece.ofChar]
  by_cases hcontrol : c.toNat < 0x20
  · rw [if_pos hcontrol, if_pos ⟨hcontrol, by simp [hb, hf, hn, hr, ht]⟩]
    exact string?_control hcontrol
  · rw [if_neg hcontrol, if_neg fun h => hcontrol h.1]
    exact string?_plain hquote hslash hcontrol

theorem string?_flatMap_escape (cs : List Char) :
    string? (cs.flatMap Json.escape ++ '"' :: rest) = some (cs.map Piece.ofChar, rest) := by
  induction cs with
  | nil => rw [List.flatMap_nil, List.nil_append, string?, List.map_nil]
  | cons c cs ih =>
    rw [List.flatMap_cons, List.append_assoc, string?_escape, ih, Option.map_some, List.map_cons]

/-! ### Values -/

/-- What may follow a value: nothing, or the rest of what it stands in. -/
inductive Closes : List Char → Prop where
  /-- The end of the text. -/
  | done : Closes []
  /-- Another element or member. -/
  | comma (cs : List Char) : Closes (',' :: cs)
  /-- The end of an array. -/
  | bracket (cs : List Char) : Closes (']' :: cs)
  /-- The end of an object. -/
  | brace (cs : List Char) : Closes ('\x7d' :: cs)

theorem Closes.ends (h : Closes rest) : Numeral.Ends rest := by
  cases h with
  | done => exact ⟨by simp [Digits.Stops], by simp, by simp, by simp⟩
  | comma cs | bracket cs | brace cs =>
    refine ⟨?_, by simp, by simp, by simp⟩
    rintro _ ⟨⟩
    rfl

theorem closes_charsAfter (vs : List Json) (rest : List Char) :
    Closes (Json.charsAfter vs ++ rest) := by
  cases vs with
  | nil => exact .bracket _
  | cons v vs => exact .comma _

theorem closes_membersAfter (ms : List (String × Json)) (rest : List Char) :
    Closes (Json.membersAfter ms ++ rest) := by
  cases ms with
  | nil => exact .brace _
  | cons m ms => exact .comma _

/-- A character that a value may begin with. -/
def Opens (c : Char) : Prop :=
  c = 'n' ∨ c = 't' ∨ c = 'f' ∨ c = '"' ∨ c = '[' ∨ c = '\x7b' ∨ c = '-' ∨ c.isDigit = true

theorem Numeral.exists_chars {n : Numeral} (h : n.WellFormed) :
    ∃ c cs, n.chars = c :: cs ∧ (c = '-' ∨ c.isDigit = true) := by
  rw [Numeral.chars]
  cases n.negative with
  | true => exact ⟨'-', _, rfl, .inl rfl⟩
  | false =>
    obtain ⟨c, cs, hbefore⟩ := List.exists_cons_of_ne_nil h.before_ne
    rw [hbefore]
    exact ⟨c, _, rfl, .inr (h.before c (hbefore ▸ List.mem_cons_self))⟩

theorem wellFormed_numeral (n : Json.Number) : n.numeral.WellFormed := by
  cases n with
  | int n => exact Numeral.wellFormed_ofInt n.value
  | double x => exact (Double.fractional_numeral x).wellFormed

theorem exists_opens (v : Json) : ∃ c cs, v.chars = c :: cs ∧ Opens c := by
  match v with
  | .null => exact ⟨_, _, rfl, by simp [Opens]⟩
  | .bool true => exact ⟨_, _, rfl, by simp [Opens]⟩
  | .bool false => exact ⟨_, _, rfl, by simp [Opens]⟩
  | .number n =>
    obtain ⟨c, cs, hchars, hc⟩ := Numeral.exists_chars (wellFormed_numeral n)
    exact ⟨c, cs, hchars, by rcases hc with rfl | hc <;> simp [Opens, *]⟩
  | .string s => exact ⟨_, _, rfl, by simp [Opens]⟩
  | .array [] => exact ⟨_, _, rfl, by simp [Opens]⟩
  | .array (_ :: _) => exact ⟨_, _, rfl, by simp [Opens]⟩
  | .object [] => exact ⟨_, _, rfl, by simp [Opens]⟩
  | .object ((_, _) :: _) => exact ⟨_, _, rfl, by simp [Opens]⟩

theorem skipBlanks_cons {c : Char} {cs : List Char} (h : c ≠ ' ') (ht : c ≠ '\t') (hn : c ≠ '\n')
    (hr : c ≠ '\r') : skipBlanks (c :: cs) = c :: cs := by
  simp [skipBlanks, h, ht, hn, hr]

theorem Opens.skipBlanks {c : Char} {cs : List Char} (h : Opens c) :
    skipBlanks (c :: cs) = c :: cs := by
  refine skipBlanks_cons ?_ ?_ ?_ ?_ <;>
  · rintro rfl
    revert h
    unfold Opens
    decide

theorem value?_numeral {n : Numeral} (h : n.WellFormed) (hrest : Closes rest) (fuel : Nat) :
    value? (fuel + 1) (n.chars ++ rest) = some (.numeral n, rest) := by
  have hscan := Numeral.scan_chars h hrest.ends
  obtain ⟨c, cs, hchars, hc⟩ := Numeral.exists_chars h
  have hopens : Opens c := by rcases hc with rfl | hc <;> simp [Opens, *]
  rw [hchars, List.cons_append] at hscan ⊢
  rw [value?, hopens.skipBlanks]
  split
  case h_7 =>
    rw [hscan]
    rfl
  -- no other value begins like a numeral
  all_goals
    rename_i heq
    obtain ⟨rfl, -⟩ := List.cons.inj heq
    exact absurd hc (by decide)

theorem length_chars_pos (v : Json) : 0 < v.chars.length := by
  obtain ⟨c, cs, hchars, -⟩ := exists_opens v
  rw [hchars]
  exact Nat.succ_pos _

theorem string?_quoted (s : String) :
    string? (s.toList.flatMap Json.escape ++ '"' :: rest) = some (Json.pieces s, rest) :=
  string?_flatMap_escape s.toList

/-- An array with elements. -/
theorem value?_array {fuel : Nat} {c : Char} {cs : List Char} (hc : Opens c) :
    value? (fuel + 1) ('[' :: c :: cs) =
      (elements? fuel (c :: cs)).map fun (values, rest) => (array values, rest) := by
  have hbracket : c ≠ ']' := by
    rintro rfl
    exact absurd hc (by unfold Opens; decide)
  have hopen : skipBlanks ('[' :: c :: cs) = '[' :: c :: cs := rfl
  rw [value?, hopen]
  simp only [hc.skipBlanks]
  split
  case h_1 heq => exact absurd (List.cons.inj heq).1 hbracket
  case h_2 => rfl

section Steps

variable {fuel : Nat} {cs : List Char} {src : Source}

/-- The last element of an array. -/
theorem elements?_last (h : value? fuel cs = some (src, ']' :: rest)) :
    elements? (fuel + 1) cs = some ([src], rest) := by
  rw [elements?, h]
  rfl

/-- An element with others behind it. -/
theorem elements?_comma (h : value? fuel cs = some (src, ',' :: rest)) :
    elements? (fuel + 1) cs =
      (elements? fuel rest).map fun (values, rest) => (src :: values, rest) := by
  rw [elements?, h]
  show (elements? fuel rest).bind _ = _
  cases elements? fuel rest <;> rfl

variable {k : String}

theorem members?_quoted : members? (fuel + 1) (Json.quoted k ++ ':' :: cs) =
    (value? fuel cs).bind fun (v, rest) =>
      match skipBlanks rest with
      | '\x7d' :: rest => some ([(Json.pieces k, v)], rest)
      | ',' :: rest =>
        (members? fuel rest).bind fun (members, rest) => some ((Json.pieces k, v) :: members, rest)
      | _ => none := by
  have hkey : Json.quoted k ++ ':' :: cs =
      '"' :: (k.toList.flatMap Json.escape ++ '"' :: ':' :: cs) := by
    rw [Json.quoted, List.cons_append, List.append_assoc]
    rfl
  rw [hkey, members?]
  show (string? (k.toList.flatMap Json.escape ++ '"' :: ':' :: cs)).bind _ = _
  rw [string?_quoted]
  rfl

/-- The last member of an object. -/
theorem members?_last (h : value? fuel cs = some (src, '\x7d' :: rest)) :
    members? (fuel + 1) (Json.quoted k ++ ':' :: cs) = some ([(Json.pieces k, src)], rest) := by
  rw [members?_quoted, h]
  rfl

/-- A member with others behind it. -/
theorem members?_comma (h : value? fuel cs = some (src, ',' :: rest)) :
    members? (fuel + 1) (Json.quoted k ++ ':' :: cs) =
      (members? fuel rest).map fun (members, rest) => ((Json.pieces k, src) :: members, rest) := by
  rw [members?_quoted, h]
  show (members? fuel rest).bind _ = _
  cases members? fuel rest <;> rfl

end Steps

mutual

/-- The text of a value has the form of the value, whatever closes after it. Each character of the
text takes two steps at most. -/
theorem value?_chars : ∀ (v : Json) (fuel : Nat) (rest : List Char),
    2 * v.chars.length ≤ fuel → Closes rest →
    value? fuel (v.chars ++ rest) = some (v.source, rest)
  | v, 0, _, hfuel, _ => absurd (length_chars_pos v) (by omega)
  | .null, _ + 1, _, _, _ => rfl
  | .bool true, _ + 1, _, _, _ => rfl
  | .bool false, _ + 1, _, _, _ => rfl
  | .number n, fuel + 1, _, _, hrest => value?_numeral (wellFormed_numeral n) hrest fuel
  | .string s, fuel + 1, rest, _, _ => by
    show value? (fuel + 1) ('"' :: ((s.toList.flatMap Json.escape ++ ['"']) ++ rest)) = _
    rw [List.append_assoc, value?]
    show (string? (s.toList.flatMap Json.escape ++ '"' :: rest)).map _ = _
    rw [string?_quoted]
    rfl
  | .array [], _ + 1, _, _, _ => rfl
  | .array (v :: vs), fuel + 1, rest, hfuel, _ => by
    have helements := elements?_charsAfter (v :: vs) (by simp) fuel rest (by
      simp only [Json.chars, Json.charsAfter, List.length_cons] at hfuel ⊢
      omega)
    obtain ⟨c, cs, hchars, hc⟩ := exists_opens v
    rw [Json.charsAfter, List.tail_cons, hchars] at helements
    rw [Json.chars, hchars]
    exact (value?_array hc).trans (congrArg (Option.map _) helements)
  | .object [], _ + 1, _, _, _ => rfl
  | .object ((k, v) :: ms), fuel + 1, rest, hfuel, _ => by
    have hmembers := members?_membersAfter ((k, v) :: ms) (by simp) fuel rest (by
      simp only [Json.chars, Json.membersAfter, List.length_cons] at hfuel ⊢
      omega)
    exact congrArg (Option.map fun (members, rest) => (Source.object members, rest)) hmembers

/-- The elements of an array up to its end. -/
theorem elements?_charsAfter : ∀ (vs : List Json) (_ : vs ≠ []) (fuel : Nat) (rest : List Char),
    2 * (Json.charsAfter vs).length ≤ fuel + 2 →
    elements? fuel ((Json.charsAfter vs).tail ++ rest) = some (Json.sourceList vs, rest)
  | [v], _, fuel + 1, rest, hfuel => by
    have hv := value?_chars v fuel _ (by
      simp only [Json.charsAfter, List.length_cons, List.length_append] at hfuel
      omega) (.bracket rest)
    show elements? (fuel + 1) (v.chars ++ [']'] ++ rest) = _
    rw [List.append_assoc]
    exact elements?_last hv
  | v :: w :: vs, _, fuel + 1, rest, hfuel => by
    have hv := value?_chars v fuel _ (by
      simp only [Json.charsAfter, List.length_cons, List.length_append] at hfuel
      omega) (closes_charsAfter (w :: vs) rest)
    have hrest := elements?_charsAfter (w :: vs) (by simp) fuel rest (by
      simp only [Json.charsAfter, List.length_cons, List.length_append] at hfuel ⊢
      omega)
    show elements? (fuel + 1) (v.chars ++ Json.charsAfter (w :: vs) ++ rest) = _
    rw [List.append_assoc]
    exact (elements?_comma hv).trans
      (congrArg (Option.map fun (values, rest) => (v.source :: values, rest)) hrest)
  | v :: vs, _, 0, _, hfuel => by
    have hpos := length_chars_pos v
    simp only [Json.charsAfter, List.length_cons, List.length_append] at hfuel
    omega

/-- The members of an object up to its end. -/
theorem members?_membersAfter : ∀ (ms : List (String × Json)) (_ : ms ≠ []) (fuel : Nat)
    (rest : List Char), 2 * (Json.membersAfter ms).length ≤ fuel + 2 →
    members? fuel ((Json.membersAfter ms).tail ++ rest) = some (Json.sourceMembers ms, rest)
  | [(k, v)], _, fuel + 1, rest, hfuel => by
    have hv := value?_chars v fuel _ (by
      simp only [Json.membersAfter, List.length_cons, List.length_append] at hfuel
      omega) (.brace rest)
    show members? (fuel + 1) (Json.quoted k ++ ':' :: (v.chars ++ ['\x7d']) ++ rest) = _
    rw [List.append_assoc, List.cons_append, List.append_assoc]
    exact members?_last hv
  | (k, v) :: m :: ms, _, fuel + 1, rest, hfuel => by
    have hv := value?_chars v fuel _ (by
      simp only [Json.membersAfter, List.length_cons, List.length_append] at hfuel
      omega) (closes_membersAfter (m :: ms) rest)
    have hrest := members?_membersAfter (m :: ms) (by simp) fuel rest (by
      obtain ⟨l, w⟩ := m
      simp only [Json.membersAfter, List.length_cons, List.length_append] at hfuel ⊢
      omega)
    show members? (fuel + 1)
      (Json.quoted k ++ ':' :: (v.chars ++ Json.membersAfter (m :: ms)) ++ rest) = _
    rw [List.append_assoc, List.cons_append, List.append_assoc]
    exact (members?_comma hv).trans (congrArg
      (Option.map fun (members, rest) => ((Json.pieces k, v.source) :: members, rest)) hrest)
  | (k, v) :: _, _, 0, _, hfuel => by
    simp only [Json.membersAfter, Json.quoted, List.length_cons, List.length_append] at hfuel
    omega

end

/-- A printed text has the form of its value. -/
theorem ofChars?_chars (v : Json) : ofChars? v.chars = some v.source := by
  have hvalue := value?_chars v (2 * v.chars.length + 2) [] (by omega) .done
  rw [List.append_nil] at hvalue
  rw [ofChars?, hvalue]
  rfl

end Source

end Newsroom
