import Newsroom.Json.Reader
import Newsroom.Proofs.Json.Source

/-!
# What a printed text is read as

A text that was printed is read as the value itself, but for its doubles: these are read as their
numerals say, which may differ from them in the last bit, and the text is refused where it nests too
deep (`Json.read?_print`). A value whose text is read as just that value is *legible*, and whether
it is can be decided by looking at its doubles and its depth (`Json.reread?_eq_self_iff`).
-/

namespace Newsroom

namespace Json

/-! ### Strings -/

theorem charsOfPieces?_unit {n : Nat} (h : n < 0x20) (rest : List Piece) :
    charsOfPieces? (.unit n :: rest) = (charsOfPieces? rest).map (Char.ofNat n :: ·) := by
  have hhigh : (0xD800 ≤ n && n ≤ 0xDBFF) = false := by simp; omega
  have hlow : (0xDC00 ≤ n && n ≤ 0xDFFF) = false := by simp; omega
  have hsurrogate : (0xD800 ≤ n && n ≤ 0xDFFF) = false := by simp; omega
  match rest with
  | [] => simp [charsOfPieces?, hsurrogate]
  | .char _ :: _ => simp [charsOfPieces?, hsurrogate]
  | .unit _ :: _ =>
    rw [charsOfPieces?, hhigh, hlow]
    rfl

theorem charsOfPieces?_map_ofChar (cs : List Char) :
    charsOfPieces? (cs.map Piece.ofChar) = some cs := by
  induction cs with
  | nil => rfl
  | cons c cs ih =>
    rw [List.map_cons, Piece.ofChar]
    split
    case isTrue h => rw [charsOfPieces?_unit h.1, ih, Option.map_some, Char.ofNat_toNat]
    case isFalse => rw [charsOfPieces?, ih, Option.map_some]

/-- The pieces of a string stand for it. -/
theorem textOfPieces?_pieces (s : String) : textOfPieces? (pieces s) = some s := by
  rw [textOfPieces?, pieces, charsOfPieces?_map_ofChar, Option.map_some, String.ofList_toList]

/-! ### Values -/

namespace Number

/-- What a number is read back as from its text. -/
def reread? (n : Number) : Option Number := ofNumeral? n.numeral

/-- The number is read back as it is. -/
def legible : Number → Bool
  | .int _ => true
  | .double x => x.numeral.toDouble? = some x

theorem reread?_int (n : Whole) : (int n).reread? = some (int n) := by
  rw [reread?, ofNumeral?, numeral, Numeral.toWhole?_ofInt]

theorem reread?_double (x : Double) :
    (double x).reread? = x.numeral.toDouble?.map double := by
  rw [reread?, ofNumeral?, numeral, (Double.fractional_numeral x).toWhole?_eq]

theorem reread?_eq_self_iff {n : Number} : n.reread? = some n ↔ n.legible = true := by
  cases n with
  | int n => exact iff_of_true (reread?_int n) rfl
  | double x => simp [reread?_double, legible]

end Number

mutual

/-- What a value is read back as from its text, which may nest `depth` deep. -/
def reread? (depth : Nat) : Json → Option Json
  | .number n => n.reread?.map .number
  | .array values => if depth = 0 then none else (rereadList? (depth - 1) values).map .array
  | .object members => if depth = 0 then none else (rereadMembers? (depth - 1) members).map .object
  | v => some v

/-- What the elements of an array are read back as. -/
def rereadList? (depth : Nat) : List Json → Option (List Json)
  | [] => some []
  | v :: vs =>
    match reread? depth v, rereadList? depth vs with
    | some value, some values => some (value :: values)
    | _, _ => none

/-- What the members of an object are read back as. -/
def rereadMembers? (depth : Nat) : List (String × Json) → Option (List (String × Json))
  | [] => some []
  | (k, v) :: rest =>
    match reread? depth v, rereadMembers? depth rest with
    | some value, some members => some ((k, value) :: members)
    | _, _ => none

end

mutual

/-- The value is read back as it is from a text that may nest `depth` deep. -/
def legible (depth : Nat) : Json → Bool
  | .number n => n.legible
  | .array values => depth ≠ 0 && legibleList (depth - 1) values
  | .object members => depth ≠ 0 && legibleMembers (depth - 1) members
  | _ => true

/-- All values are read back as they are. -/
def legibleList (depth : Nat) : List Json → Bool
  | [] => true
  | v :: vs => legible depth v && legibleList depth vs

/-- The values of all members are read back as they are. -/
def legibleMembers (depth : Nat) : List (String × Json) → Bool
  | [] => true
  | (_, v) :: rest => legible depth v && legibleMembers depth rest

end

mutual

/-- A value that is read back is read back as itself exactly when it is legible. -/
theorem reread?_eq_self_iff : ∀ (v : Json) (depth : Nat),
    v.reread? depth = some v ↔ v.legible depth = true
  | .null, _ | .bool _, _ | .string _, _ => by simp [reread?, legible]
  | .number n, _ => by simp [reread?, legible, ← Number.reread?_eq_self_iff]
  | .array values, depth => by
    have hlist := rereadList?_eq_self_iff values (depth - 1)
    by_cases hdepth : depth = 0
    · simp [reread?, legible, hdepth]
    · simp [reread?, legible, hdepth, hlist]
  | .object members, depth => by
    have hmembers := rereadMembers?_eq_self_iff members (depth - 1)
    by_cases hdepth : depth = 0
    · simp [reread?, legible, hdepth]
    · simp [reread?, legible, hdepth, hmembers]

theorem rereadList?_eq_self_iff : ∀ (values : List Json) (depth : Nat),
    rereadList? depth values = some values ↔ legibleList depth values = true
  | [], _ => by simp [rereadList?, legibleList]
  | v :: vs, depth => by
    have hv := reread?_eq_self_iff v depth
    have hvs := rereadList?_eq_self_iff vs depth
    rw [legibleList, Bool.and_eq_true, ← hv, ← hvs, rereadList?]
    split
    case h_1 value values hvalue hvalues => simp [hvalue, hvalues]
    case h_2 hnone =>
      constructor
      · rintro ⟨⟩
      · rintro ⟨hvalue, hvalues⟩
        exact absurd hvalues (hnone _ _ hvalue)

theorem rereadMembers?_eq_self_iff : ∀ (members : List (String × Json)) (depth : Nat),
    rereadMembers? depth members = some members ↔ legibleMembers depth members = true
  | [], _ => by simp [rereadMembers?, legibleMembers]
  | (k, v) :: rest, depth => by
    have hv := reread?_eq_self_iff v depth
    have hrest := rereadMembers?_eq_self_iff rest depth
    rw [legibleMembers, Bool.and_eq_true, ← hv, ← hrest, rereadMembers?]
    split
    case h_1 value members hvalue hmembers => simp [hvalue, hmembers]
    case h_2 hnone =>
      constructor
      · rintro ⟨⟩
      · rintro ⟨hvalue, hmembers⟩
        exact absurd hmembers (hnone _ _ hvalue)

end

theorem legibleList_iff {values : List Json} {depth : Nat} :
    legibleList depth values = true ↔ ∀ v ∈ values, v.legible depth = true := by
  induction values with
  | nil => simp [legibleList]
  | cons v vs ih => simp [legibleList, ih]

theorem legibleMembers_iff {members : List (String × Json)} {depth : Nat} :
    legibleMembers depth members = true ↔ ∀ e ∈ members, e.2.legible depth = true := by
  induction members with
  | nil => simp [legibleMembers]
  | cons e rest ih =>
    obtain ⟨k, v⟩ := e
    simp [legibleMembers, ih]

theorem legible_array {values : List Json} {depth : Nat} :
    (array values).legible (depth + 1) = true ↔ ∀ v ∈ values, v.legible depth = true := by
  simp [legible, legibleList_iff]

theorem legible_object {members : List (String × Json)} {depth : Nat} :
    (object members).legible (depth + 1) = true ↔ ∀ e ∈ members, e.2.legible depth = true := by
  simp only [legible, legibleMembers_iff, ne_eq, Nat.succ_ne_zero, not_false_eq_true,
    decide_true, Bool.true_and, Nat.add_sub_cancel]

end Json

/-! ### Shapes -/

mutual

/-- Nothing of the value is dropped when its text is read in this shape. -/
def Shape.fits (shape : Shape) : Json → Bool
  | .array values => Shape.fitsList shape values
  | .object members => Shape.fitsMembers shape members
  | _ => true

/-- Nothing of the elements of an array is dropped. -/
def Shape.fitsList (shape : Shape) : List Json → Bool
  | [] => true
  | v :: vs => Shape.fits shape.head v && Shape.fitsList shape.tail vs

/-- Nothing of the members of an object is dropped. -/
def Shape.fitsMembers (shape : Shape) : List (String × Json) → Bool
  | [] => true
  | (k, v) :: rest =>
    (match shape.member? k with
      | none => false
      | some inner => Shape.fits inner v) && Shape.fitsMembers shape rest

end

namespace Shape

mutual

/-- When all of a text is read, nothing is dropped. -/
theorem fits_whole : ∀ (v : Json), fits .whole v = true
  | .null | .bool _ | .number _ | .string _ => rfl
  | .array values => fitsList_whole values
  | .object members => fitsMembers_whole members

theorem fitsList_whole : ∀ (values : List Json), fitsList .whole values = true
  | [] => rfl
  | v :: vs => Bool.and_eq_true_iff.2 ⟨fits_whole v, fitsList_whole vs⟩

theorem fitsMembers_whole : ∀ (members : List (String × Json)), fitsMembers .whole members = true
  | [] => rfl
  | (_, v) :: rest => Bool.and_eq_true_iff.2 ⟨fits_whole v, fitsMembers_whole rest⟩

end

theorem fits_list {element : Shape} {values : List Json} :
    (list element).fits (.array values) = true ↔ ∀ v ∈ values, element.fits v = true := by
  rw [fits]
  induction values with
  | nil => simp [fitsList]
  | cons v vs ih => simp [fitsList, head, tail, ih]

theorem fitsMembers_cons {shape : Shape} {k : String} {v : Json} {rest : List (String × Json)} :
    fitsMembers shape ((k, v) :: rest) = true ↔
      (∃ inner, shape.member? k = some inner ∧ inner.fits v = true) ∧
        fitsMembers shape rest = true := by
  rw [fitsMembers, Bool.and_eq_true]
  cases hmember : shape.member? k <;> simp

theorem fits_object {shape : Shape} {members : List (String × Json)} :
    shape.fits (.object members) = true ↔
      ∀ e ∈ members, ∃ inner, shape.member? e.1 = some inner ∧ inner.fits e.2 = true := by
  rw [fits]
  induction members with
  | nil => simp [fitsMembers]
  | cons e rest ih => rw [fitsMembers_cons, List.forall_mem_cons, ih]

theorem member?_record {keys : List String} {f : String → Shape} {key : String} (h : key ∈ keys) :
    (record (keys.map fun key => (key, f key))).member? key = some (f key) := by
  induction keys with
  | nil => cases h
  | cons k keys ih =>
    rw [member?, List.map_cons, Entries.find?_cons]
    split
    case isTrue heq => rw [heq]
    case isFalse hne => exact ih ((List.mem_cons.1 h).resolve_left fun heq => hne heq.symm)

/-- An object whose keys are known fits a record. -/
theorem fits_record (keys : List String) (f : String → Shape) {members : List (String × Json)}
    (h : ∀ e ∈ members, e.1 ∈ keys ∧ (f e.1).fits e.2 = true) :
    (record (keys.map fun key => (key, f key))).fits (.object members) = true :=
  fits_object.2 fun e he => ⟨f e.1, member?_record (h e he).1, (h e he).2⟩

end Shape

namespace Json

mutual

/-- The form of a value means what the value is read back as, in every shape that it fits. -/
theorem ofSource?_source : ∀ {v : Json} {depth : Nat} {shape : Shape}, shape.fits v = true →
    ofSource? depth shape v.source = v.reread? depth
  | .null, _, _, _ | .bool _, _, _, _ => rfl
  | .number _, _, _, _ => rfl
  | .string s, _, _, _ => by
    rw [source, ofSource?, textOfPieces?_pieces]
    rfl
  | .array values, depth, shape, h => by
    rw [source, ofSource?, reread?, ofSourceList?_sourceList h]
  | .object members, depth, shape, h => by
    rw [source, ofSource?, reread?, ofSourceMembers?_sourceMembers h]

theorem ofSourceList?_sourceList : ∀ {values : List Json} {depth : Nat} {shape : Shape},
    shape.fitsList values = true →
    ofSourceList? depth shape (sourceList values) = rereadList? depth values
  | [], _, _, _ => rfl
  | v :: vs, depth, shape, h => by
    obtain ⟨hv, hvs⟩ := Bool.and_eq_true_iff.1 h
    rw [sourceList, ofSourceList?, ofSource?_source hv, ofSourceList?_sourceList hvs]
    rfl

theorem ofSourceMembers?_sourceMembers :
    ∀ {members : List (String × Json)} {depth : Nat} {shape : Shape},
    shape.fitsMembers members = true →
    ofSourceMembers? depth shape (sourceMembers members) = rereadMembers? depth members
  | [], _, _, _ => rfl
  | (k, v) :: rest, depth, shape, h => by
    obtain ⟨⟨inner, hinner, hv⟩, hrest⟩ := Shape.fitsMembers_cons.1 h
    simp only [sourceMembers, ofSourceMembers?, textOfPieces?_pieces, hinner,
      ofSource?_source hv, ofSourceMembers?_sourceMembers hrest]
    rfl

end

/-- **A printed text** is read as its value, but for doubles that come back changed, and refused
when it nests too deep. -/
theorem read?_print {shape : Shape} {v : Json} (h : shape.fits v = true) :
    read? shape v.print = v.reread? maxDepth := by
  rw [read?, print, String.toList_ofList, Source.ofChars?_chars, Option.bind_some,
    ofSource?_source h]

/-- A printed text is read as its value exactly when the value is legible. -/
theorem read?_print_eq_self_iff {shape : Shape} {v : Json} (h : shape.fits v = true) :
    read? shape v.print = some v ↔ v.legible maxDepth = true := by
  rw [read?_print h, reread?_eq_self_iff]

/-- What an object is read back as. -/
theorem reread?_object {depth : Nat} {members : List (String × Json)} {w : Json} :
    (object members).reread? (depth + 1) = some w ↔
      ∃ others, rereadMembers? depth members = some others ∧ object others = w := by
  rw [reread?, if_neg (Nat.succ_ne_zero depth), Nat.add_sub_cancel, Option.map_eq_some_iff]

theorem rereadMembers?_cons {depth : Nat} {k : String} {v : Json}
    {members others : List (String × Json)} :
    rereadMembers? depth ((k, v) :: members) = some others ↔
      ∃ w rest, reread? depth v = some w ∧ rereadMembers? depth members = some rest ∧
        (k, w) :: rest = others := by
  rw [rereadMembers?]
  split
  case h_1 value rest hvalue hrest => simp [hvalue, hrest]
  case h_2 hnone =>
    constructor
    · rintro ⟨⟩
    · rintro ⟨w, rest, hw, hrest, -⟩
      exact absurd hrest (hnone _ _ hw)

/-- What a member of an object is read back as stands under the same key. -/
theorem find?_rereadMembers? {depth : Nat} {members others : List (String × Json)}
    (h : rereadMembers? depth members = some others) (key : String) :
    Entries.find? key others = (Entries.find? key members).bind (reread? depth) := by
  induction members generalizing others with
  | nil =>
    cases h
    rfl
  | cons e members ih =>
    obtain ⟨k, v⟩ := e
    obtain ⟨w, rest, hw, hrest, rfl⟩ := rereadMembers?_cons.1 h
    rw [Entries.find?_cons, Entries.find?_cons]
    split
    case isTrue => exact hw.symm
    case isFalse => exact ih hrest

/-- An object is read back only if all its members are. -/
theorem exists_reread?_of_find? {depth : Nat} {members others : List (String × Json)}
    (h : rereadMembers? depth members = some others) {key : String} {v : Json}
    (hv : Entries.find? key members = some v) : ∃ w, reread? depth v = some w := by
  induction members generalizing others with
  | nil => cases hv
  | cons e members ih =>
    obtain ⟨k, u⟩ := e
    obtain ⟨w, rest, hw, hrest, rfl⟩ := rereadMembers?_cons.1 h
    rw [Entries.find?_cons] at hv
    split at hv
    case isTrue =>
      cases hv
      exact ⟨w, hw⟩
    case isFalse => exact ih hrest hv

/-- The keys of an object stay. -/
theorem keys_rereadMembers? {depth : Nat} {members others : List (String × Json)}
    (h : rereadMembers? depth members = some others) :
    others.map Prod.fst = members.map Prod.fst := by
  induction members generalizing others with
  | nil =>
    cases h
    rfl
  | cons e members ih =>
    obtain ⟨k, v⟩ := e
    obtain ⟨w, rest, -, hrest, rfl⟩ := rereadMembers?_cons.1 h
    rw [List.map_cons, List.map_cons, ih hrest]

end Json

end Newsroom
