import Newsroom.Json.Record
import Newsroom.Vocabulary.Kind

/-!
# Field declarations

A vocabulary's schema declares its fields by data: whether a value is required, which other
vocabulary the value must come from, and which type it is cast to. A declaration is compiled into
rules, with the rules about presence before those that need another vocabulary. Keys that a
declaration does not know are kept with it.
-/

namespace Newsroom

/-- One rule about the values of a field. -/
inductive FieldRule where
  /-- Every item carries a value. -/
  | required
  /-- The field is the vocabulary's unique field, so every item carries a value. -/
  | unique
  /-- A value occurs in `field` of some item of `vocabulary`. -/
  | link (vocabulary field : String)
  /-- Values are cast when they are read. -/
  | typed (cast : Cast)
  deriving DecidableEq

/-- The stored declaration of one field. -/
structure FieldSpec where
  /-- Every item must carry a value. -/
  required : Bool
  /-- The vocabulary that values come from. -/
  linkVocabulary : Option String
  /-- The field of that vocabulary's items that holds them. -/
  linkField : Option String
  /-- The word for the type that values are cast to. -/
  valueType : Option String
  /-- All other keys of the declaration. -/
  extra : TextMap Json
  deriving DecidableEq

namespace FieldSpec

/-- The declaration that says nothing. -/
def blank : FieldSpec := ⟨false, none, none, none, ∅⟩

instance : Inhabited FieldSpec := ⟨blank⟩

/-- The declaration of a required field. -/
def ofRequired : FieldSpec := { blank with required := true }

/-- The declaration of a field whose values come from `field` of `vocabulary`. -/
def ofLink (vocabulary field : String) : FieldSpec :=
  { blank with linkVocabulary := some vocabulary, linkField := some field }

/-- The vocabulary and field that values come from, when both are named. -/
def link? (s : FieldSpec) : Option (String × String) :=
  match s.linkVocabulary, s.linkField with
  | some vocabulary, some field => some (vocabulary, field)
  | _, _ => none

/-- The cast that the declaration asks for. -/
def cast? (s : FieldSpec) : Option Cast := s.valueType.bind Cast.ofWord?

/-- The rules for the field `name` of a vocabulary with the given unique field. -/
def rules (s : FieldSpec) (name : String) (uniqueField : Option String) : List FieldRule :=
  (if s.required then [.required] else [])
    ++ (if uniqueField = some name then [.unique] else [])
    ++ (match s.link? with
      | some (vocabulary, field) => [.link vocabulary field]
      | none => [])
    ++ (match s.cast? with
      | some c => [.typed c]
      | none => [])

/-! ### JSON form -/

/-- The fields that a declaration knows. -/
def knownFields : List String := ["required", "link_vocab", "link_field", "type"]

/-- The stored form: known fields in order of declaration, then the others. -/
def toJson (s : FieldSpec) : Json :=
  .object (Json.flagMember "required" s.required
    ++ Json.optionalMember "link_vocab" .string s.linkVocabulary
    ++ Json.optionalMember "link_field" .string s.linkField
    ++ Json.optionalMember "type" .string s.valueType
    ++ s.extra.entries)

/-- Reads a declaration. Only an object is one. -/
def ofJson? : Json → Option FieldSpec
  | .object members =>
    if Json.Distinct knownFields members then do
      let required ← Json.defaulted? "required" false Json.asBool? members
      let linkVocabulary ← Json.optional? "link_vocab" Json.asString? members
      let linkField ← Json.optional? "link_field" Json.asString? members
      let valueType ← Json.optional? "type" Json.asString? members
      let extra := TextMap.ofList (Json.normalMembers
        (members.filter fun e => !knownFields.contains e.1))
      some ⟨required, linkVocabulary, linkField, valueType, extra⟩
    else none
  | _ => none

end FieldSpec

/-- The declared fields of a vocabulary, in the order of declaration, each once. -/
structure Schema where
  /-- The field names with their declarations. -/
  fields : List (String × FieldSpec)
  /-- No field is declared twice. -/
  distinct : (fields.map Prod.fst).Nodup

namespace Schema

/-- The schema without fields. -/
def empty : Schema := ⟨[], List.nodup_nil⟩

instance : EmptyCollection Schema := ⟨empty⟩
instance : Inhabited Schema := ⟨empty⟩

theorem ext_fields {s t : Schema} (h : s.fields = t.fields) : s = t := by
  cases s; cases t; simp_all

instance : DecidableEq Schema := fun s t =>
  decidable_of_iff (s.fields = t.fields) ⟨ext_fields, fun h => h ▸ rfl⟩

/-- The declaration of a field. -/
def find? (s : Schema) (field : String) : Option FieldSpec := Entries.find? field s.fields

/-- Whether a field is declared. -/
def declares (s : Schema) (field : String) : Bool := s.fields.any fun e => e.1 = field

/-- Replaces the declaration of a field where it stands, or adds it at the end. -/
def putField (field : String) (spec : FieldSpec) : List (String × FieldSpec) →
    List (String × FieldSpec)
  | [] => [(field, spec)]
  | (f, s) :: rest => if f = field then (f, spec) :: rest else (f, s) :: putField field spec rest

theorem mem_map_putField {field : String} {spec : FieldSpec} {fields : List (String × FieldSpec)}
    {f : String} : f ∈ (putField field spec fields).map Prod.fst ↔
      f = field ∨ f ∈ fields.map Prod.fst := by
  induction fields with
  | nil => simp [putField]
  | cons e rest ih =>
    obtain ⟨g, s⟩ := e
    by_cases h : g = field
    · subst h; simp [putField]
    · simp only [putField, h, if_false, List.map_cons, List.mem_cons, ih]
      exact ⟨fun h => by rcases h with h | h | h <;> simp [h],
        fun h => by rcases h with h | h | h <;> simp [h]⟩

theorem nodup_putField {field : String} {spec : FieldSpec} {fields : List (String × FieldSpec)}
    (h : (fields.map Prod.fst).Nodup) : ((putField field spec fields).map Prod.fst).Nodup := by
  induction fields with
  | nil => simp [putField]
  | cons e rest ih =>
    obtain ⟨g, s⟩ := e
    have hc := List.nodup_cons.1 (show (g :: rest.map Prod.fst).Nodup from h)
    by_cases hg : g = field
    · simpa [putField, hg] using h
    · simp only [putField, hg, if_false, List.map_cons]
      refine List.nodup_cons.2 ⟨fun hm => ?_, ih hc.2⟩
      rcases mem_map_putField.1 hm with hm | hm
      · exact hg hm
      · exact hc.1 hm

/-- Declares a field: in its place if it was declared before, else at the end. -/
def declare (s : Schema) (field : String) (spec : FieldSpec) : Schema :=
  ⟨putField field spec s.fields, nodup_putField s.distinct⟩

/-- The schema of a list of declarations; a repeated field keeps its first place and its last
declaration. -/
def ofList (fields : List (String × FieldSpec)) : Schema :=
  fields.foldl (fun s e => s.declare e.1 e.2) empty

theorem putField_of_not_mem {field : String} {spec : FieldSpec}
    {fields : List (String × FieldSpec)} (h : field ∉ fields.map Prod.fst) :
    putField field spec fields = fields ++ [(field, spec)] := by
  induction fields with
  | nil => rfl
  | cons e rest ih =>
    obtain ⟨g, s⟩ := e
    have hc : field ≠ g ∧ field ∉ rest.map Prod.fst := by simpa using h
    simp [putField, Ne.symm hc.1, ih hc.2]

theorem fields_foldl_declare {s : Schema} {fields : List (String × FieldSpec)}
    (h : ((s.fields ++ fields).map Prod.fst).Nodup) :
    (fields.foldl (fun s e => s.declare e.1 e.2) s).fields = s.fields ++ fields := by
  induction fields generalizing s with
  | nil => simp
  | cons e rest ih =>
    have hfresh : e.1 ∉ s.fields.map Prod.fst := fun hm => by
      have := List.nodup_append.1 (by simpa using h)
      exact this.2.2 e.1 (by simpa using hm) e.1 (by simp) rfl
    have hlast : (s.declare e.1 e.2).fields = s.fields ++ [e] := putField_of_not_mem hfresh
    rw [List.foldl_cons, ih (by simpa [hlast] using h), hlast]
    simp

@[simp] theorem ofList_fields (s : Schema) : ofList s.fields = s :=
  ext_fields <| by
    have hdistinct : ((empty.fields ++ s.fields).map Prod.fst).Nodup := s.distinct
    simpa [ofList, empty] using fields_foldl_declare hdistinct

/-- The stored form, in the order of declaration. -/
def toJson (s : Schema) : Json := .object (s.fields.map fun e => (e.1, e.2.toJson))

/-- Reads a schema; only an object is one. -/
def ofJson? : Json → Option Schema
  | .object members =>
    (allSome? (fun e => (FieldSpec.ofJson? e.2).map fun s => (e.1, s)) members).map ofList
  | _ => none

end Schema

end Newsroom
