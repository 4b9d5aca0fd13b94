import Newsroom.Json.Basic

/-!
# The normal form of JSON values

A value is in normal form when the members of every object in it stand in ascending order of
their keys, no key twice. The values that items carry are in normal form, so equality of values
does not hang on the order of a text. Main statements: `normal` gives a value in normal form
(`normal_normal`) and leaves a value in normal form alone (`Normal.normal_eq`).
-/

namespace Newsroom

namespace Json

mutual

/-- The members of every object, at any depth, stand in ascending order of their keys. -/
def Normal : Json → Prop
  | .array values => NormalList values
  | .object members => Ascending members ∧ NormalMembers members
  | _ => True

/-- All values are in normal form. -/
def NormalList : List Json → Prop
  | [] => True
  | v :: vs => Normal v ∧ NormalList vs

/-- The values of all members are in normal form. -/
def NormalMembers : List (String × Json) → Prop
  | [] => True
  | (_, v) :: rest => Normal v ∧ NormalMembers rest

end

mutual

/-- The value with the members of every object in ascending order of their keys; of two members
with one key the later one counts. -/
def normal : Json → Json
  | .array values => .array (normalList values)
  | .object members => .object (TextMap.ofList (normalMembers members)).entries
  | v => v

/-- All values in normal form. -/
def normalList : List Json → List Json
  | [] => []
  | v :: vs => normal v :: normalList vs

/-- The values of all members in normal form. -/
def normalMembers : List (String × Json) → List (String × Json)
  | [] => []
  | (k, v) :: rest => (k, normal v) :: normalMembers rest

end

theorem normalMembers_eq_map (members : List (String × Json)) :
    normalMembers members = members.map fun e => (e.1, e.2.normal) := by
  induction members with
  | nil => rfl
  | cons e rest ih => obtain ⟨k, v⟩ := e; simp [normalMembers, ih]

theorem normalMembers_iff {members : List (String × Json)} :
    NormalMembers members ↔ ∀ e ∈ members, e.2.Normal := by
  induction members with
  | nil => simp [NormalMembers]
  | cons e rest ih => obtain ⟨k, v⟩ := e; simp [NormalMembers, ih]

mutual

/-- `normal` gives a value in normal form. -/
theorem normal_normal : (v : Json) → v.normal.Normal
  | .null | .bool _ | .number _ | .string _ => trivial
  | .array values => normalList_normalList values
  | .object members =>
    ⟨TextMap.ascending _, normalMembers_iff.2 fun e he =>
      normalMembers_iff.1 (normalMembers_normalMembers members) e (TextMap.mem_of_mem_ofList he)⟩

theorem normalList_normalList : (values : List Json) → NormalList (normalList values)
  | [] => trivial
  | v :: vs => ⟨normal_normal v, normalList_normalList vs⟩

theorem normalMembers_normalMembers :
    (members : List (String × Json)) → NormalMembers (normalMembers members)
  | [] => trivial
  | (_, v) :: rest => ⟨normal_normal v, normalMembers_normalMembers rest⟩

end

mutual

/-- A value in normal form is its own normal form. -/
theorem Normal.normal_eq : {v : Json} → v.Normal → v.normal = v
  | .null, _ | .bool _, _ | .number _, _ | .string _, _ => rfl
  | .array _, h => congrArg Json.array (NormalList.normalList_eq h)
  | .object members, h => by
    have hm : normalMembers members = members := NormalMembers.normalMembers_eq h.2
    simp only [normal, hm, TextMap.entries_ofList h.1]

theorem NormalList.normalList_eq : {values : List Json} → NormalList values →
    normalList values = values
  | [], _ => rfl
  | _ :: _, h => by rw [normalList, Normal.normal_eq h.1, NormalList.normalList_eq h.2]

theorem NormalMembers.normalMembers_eq : {members : List (String × Json)} →
    NormalMembers members → normalMembers members = members
  | [], _ => rfl
  | (_, _) :: _, h => by
    rw [normalMembers, Normal.normal_eq h.1, NormalMembers.normalMembers_eq h.2]

end

end Json

end Newsroom
