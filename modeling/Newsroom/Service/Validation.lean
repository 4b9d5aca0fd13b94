import Newsroom.Service.Context
import Newsroom.Service.Traced

/-!
# Validation against the store

Checks the items of a candidate against the rules of its schema. Items are visited in order,
fields in the order of declaration, rules with presence first, and the first violation is the
answer. A vocabulary that values are linked to is read from the store when the first value needs
it, and at most once for each check.
-/

namespace Newsroom

/-- The vocabularies that a check has read. -/
structure References where
  /-- The items of the vocabularies that were read; a missing vocabulary has none. -/
  loaded : List (String × List Item)
  /-- The keys that the store was asked for, the latest first. -/
  asked : List String

namespace References

/-- Nothing was read yet. -/
def none : References := ⟨[], []⟩

/-- The items of a vocabulary, read from the store unless they were read before. -/
def resolve (t : TextLayer) (s : Store) (refs : References) (vocabulary : String) :
    Except StoreError (List Item) × References :=
  match Entries.find? vocabulary refs.loaded with
  | some items => (.ok items, refs)
  | .none =>
    let asked := vocabulary :: refs.asked
    match Store.find t s vocabulary with
    | .error e => (.error e, { refs with asked := asked })
    | .ok found =>
      let items := match found with
        | some v => v.items
        | .none => []
      (.ok items, ⟨(vocabulary, items) :: refs.loaded, asked⟩)

end References

/-- A check that may read other vocabularies. -/
abbrev Check := References → Except ServiceError Unit × References

namespace Check

/-- The check that always succeeds. -/
def pass : Check := fun refs => (.ok (), refs)

/-- The check that always fails. -/
def fail (e : ServiceError) : Check := fun refs => (.error e, refs)

/-- One check after another; the first failure is the answer. -/
def andThen (a b : Check) : Check := fun refs =>
  match a refs with
  | (.ok _, refs) => b refs
  | (.error e, refs) => (.error e, refs)

/-- All checks in order. -/
def all : List Check → Check
  | [] => pass
  | c :: cs => andThen c (all cs)

end Check

namespace Engine

variable (e : Engine)

/-- Checks one rule about one field of one item. -/
def checkRule (s : Store) (item : Item) (index : Nat) (field : String) : FieldRule → Check
  | .required | .unique =>
    if item.hasValue field then Check.pass
    else Check.fail (.validation (.missingField field index))
  | .link vocabulary target =>
    match item.filled? field with
    | none => Check.pass
    | some value => fun refs =>
      match References.resolve e.text s refs vocabulary with
      | (.error err, refs) => (.error (.ofStore err), refs)
      | (.ok items, refs) =>
        let found := items.any fun other =>
          match other.field target with
          | some v => v.same value
          | none => false
        if found then (.ok (), refs)
        else (.error (.validation (.unresolvedReference vocabulary field value.text index)), refs)
  | .typed _ => Check.pass

/-- The checks of all rules of a candidate about one of its items. -/
def itemChecks (s : Store) (candidate : Vocabulary) (item : Item) (index : Nat) : List Check :=
  candidate.schema.fields.flatMap fun f =>
    (f.2.rules f.1 candidate.uniqueField).map fun rule => e.checkRule s item index f.1 rule

/-- The checks of all items of a candidate, in order. -/
def candidateChecks (s : Store) (candidate : Vocabulary) : List Check :=
  candidate.items.zipIdx.flatMap fun i => e.itemChecks s candidate i.1 i.2

/-- Runs the checks of all items of a candidate. -/
def runChecks (s : Store) (candidate : Vocabulary) : Except ServiceError Unit × References :=
  Check.all (e.candidateChecks s candidate) References.none

/-- The journal entry for checked items. -/
def checkedEntry (candidate : Vocabulary) (refs : References) : Entry :=
  logged .debug ("event=vocabulary_validate module=validation status=ok vocabulary_id="
    ++ candidate.id ++ " items=" ++ toString candidate.items.length ++ " reference_lookups="
    ++ toString refs.asked.length)

/-- Checks the items of a candidate; without items or declared fields there is nothing to do. -/
def validateItems (s : Store) (candidate : Vocabulary) : Traced Unit :=
  if candidate.schema.fields.isEmpty || candidate.items.isEmpty then Traced.pure ()
  else
    match e.runChecks s candidate with
    | (.ok _, refs) => ⟨.ok (), [checkedEntry candidate refs]⟩
    | (.error err, _) => ⟨.error err, []⟩

/-- Checks the form of a candidate, then its items. -/
def validate (s : Store) (candidate : Vocabulary) : Traced Unit := do
  Traced.lift (fromCheck candidate.validateShape)
  e.validateItems s candidate

/-- A custom vocabulary must not have a reserved key. -/
def checkReserved (candidate : Vocabulary) : Except ServiceError Unit :=
  if candidate.custom && e.reserved.contains candidate.id then .error (.reservedId candidate.id)
  else .ok ()

end Engine

end Newsroom
