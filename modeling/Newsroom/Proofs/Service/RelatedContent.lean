import Newsroom.Proofs.Service.Links
import Newsroom.Proofs.Store.Listing
import Newsroom.Service.Reading

/-!
# Names of related content

An article names a field of related content by the key of its vocabulary, to which two dashes and
a suffix may be added. The key is read off the name as its stem, the part before the first double
dash (`Stem`), and the name is one of related content exactly when an active vocabulary under the
stem has the configured field type (`Engine.run_relatedContent`). Keys may have dashes as well.
One without a double dash is its own stem, and the stem of all names made from it unless it ends in
a dash, which then belongs to the first double dash. A key with a double dash is the stem of no
name, so its vocabulary is never found. `Engine.pressPhotos_not_found` has one of each.
-/

namespace Newsroom

/-! ### Stems -/

/-- Nowhere do two dashes stand together. -/
def Undivided (cs : List Char) : Prop := ¬ ['-', '-'] <:+: cs

/-- The stem of a name. -/
inductive Stem : List Char → List Char → Prop where
  /-- A name without a double dash is its own stem. -/
  | whole {cs : List Char} (h : Undivided cs) : Stem cs cs
  /-- The stem ends where two dashes stand together for the first time. -/
  | cut (stem rest : List Char) (h : Undivided (stem ++ ['-'])) :
    Stem (stem ++ '-' :: '-' :: rest) stem

variable {c : Char} {cs stem : List Char}

theorem undivided_nil : Undivided [] := fun h => absurd h.length_le (by decide)

theorem undivided_singleton : Undivided [c] := fun h => absurd h.length_le (by simp)

theorem undivided_cons :
    Undivided (c :: cs) ↔ ¬ (c = '-' ∧ cs.head? = some '-') ∧ Undivided cs := by
  rw [Undivided, List.infix_cons_iff, List.cons_prefix_cons, not_or]
  refine and_congr (not_congr (and_congr eq_comm ?_)) Iff.rfl
  cases cs with
  | nil => simp
  | cons d cs => simp [eq_comm]

theorem Undivided.of_append {ds : List Char} (h : Undivided (cs ++ ds)) : Undivided cs :=
  fun hdashes => h (hdashes.trans (List.prefix_append cs ds).isInfix)

/-- What follows the first dash after a text does not matter to how the text begins. -/
theorem head?_append_dash (cs rest : List Char) :
    (cs ++ '-' :: rest).head? = (cs ++ ['-']).head? := by
  cases cs <;> rfl

theorem beforeDoubleDash_cons : beforeDoubleDash (c :: cs) =
    if c = '-' ∧ cs.head? = some '-' then [] else c :: beforeDoubleDash cs := by
  rw [beforeDoubleDash.eq_def]
  split
  case h_1 heq => cases heq
  case h_2 heq =>
    cases heq
    rfl
  case h_3 d rest hne heq =>
    cases heq
    refine (if_neg ?_).symm
    rintro ⟨rfl, hhead⟩
    obtain ⟨rest, rfl⟩ := List.head?_eq_some_iff.1 hhead
    exact hne rest rfl rfl

/-- What stands before the first double dash is a stem. -/
theorem stem_beforeDoubleDash (cs : List Char) : Stem cs (beforeDoubleDash cs) := by
  induction cs with
  | nil => exact .whole undivided_nil
  | cons c cs ih =>
    rw [beforeDoubleDash_cons]
    split
    case isTrue hdashes =>
      obtain ⟨rfl, hhead⟩ := hdashes
      obtain ⟨rest, rfl⟩ := List.head?_eq_some_iff.1 hhead
      exact .cut [] rest undivided_singleton
    case isFalse hdashes =>
      generalize beforeDoubleDash cs = stem at ih
      cases ih with
      | whole h => exact .whole (undivided_cons.2 ⟨hdashes, h⟩)
      | cut stem rest h =>
        rw [head?_append_dash] at hdashes
        exact .cut (c :: stem) rest (undivided_cons.2 ⟨hdashes, h⟩)

/-- A name has one stem only. -/
theorem Stem.eq_beforeDoubleDash (h : Stem cs stem) : stem = beforeDoubleDash cs := by
  cases h with
  | whole h =>
    induction cs with
    | nil => rfl
    | cons c cs ih =>
      rw [undivided_cons] at h
      rw [beforeDoubleDash_cons, if_neg h.1, ← ih h.2]
  | cut stem rest h =>
    induction stem with
    | nil => rfl
    | cons c stem ih =>
      rw [List.cons_append, undivided_cons] at h
      rw [List.cons_append, beforeDoubleDash_cons, head?_append_dash, if_neg h.1, ← ih h.2]

/-- No stem has a double dash. -/
theorem Stem.undivided (h : Stem cs stem) : Undivided stem := by
  cases h with
  | whole h => exact h
  | cut stem rest h => exact h.of_append

namespace Engine

variable {e : Engine} {s : Store} {id : String}

/-! ### Names -/

/-- Over rows that mirror documents a name is one of related content exactly when an active
vocabulary under its stem has the field type. -/
theorem exists_isRelatedContent (hs : s.Holds e.text fun _ => True) {name stem : String}
    (hstem : Stem name.toList stem.toList) :
    ∃ b, e.isRelatedContent name s = .ok b ∧ (b = true ↔
      ∃ v, Store.find e.text s stem = .ok (some v) ∧
        v.fieldType = some e.config.relatedContentFieldType) := by
  obtain ⟨vs, hvs, -, hmem⟩ := hs.list
    { ListQuery.all with fieldType := .equals e.config.relatedContentFieldType }
  have hkey : String.ofList (beforeDoubleDash name.toList) = stem := by
    rw [← hstem.eq_beforeDoubleDash, String.ofList_toList]
  refine ⟨vs.any fun v => v.id = stem, ?_, ?_⟩
  · rw [isRelatedContent, hvs, hkey]
    rfl
  · rw [List.any_eq_true]
    constructor
    · rintro ⟨v, hv, hid⟩
      obtain rfl := of_decide_eq_true hid
      obtain ⟨⟨r, hrow, hread⟩, hmatched⟩ := (hmem v).1 hv
      obtain ⟨w, hmirrors, -⟩ := hs v.id r hrow
      obtain rfl := hmirrors.unique hread
      have hactive : r.deleted = 0 := by
        rw [hmirrors.deleted, hmatched.active.resolve_left nofun]
        rfl
      exact ⟨_, Store.find_eq_some_iff.2 ⟨r, hrow, hactive, hread⟩, hmatched.fieldType⟩
    · rintro ⟨v, hfind, htype⟩
      obtain ⟨r, hactive⟩ := Store.find_eq_some_iff.1 hfind
      obtain rfl := hactive.id_eq
      refine ⟨v, (hmem v).2 ⟨⟨r, hactive.row, hactive.read⟩, ?_⟩, decide_eq_true rfl⟩
      exact {
        active := .inr (by rw [hactive.eq_marked]; rfl)
        kind := nofun
        fieldType := htype
        hasService := nofun
        selection := nofun }

/-- The question about a name with the key of an active vocabulary for its stem is one about the
field type of that vocabulary. -/
theorem isRelatedContent_of_find (hs : s.Holds e.text fun _ => True) {name : String}
    {v : Vocabulary} (hfind : Store.find e.text s id = .ok (some v))
    (hstem : Stem name.toList id.toList) :
    e.isRelatedContent name s =
      .ok (decide (v.fieldType = some e.config.relatedContentFieldType)) := by
  obtain ⟨b, hb, hiff⟩ := exists_isRelatedContent hs hstem
  have htype : (∃ w, Store.find e.text s id = .ok (some w) ∧
      w.fieldType = some e.config.relatedContentFieldType) ↔
        v.fieldType = some e.config.relatedContentFieldType := by
    simp [hfind]
  rw [hb]
  exact congrArg Except.ok (Bool.eq_iff_iff.2 ((hiff.trans htype).trans decide_eq_true_iff.symm))

/-- Without a vocabulary under the stem the answer is no. -/
theorem isRelatedContent_of_find_none (hs : s.Holds e.text fun _ => True) {name : String}
    (hfind : Store.find e.text s id = .ok none) (hstem : Stem name.toList id.toList) :
    e.isRelatedContent name s = .ok false := by
  obtain ⟨b, hb, hiff⟩ := exists_isRelatedContent hs hstem
  cases b with
  | false => exact hb
  | true =>
    obtain ⟨v, hv, -⟩ := hiff.1 rfl
    rw [hfind] at hv
    cases hv

/-- **Names of related content**: after every received run whose documents the text layer reads
back, the question about a name is answered, and with yes exactly when an active vocabulary under
the stem of the name has the configured field type. So the question about the key of an active
vocabulary is one about its own field type if the key has no double dash, and the question about the
key with two dashes and any suffix is if the key does not end in a dash either. -/
theorem run_relatedContent (e : Engine) (ops : List (Int64 × Operation)) (hops : Received ops)
    (hkeeps : e.KeepsRun ops ∅) :
    (∀ name stem : String, Stem name.toList stem.toList →
      ∃ b, e.isRelatedContent name (e.run ops ∅) = .ok b ∧ (b = true ↔
        ∃ v, Store.find e.text (e.run ops ∅) stem = .ok (some v) ∧
          v.fieldType = some e.config.relatedContentFieldType)) ∧
    (∀ name : String, ∃ stem : String, Stem name.toList stem.toList ∧
      Undivided stem.toList) ∧
    ∀ id v, Store.find e.text (e.run ops ∅) id = .ok (some v) →
      (Undivided id.toList → e.isRelatedContent id (e.run ops ∅) =
        .ok (decide (v.fieldType = some e.config.relatedContentFieldType))) ∧
      (Undivided (id.toList ++ ['-']) → ∀ suffix,
        e.isRelatedContent (id ++ "--" ++ suffix) (e.run ops ∅) =
          .ok (decide (v.fieldType = some e.config.relatedContentFieldType))) := by
  have hs := run_mirrored hops hkeeps
  refine ⟨fun name stem => exists_isRelatedContent hs, fun name => ?_, fun id v hfind => ⟨?_, ?_⟩⟩
  · have hstem := stem_beforeDoubleDash name.toList
    refine ⟨String.ofList (beforeDoubleDash name.toList), ?_⟩
    rw [String.toList_ofList]
    exact ⟨hstem, hstem.undivided⟩
  · exact fun hdashes => isRelatedContent_of_find hs hfind (.whole hdashes)
  · intro hdashes suffix
    refine isRelatedContent_of_find hs hfind ?_
    rw [String.toList_append, String.toList_append, List.append_assoc]
    exact .cut id.toList suffix.toList hdashes

/-! ### Keys with dashes -/

/-- After a creation nothing else is found. -/
theorem find_creationOf_of_ne {c : Config} {v : Vocabulary} (id : String) (hne : v.id ≠ id)
    (h : (ofConfig c).Admits ∅ v.withUniqueDefault) :
    Store.find .json ((ofConfig c).run (creationOf v) ∅) id = .ok none := by
  have hrow : ((ofConfig c).run (creationOf v) ∅).get? id = none := by
    rw [run_creationOf h]
    exact (admitsBatch_singleton h).get?_other (List.forall_mem_singleton.2 hne)
  rw [Store.find, Store.findWith, hrow]

/-- A field of related content. -/
def relatedField (id displayName : String) : Vocabulary :=
  { Vocabulary.new id displayName .manageable with fieldType := some "related_content" }

theorem wellFormed_relatedField (id displayName : String) :
    (relatedField id displayName).WellFormed where
  items := nofun
  schema d hd := by cases hd
  fieldOptions := nofun
  customFieldConfig := nofun

theorem legible_relatedField (id displayName : String) : (relatedField id displayName).Legible :=
  ⟨nofun, rfl, nofun, nofun⟩

/-- The field passes the checks under every key in form that is not reserved. -/
theorem admits_relatedField {displayName : String} (hid : isValidId id = true)
    (hfree : e.reserved.contains id = false) :
    e.Admits s (relatedField id displayName).withUniqueDefault := by
  refine admits_iff.2 ⟨Vocabulary.validateShape_eq_ok_iff.2 ⟨hid, nofun⟩, ?_, rfl,
    checkReserved_eq_ok_iff.2 fun _ => hfree⟩
  intro i hi
  cases hi

/-- Stories that go with photos; the key has dashes. -/
def photoStories : Vocabulary := relatedField "photo-stories" "Photo stories"

/-- Dashes in the key and at the ends of the suffix do no harm. -/
theorem photoStories_found : ∃ v,
    Store.find .json ((ofConfig .default).run (creationOf photoStories) ∅) "photo-stories" =
      .ok (some v) ∧
    (ofConfig .default).isRelatedContent "photo-stories"
      ((ofConfig .default).run (creationOf photoStories) ∅) = .ok true ∧
    (ofConfig .default).isRelatedContent ("photo-stories" ++ "--" ++ "-1--2-")
      ((ofConfig .default).run (creationOf photoStories) ∅) = .ok true := by
  have hwf : photoStories.WellFormed := wellFormed_relatedField _ _
  have hlegible : photoStories.Legible := legible_relatedField _ _
  have hactive := active_creationOf (c := .default) hwf hlegible
    (admits_relatedField (by decide) (by decide +kernel))
  have hfind : Store.find .json ((ofConfig .default).run (creationOf photoStories) ∅)
      "photo-stories" = .ok (some (photoStories.withUniqueDefault.marked false 1 1)) :=
    Store.find_eq_some_iff.2 ⟨_, hactive⟩
  have hdashes : Undivided ("photo-stories".toList ++ ['-']) := by
    unfold Undivided
    decide +kernel
  obtain ⟨hkey, hsuffixed⟩ := (run_relatedContent (ofConfig .default) (creationOf photoStories)
    (received_creationOf hwf) (keepsRun_creationOf hwf hlegible)).2.2 _ _ hfind
  have hyes : decide ((photoStories.withUniqueDefault.marked false 1 1).fieldType =
      some (ofConfig .default).config.relatedContentFieldType) = true := decide_eq_true rfl
  rw [hyes] at hkey hsuffixed
  exact ⟨_, hfind, hkey hdashes.of_append, hsuffixed hdashes "-1--2-"⟩

/-- Photos of the press; the key has a double dash. -/
def pressPhotos : Vocabulary := relatedField "press--photos" "Press photos"

/-- Other photos; the key ends in a dash. -/
def morePhotos : Vocabulary := relatedField "photos-" "More photos"

/-- A key with a double dash is cut in the middle, and one that ends in a dash loses it to the
suffix. There is no vocabulary under either stem. -/
theorem pressPhotos_not_found :
    (Received (creationOf pressPhotos) ∧ ∃ v,
      Store.find .json ((ofConfig .default).run (creationOf pressPhotos) ∅) "press--photos" =
        .ok (some v) ∧
      v.fieldType = some Config.default.relatedContentFieldType ∧
      (ofConfig .default).isRelatedContent "press--photos"
        ((ofConfig .default).run (creationOf pressPhotos) ∅) = .ok false) ∧
    Received (creationOf morePhotos) ∧ ∃ v,
      Store.find .json ((ofConfig .default).run (creationOf morePhotos) ∅) "photos-" =
        .ok (some v) ∧
      v.fieldType = some Config.default.relatedContentFieldType ∧
      (ofConfig .default).isRelatedContent ("photos-" ++ "--" ++ "1")
        ((ofConfig .default).run (creationOf morePhotos) ∅) = .ok false := by
  have hpress : pressPhotos.WellFormed := wellFormed_relatedField _ _
  have hmore : morePhotos.WellFormed := wellFormed_relatedField _ _
  have hpress' : pressPhotos.Legible := legible_relatedField _ _
  have hmore' : morePhotos.Legible := legible_relatedField _ _
  have hadmits : (ofConfig .default).Admits ∅ pressPhotos.withUniqueDefault :=
    admits_relatedField (by decide) (by decide +kernel)
  have hadmits' : (ofConfig .default).Admits ∅ morePhotos.withUniqueDefault :=
    admits_relatedField (by decide) (by decide +kernel)
  refine ⟨⟨received_creationOf hpress, _,
      Store.find_eq_some_iff.2 ⟨_, active_creationOf hpress hpress' hadmits⟩, rfl, ?_⟩,
    received_creationOf hmore, _,
      Store.find_eq_some_iff.2 ⟨_, active_creationOf hmore hmore' hadmits'⟩, rfl, ?_⟩
  · exact isRelatedContent_of_find_none
      (run_mirrored (received_creationOf hpress) (keepsRun_creationOf hpress hpress'))
      (find_creationOf_of_ne "press" (by decide) hadmits) (stem_beforeDoubleDash _)
  · exact isRelatedContent_of_find_none
      (run_mirrored (received_creationOf hmore) (keepsRun_creationOf hmore hmore'))
      (find_creationOf_of_ne "photos" (by decide) hadmits') (stem_beforeDoubleDash _)

end Engine

end Newsroom
