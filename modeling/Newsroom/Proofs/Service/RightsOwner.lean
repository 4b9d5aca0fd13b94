import Mathlib.Data.List.Find
import Newsroom.Proofs.Reading.Presentation
import Newsroom.Proofs.Reading.Representation
import Newsroom.Proofs.Service.Agreement
import Newsroom.Proofs.Service.RelatedContent
import Newsroom.Service.Rights

/-!
# Whose rights an article gets

The rights of an article are those of the item that its source names, or else of the default item.
The language of the article comes first, and items are known by the names that they have in it. A
translated name may hide the item that the source names, or the default one, and may put another one
in its place. So the law for a language (`Engine.getRights_in_language`) is about names in that
language. Where it leaves the names that matter to the items that have them, it changes the wording
of the rights and not their owner.
-/

namespace Newsroom

/-! ### Names in a language -/

namespace Item

/-- The item has the name in the language. -/
def CalledIn (language : Option String) (name : String) (i : Item) : Prop :=
  i.fieldIn language "name" = some (.string name)

instance (language : Option String) (name : String) (i : Item) :
    Decidable (i.CalledIn language name) :=
  inferInstanceAs (Decidable (i.fieldIn language "name" = some (.string name)))

theorem WellFormed.inLanguage {i : Item} (hi : i.WellFormed) (language : Option String) :
    (i.inLanguage language).WellFormed := by
  cases language with
  | none => exact hi
  | some l => exact hi.localize l

theorem Canonical.name_eq_some_iff {i : Item} (hi : i.Canonical) {name : String} :
    i.name = some name ↔ i.field "name" = some (.string name) := by
  rw [← field_name_bind hi, Option.bind_eq_some_iff]
  constructor
  · rintro ⟨v, hv, htext⟩
    cases v with
    | string s =>
      obtain rfl := Option.some.inj htext
      exact hv
    | _ => cases htext
  · exact fun hv => ⟨_, hv, rfl⟩

/-- The copy of an item in a language has the name that the item has there. -/
theorem WellFormed.name_inLanguage_eq_some_iff {i : Item} (hi : i.WellFormed)
    {language : Option String} {name : String} :
    (i.inLanguage language).name = some name ↔ i.CalledIn language name := by
  rw [(hi.inLanguage language).canonical.name_eq_some_iff,
    field_inLanguage i language (by decide) (by decide), CalledIn]

end Item

/-! ### Owners -/

/-- The language of an article: blanks around it do not count, and a blank one is none. -/
def Article.spoken? (a : Article) : Option String :=
  (a.language.map Text.trim).filter fun l => !l.isEmpty

/-- The item that states the rights under a key: the first one that has it for its name in the
language, or else the first one that is called `default` there. -/
def rightsOwner? (items : List Item) (language : Option String) (key : String) : Option Item :=
  (items.find? fun i => i.CalledIn language key).or
    (items.find? fun i => i.CalledIn language Article.defaultRights)

/-- The rights that the owner states in a language. -/
def Rights.statedBy (owner : Option Item) (language : Option String) : Rights :=
  owner.elim .empty fun i => .ofItem (i.inLanguage language)

variable {items : List Item} {a : Article}

theorem namedItem?_inLanguage (hitems : ∀ i ∈ items, i.WellFormed) (language : Option String)
    (name : String) : namedItem? (items.map fun i => i.inLanguage language) name =
      (items.find? fun i => i.CalledIn language name).map fun i => i.inLanguage language := by
  rw [namedItem?, List.find?_map]
  refine congrArg _ (List.find?_congr fun i hi => ?_)
  exact decide_eq_decide.2 (hitems i hi).name_inLanguage_eq_some_iff

/-- The item that an article selects is the copy of the owner in its language. -/
theorem rightsItem?_localizeItems (hitems : ∀ i ∈ items, i.WellFormed) :
    rightsItem? (localizeItems items a.language) a =
      (rightsOwner? items a.spoken? a.rightsKey).map fun i => i.inLanguage a.spoken? := by
  have hcopies : localizeItems items a.language = items.map fun i => i.inLanguage a.spoken? :=
    localizeItems_eq items ⟨none, a.language, none⟩
  rw [hcopies, rightsItem?, namedItem?_inLanguage hitems, namedItem?_inLanguage hitems,
    rightsOwner?, Option.map_or]

/-- Where the language leaves the names of the owner to the items that have them, the owner is the
item that is selected by names. -/
theorem rightsOwner?_eq_rightsItem? {language : Option String}
    (h : ∀ i ∈ items, ∀ name ∈ [a.rightsKey, Article.defaultRights],
      (i.CalledIn language name ↔ i.name = some name)) :
    rightsOwner? items language a.rightsKey = rightsItem? items a := by
  have hfind : ∀ name ∈ [a.rightsKey, Article.defaultRights],
      (items.find? fun i => i.CalledIn language name) = namedItem? items name :=
    fun name hname => List.find?_congr fun i hi => decide_eq_decide.2 (h i hi name hname)
  rw [rightsOwner?, rightsItem?, hfind a.rightsKey List.mem_cons_self,
    hfind Article.defaultRights (List.mem_cons_of_mem _ List.mem_cons_self)]

namespace Engine

/-- The items of a vocabulary that is found are well-formed, whatever the row holds. -/
theorem wellFormed_items_of_findOne {e : Engine} {s : Store} {id : String} {v : Vocabulary}
    (h : e.findOne id s = .ok (some v)) : ∀ i ∈ v.items, i.WellFormed := by
  obtain ⟨r, hactive⟩ := findOne_eq_some_iff.1 h
  obtain ⟨w, hw, -, rfl⟩ := Row.exists_wellFormed hactive.read
  exact hw.items

/-- The rights of an article are those that the owner in its language states there. -/
theorem getRights_of_findOne {e : Engine} {s : Store} {v : Vocabulary}
    (h : e.findOne e.config.rightsVocabulary s = .ok (some v)) (a : Article) :
    e.getRights a s = .ok (.statedBy (rightsOwner? v.items a.spoken? a.rightsKey) a.spoken?) := by
  rw [getRights, h]
  refine congrArg Except.ok ?_
  dsimp only
  rw [rightsItem?_localizeItems (wellFormed_items_of_findOne h), Rights.statedBy]
  cases rightsOwner? v.items a.spoken? a.rightsKey <;> rfl

/-- **Whose rights an article gets**: with the vocabulary of rights found, those of the first item
that has the name of the article's rights in its language, or else of the first one that is called
`default` there, or none; they are worded as in the copy of that item in the language. If the
language leaves these names to the items that have them, it is the item that is selected for the
article without its language. Without the vocabulary there are no rights, and if the store fails the
question does. -/
theorem getRights_in_language (e : Engine) (a : Article) (s : Store) :
    (∀ err, e.findOne e.config.rightsVocabulary s = .error err → e.getRights a s = .error err) ∧
    (e.findOne e.config.rightsVocabulary s = .ok none → e.getRights a s = .ok .empty) ∧
    ∀ v, e.findOne e.config.rightsVocabulary s = .ok (some v) →
      e.getRights a s =
        .ok (.statedBy (rightsOwner? v.items a.spoken? a.rightsKey) a.spoken?) ∧
      e.getRights { a with language := none } s = .ok (.statedBy (rightsItem? v.items a) none) ∧
      ((∀ i ∈ v.items, ∀ name ∈ [a.rightsKey, Article.defaultRights],
        (i.CalledIn a.spoken? name ↔ i.name = some name)) →
          e.getRights a s = .ok (.statedBy (rightsItem? v.items a) a.spoken?)) := by
  refine ⟨fun err h => by rw [getRights, h]; rfl, fun h => by rw [getRights, h]; rfl, fun v h => ?_⟩
  have hown : rightsOwner? v.items none a.rightsKey = rightsItem? v.items a :=
    rightsOwner?_eq_rightsItem? fun i hi name _ =>
      (wellFormed_items_of_findOne h i hi).name_inLanguage_eq_some_iff.symm
  refine ⟨getRights_of_findOne h a, ?_, fun hnames => ?_⟩
  · rw [← hown]
    exact getRights_of_findOne h { a with language := none }
  · rw [getRights_of_findOne h a, rightsOwner?_eq_rightsItem? hnames]

/-! ### Rights with translations -/

/-- A vocabulary of rights. -/
def rightsOf (items : List Item) : Vocabulary :=
  { Vocabulary.new "rightsinfo" "Rights" .manageable with items := items }

/-- Rights are found as they were created. -/
theorem findOne_rightsOf {items : List Item} (hitems : (rightsOf items).WellFormed)
    (hlegible : (rightsOf items).Legible) :
    (ofConfig .default).findOne "rightsinfo"
        ((ofConfig .default).run (creationOf (rightsOf items)) ∅) =
      .ok (some (Store.stamped 1 (rightsOf items))) := by
  have hid : isValidId "rightsinfo" = true := by decide
  have hadmits : (ofConfig .default).Admits ∅ (rightsOf items).withUniqueDefault := by
    refine admits_iff.2 ⟨Vocabulary.validateShape_eq_ok_iff.2 ⟨hid, nofun⟩, ?_, rfl,
      checkReserved_eq_ok_iff.2 nofun⟩
    intro i hi f hf
    cases hf
  exact findOne_eq_some_iff.2 ⟨_, active_creationOf hitems hlegible hadmits⟩

/-- Rights whose terms of use are translated. -/
def wireRights : Vocabulary := rightsOf [
  Item.ofValues (.ofList [("name", .string "default"), ("copyrightHolder", .string "Newsroom"),
    ("usageTerms", .string "Internal use")]),
  Item.ofValues (.ofList [("name", .string "Reuters"), ("copyrightHolder", .string "Reuters"),
    ("usageTerms", .string "Editorial use"), ("translations", .object [("usageTerms",
      .object [("de", .string "Redaktionelle Nutzung")])])])]

/-- In German the rights of Reuters are still its own. -/
theorem wireRights_owned :
    (ofConfig .default).findOne "rightsinfo" ((ofConfig .default).run (creationOf wireRights) ∅) =
      .ok (some (Store.stamped 1 wireRights)) ∧
    (∀ i ∈ wireRights.items, ∀ name ∈ ["Reuters", "default"],
      (i.CalledIn (some "de") name ↔ i.name = some name)) ∧
    (ofConfig .default).getRights ⟨none, some "Reuters", some " de "⟩
        ((ofConfig .default).run (creationOf wireRights) ∅) =
      .ok ⟨some "Reuters", none, some "Redaktionelle Nutzung"⟩ := by
  have hread : Vocabulary.ofJson? wireRights.toJson = some wireRights := by decide +kernel
  have hlegible : wireRights.Legible := Vocabulary.legible_toJson_iff.1 (by decide +kernel)
  have hfound := findOne_rightsOf (Vocabulary.wellFormed_of_ofJson? hread) hlegible
  have hnames : ∀ i ∈ wireRights.items, ∀ name ∈ ["Reuters", "default"],
      (i.CalledIn (some "de") name ↔ i.name = some name) := by decide +kernel
  have hspoken : Article.spoken? ⟨none, some "Reuters", some " de "⟩ = some "de" := by
    decide +kernel
  obtain ⟨-, -, hlaw⟩ := getRights_in_language (ofConfig .default)
    ⟨none, some "Reuters", some " de "⟩ ((ofConfig .default).run (creationOf wireRights) ∅)
  have hrights := (hlaw _ hfound).2.2
  rw [hspoken] at hrights
  exact ⟨hfound, hnames, (hrights hnames).trans (by decide +kernel)⟩

/-- Rights whose owner has another name in French. -/
def renamedRights : Vocabulary := rightsOf [
  Item.ofValues (.ofList [("name", .string "AAP"), ("copyrightHolder", .string "AAP"),
    ("translations", .object [("name", .object [("fr", .string "Agence")])])]),
  Item.ofValues (.ofList [("name", .string "default"), ("copyrightHolder", .string "Newsroom")])]

/-- In French no item is called AAP, so an article from there gets the default rights, and not those
of the item that is selected for it without its language. -/
theorem renamedRights_disowned :
    Received (creationOf renamedRights) ∧
    (ofConfig .default).findOne "rightsinfo"
        ((ofConfig .default).run (creationOf renamedRights) ∅) =
      .ok (some (Store.stamped 1 renamedRights)) ∧
    (ofConfig .default).getRights ⟨some "AAP", none, none⟩
        ((ofConfig .default).run (creationOf renamedRights) ∅) = .ok ⟨some "AAP", none, none⟩ ∧
    Rights.statedBy (rightsItem? renamedRights.items ⟨some "AAP", none, some "fr"⟩)
      (Article.spoken? ⟨some "AAP", none, some "fr"⟩) = ⟨some "AAP", none, none⟩ ∧
    (ofConfig .default).getRights ⟨some "AAP", none, some "fr"⟩
        ((ofConfig .default).run (creationOf renamedRights) ∅) =
      .ok ⟨some "Newsroom", none, none⟩ := by
  have hread : Vocabulary.ofJson? renamedRights.toJson = some renamedRights := by decide +kernel
  have hform : renamedRights.WellFormed := Vocabulary.wellFormed_of_ofJson? hread
  have hlegible : renamedRights.Legible := Vocabulary.legible_toJson_iff.1 (by decide +kernel)
  have hfound := findOne_rightsOf hform hlegible
  refine ⟨received_creationOf hform, hfound, (getRights_of_findOne hfound _).trans ?_, ?_,
    (getRights_of_findOne hfound _).trans ?_⟩ <;> decide +kernel

end Engine

end Newsroom
