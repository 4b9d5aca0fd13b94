import Newsroom.Proofs.Service.Collecting

/-!
# Merging keywords

A merge adds the new spellings of its keywords at the end of what is there and changes nothing
else, whatever the vocabulary of keywords holds (`Engine.Merged`). After the merge every keyword
is the name of an item, so the same merge has nothing more to add. What the merge stores has to be
read back (`Engine.KeepsStep`), and so have the documents before it.
-/

namespace Newsroom

namespace Store

variable {t : TextLayer} {s : Store} {id : String}

end Store

namespace Engine

/-- What a merge of keywords that has added `added` makes of a store: behind the items that were
there stands an active item for each new spelling. -/
structure Merged (e : Engine) (keywords added : List String) (before : List Item)
    (s s' : Store) : Prop where
  found : Store.itemsOf e.text s e.config.keywordsVocabulary = .ok before
  fresh : added = newSpellings ((before.filterMap Item.name).map Text.lower) (spellings keywords)
  stored : Store.itemsOf e.text s' e.config.keywordsVocabulary =
    .ok (before ++ added.map Item.named)

variable {e : Engine} {now : Int64} {s s' : Store} {keywords added : List String}
  {language : Option String} {ctx : Context} {before items : List Item} {v : Vocabulary}

/-- After a merge every keyword is the name of an item, up to case. -/
theorem Merged.known (h : e.Merged keywords added before s s') :
    ∀ k ∈ spellings keywords, ∃ i ∈ before ++ added.map Item.named, ∃ name,
      i.name = some name ∧ Text.lower name = Text.lower k := by
  intro k hk
  rcases seen_or_newSpelling ((before.filterMap Item.name).map Text.lower) hk with
    hseen | ⟨new, hnew, hlower⟩
  · obtain ⟨name, hname, hlower⟩ := List.mem_map.1 hseen
    obtain ⟨i, hi, hi'⟩ := List.mem_filterMap.1 hname
    exact ⟨i, List.mem_append_left _ hi, name, hi', hlower⟩
  · rw [← h.fresh] at hnew
    exact ⟨.named new, List.mem_append_right _ (List.mem_map_of_mem hnew), new, rfl, hlower⟩

end Engine

end Newsroom
