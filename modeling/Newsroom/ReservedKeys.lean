import Newsroom.TextMap

/-!
# Reserved keys

A custom vocabulary becomes an article field named after its key, so its key must not be that of
a built-in field of articles or of the editor.
-/

namespace Newsroom

/-- The built-in article fields. -/
def articleFields : List String :=
  ["slugline", "keywords", "genre", "anpa_take_key", "place", "priority", "urgency",
    "anpa_category", "subject", "company_codes", "ednote", "authors", "headline", "sms",
    "abstract", "byline", "dateline", "body_html", "footer", "body_footer", "sign_off",
    "feature_media", "media_description", "attachments", "language", "usageterms"]

/-- The fields that the editor shows; all of them are article fields. -/
def editorFields : List String :=
  ["slugline", "keywords", "genre", "anpa_take_key", "place", "priority", "urgency",
    "anpa_category", "subject", "company_codes", "ednote", "authors", "headline", "sms",
    "abstract", "byline", "dateline", "body_html", "footer", "body_footer", "sign_off",
    "feature_media", "media_description", "attachments"]

/-- A set of reserved keys. -/
structure ReservedKeys where
  /-- The keys, as a map without content. -/
  keys : TextMap Unit
  deriving DecidableEq

namespace ReservedKeys

/-- No reserved keys. -/
def empty : ReservedKeys := ⟨∅⟩

/-- The set with further keys. -/
def withKeys (r : ReservedKeys) (more : List String) : ReservedKeys :=
  ⟨more.foldl (fun m k => m.insert k ()) r.keys⟩

/-- The keys of the built-in article and editor fields. -/
def builtin : ReservedKeys := empty.withKeys (articleFields ++ editorFields)

/-- Whether a key is reserved. -/
def contains (r : ReservedKeys) (key : String) : Bool := r.keys.contains key

/-- How many keys are reserved. -/
def size (r : ReservedKeys) : Nat := r.keys.size

/-- Whether no key is reserved. -/
def isEmpty (r : ReservedKeys) : Bool := r.keys.isEmpty

/-- A key is reserved when it was before or is one of the further keys. -/
theorem contains_withKeys (r : ReservedKeys) (more : List String) (key : String) :
    (r.withKeys more).contains key = (r.contains key || more.contains key) := by
  simp only [withKeys, contains]
  induction more generalizing r with
  | nil => simp
  | cons k ks ih =>
    rw [List.foldl_cons, ih ⟨r.keys.insert k ()⟩]
    by_cases h : k = key
    · subst h
      simp [TextMap.contains]
    · have h' : key ≠ k := Ne.symm h
      simp [TextMap.contains, TextMap.get?_insert, h, h']

end ReservedKeys

end Newsroom
