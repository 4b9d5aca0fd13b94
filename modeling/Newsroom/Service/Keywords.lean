import Newsroom.Service.Lifecycle

/-!
# Keywords

Collects the keywords of articles in a vocabulary of their own. Keywords that differ in case only
are the same; the first spelling stays. Items that are there stay in place, and what is missing
is added at the end.
-/

namespace Newsroom

/-- Keywords without those that an earlier one, or one of `seen`, equals in lower case. -/
def distinctKeywords : List String → List String → List String
  | _, [] => []
  | seen, k :: ks =>
    if seen.contains (Text.lower k) then distinctKeywords seen ks
    else k :: distinctKeywords (Text.lower k :: seen) ks

/-- The keywords of an article without blanks around them, blank ones and repetitions. -/
def cleanKeywords (keywords : List String) : List String :=
  distinctKeywords [] ((keywords.map Text.trim).filter fun k => !k.isEmpty)

/-- The vocabulary that collects keywords, when it is new. -/
def keywordsVocabulary (id : String) (keywords : List String) : Vocabulary :=
  { Vocabulary.new id "Keywords" .manageable with
    uniqueField := some "name"
    schema := Schema.ofList [("name", .blank), ("qcode", .blank)]
    items := keywords.map Item.named }

/-- The keywords that no item has as its name, up to case. -/
def missingKeywords (items : List Item) (keywords : List String) : List String :=
  let known := (items.filterMap Item.name).map Text.lower
  keywords.filter fun k => !known.contains (Text.lower k)

namespace Engine

variable (e : Engine)

/-- The start of every entry about keywords. -/
def keywordsEntry (level : Level) (status : String) (rest : String) : Entry :=
  logged level ("event=keywords_merge module=service status=" ++ status ++ " vocabulary_id="
    ++ e.config.keywordsVocabulary ++ rest)

/-- Adds the missing keywords to the existing vocabulary of keywords. -/
def extendKeywords (now : Int64) (existing : Vocabulary) (missing : List String) (ctx : Context)
    (s : Store) : Outcome (List String) :=
  let items := existing.items ++ missing.map Item.named
  let checked := e.checkUpdate s (.ofItems items) existing
  match checked.traced.result with
  | .error err => ⟨.error err, s, checked.traced.journal⟩
  | .ok _ =>
    match fromStore (Store.patch e.text now s e.config.keywordsVocabulary checked.value) with
    | .error err => ⟨.error err, s, checked.traced.journal⟩
    | .ok (updated, s) =>
      ⟨.ok missing, s, checked.traced.journal ++
        [noticeOf .updated ctx updated,
         e.keywordsEntry .info "ok" (" added=" ++ toString missing.length)]⟩

/-- Creates the vocabulary of keywords with its first keywords. -/
def createKeywords (now : Int64) (keywords : List String) (ctx : Context) (s : Store) :
    Outcome (List String) :=
  let made := e.create now [keywordsVocabulary e.config.keywordsVocabulary keywords] ctx s
  match made.result with
  | .error err => ⟨.error err, made.store, made.journal⟩
  | .ok _ =>
    ⟨.ok keywords, made.store, made.journal ++
      [e.keywordsEntry .info "created" (" added=" ++ toString keywords.length)]⟩

/-- Adds the keywords that are missing from the vocabulary of keywords, which is created when
there is none; the answer lists the added ones in order. -/
def addMissingKeywords (now : Int64) (keywords : List String) (language : Option String)
    (ctx : Context) (s : Store) : Outcome (List String) :=
  let candidates := cleanKeywords keywords
  if candidates.isEmpty then ⟨.ok [], s, []⟩
  else
    let start := e.keywordsEntry .debug "start"
      (" candidates=" ++ toString candidates.length ++ " language=" ++ language.getD "-")
    match fromStore (Store.find e.text s e.config.keywordsVocabulary) with
    | .error err => ⟨.error err, s, [start]⟩
    | .ok none =>
      let made := e.createKeywords now candidates ctx s
      ⟨made.result, made.store, start :: made.journal⟩
    | .ok (some existing) =>
      let missing := missingKeywords existing.items candidates
      if missing.isEmpty then ⟨.ok [], s, [start]⟩
      else
        let made := e.extendKeywords now existing missing ctx s
        ⟨made.result, made.store, start :: made.journal⟩

/-- Adds the keywords of a published article, if the settings ask for it. -/
def onArticlePublished (now : Int64) (keywords : List String) (language : Option String)
    (ctx : Context) (s : Store) : Outcome (List String) :=
  if e.config.addKeywordsOnPublish then e.addMissingKeywords now keywords language ctx s
  else ⟨.ok [], s, []⟩

end Engine

end Newsroom
