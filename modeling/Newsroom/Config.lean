import Newsroom.Json.Reader
import Newsroom.Json.Record
import Newsroom.ReservedKeys
import Newsroom.Vocabulary.Kind

/-!
# Engine settings

Names the vocabularies that the engine itself reads and writes, the fields that are cast for
readers, and the log. Settings come from a JSON record or from environment variables; what is not
set keeps its default.
-/

namespace Newsroom

/-- Settings of the log. -/
structure LogConfig where
  /-- The level, as it was written. -/
  level : String
  /-- The directory of the log files; none leaves the log off. -/
  directory : Option String
  deriving DecidableEq

/-- The level of the log when none is set. -/
def defaultLogLevel : String := "debug"

/-- The log settings when none are given. -/
def LogConfig.default : LogConfig := ⟨defaultLogLevel, none⟩

/-- Settings of the engine. -/
structure Config where
  /-- The vocabulary that collects keywords. -/
  keywordsVocabulary : String
  /-- The vocabulary of copyright and usage terms by source. -/
  rightsVocabulary : String
  /-- The vocabulary of languages. -/
  languagesVocabulary : String
  /-- The field type that marks related content. -/
  relatedContentFieldType : String
  /-- Whether published articles add their keywords. -/
  addKeywordsOnPublish : Bool
  /-- The casts registered by vocabulary and field. -/
  typedSchemas : TextMap (TextMap Cast)
  /-- Reserved keys beside the built-in ones. -/
  extraReservedKeys : List String
  /-- Settings of the log. -/
  logging : LogConfig
  deriving DecidableEq

/-- Why settings could not be loaded. -/
inductive ConfigError where
  /-- A variable has a value it cannot have. -/
  | invalidValue (key value : String)
  /-- The text is no record of settings. -/
  | unreadable
  deriving DecidableEq

namespace ConfigError

/-- The message for people. -/
def message : ConfigError → String
  | .invalidValue key value => "invalid value `" ++ value ++ "` for `" ++ key ++ "`"
  | .unreadable => "invalid engine config"

end ConfigError

namespace Config

/-- The settings of a newsroom without any of its own. -/
def default : Config where
  keywordsVocabulary := "keywords"
  rightsVocabulary := "rightsinfo"
  languagesVocabulary := "languages"
  relatedContentFieldType := "related_content"
  addKeywordsOnPublish := false
  typedSchemas := TextMap.ofList
    [("crop_sizes", TextMap.ofList [("width", .integer), ("height", .integer)])]
  extraReservedKeys := []
  logging := .default

instance : Inhabited Config := ⟨default⟩

/-- The casts registered for a vocabulary. -/
def casts? (c : Config) (vocabulary : String) : Option (TextMap Cast) :=
  c.typedSchemas.get? vocabulary

/-- All reserved keys. -/
def reserved (c : Config) : ReservedKeys := ReservedKeys.builtin.withKeys c.extraReservedKeys

/-! ### From JSON -/

/-- The fields of the log settings. -/
def logFields : List String := ["level", "log_dir"]

/-- Reads log settings. -/
def readLogging? (v : Json) : Option LogConfig := do
  let ms ← Json.record? logFields v
  let level ← Json.defaulted? "level" defaultLogLevel Json.asString? ms
  let directory ← Json.optional? "log_dir" Json.asString? ms
  return ⟨level, directory⟩

/-- The fields of the settings. -/
def knownFields : List String :=
  ["keywords_vocabulary", "rightsinfo_vocabulary", "languages_vocabulary",
    "related_content_field_type", "add_missing_keywords_on_publish", "typed_schemas",
    "extra_system_keys", "logging"]

/-- The parts of a text that are read as settings. -/
def shape : Shape :=
  .record (knownFields.map fun key => (key,
    if key = "logging" then .record (logFields.map (·, .whole)) else .whole))

/-- Reads settings. -/
def ofJson? (v : Json) : Option Config := do
  let ms ← Json.record? knownFields v
  let keywordsVocabulary ←
    Json.defaulted? "keywords_vocabulary" default.keywordsVocabulary Json.asString? ms
  let rightsVocabulary ←
    Json.defaulted? "rightsinfo_vocabulary" default.rightsVocabulary Json.asString? ms
  let languagesVocabulary ←
    Json.defaulted? "languages_vocabulary" default.languagesVocabulary Json.asString? ms
  let relatedContentFieldType ←
    Json.defaulted? "related_content_field_type" default.relatedContentFieldType Json.asString? ms
  let addKeywordsOnPublish ←
    Json.defaulted? "add_missing_keywords_on_publish" false Json.asBool? ms
  let typedSchemas ← Json.defaulted? "typed_schemas" default.typedSchemas
    (Json.asMap? (Json.asMap? fun v => v.asChoice?.bind Cast.ofName?)) ms
  let extraReservedKeys ←
    Json.defaulted? "extra_system_keys" [] (Json.asList? Json.asString?) ms
  let logging ← Json.defaulted? "logging" .default readLogging? ms
  return {
    keywordsVocabulary, rightsVocabulary, languagesVocabulary, relatedContentFieldType,
    addKeywordsOnPublish, typedSchemas, extraReservedKeys, logging }

/-- Reads settings from a JSON text. -/
def ofText (text : String) : Except ConfigError Config :=
  match (Json.read? shape text).bind ofJson? with
  | some c => .ok c
  | none => .error .unreadable

/-! ### From the environment -/

/-- The flag that a word stands for, up to the case of ASCII letters. -/
def flag? (s : String) : Option Bool :=
  let word := Text.asciiLower s
  if ["1", "true", "yes", "on"].contains word then some true
  else if ["0", "false", "no", "off"].contains word then some false
  else none

/-- The variable for publishing keywords. -/
def publishVariable : String := "VOCAB_KEYWORDS_ADD_MISSING_ON_PUBLISH"

/-- The defaults, overridden by the variables that `lookup` knows. Blanks around a value do not
count, and blank values are as good as none. -/
def ofEnvironment (lookup : String → Option String) : Except ConfigError Config :=
  let value? (key : String) : Option String :=
    ((lookup key).map Text.trim).filter fun v => !v.isEmpty
  let named : Config := { default with
    keywordsVocabulary := (value? "VOCAB_KEYWORDS_CV").getD default.keywordsVocabulary
    rightsVocabulary := (value? "VOCAB_RIGHTSINFO_CV").getD default.rightsVocabulary
    languagesVocabulary := (value? "VOCAB_LANGUAGES_CV").getD default.languagesVocabulary
    logging := {
      level := (value? "VOCAB_LOG_LEVEL").getD defaultLogLevel
      directory := value? "VOCAB_LOG_DIR" } }
  match value? publishVariable with
  | none => .ok named
  | some v =>
    match flag? v with
    | some b => .ok { named with addKeywordsOnPublish := b }
    | none => .error (.invalidValue publishVariable v)

/-! ### To JSON -/

/-- The settings as a record. -/
def toJson (c : Config) : Json :=
  .object [
    ("keywords_vocabulary", .string c.keywordsVocabulary),
    ("rightsinfo_vocabulary", .string c.rightsVocabulary),
    ("languages_vocabulary", .string c.languagesVocabulary),
    ("related_content_field_type", .string c.relatedContentFieldType),
    ("add_missing_keywords_on_publish", .bool c.addKeywordsOnPublish),
    ("typed_schemas", Json.ofMap (Json.ofMap fun k => .string (Cast.name k)) c.typedSchemas),
    ("extra_system_keys", .array (c.extraReservedKeys.map .string)),
    ("logging", .object [
      ("level", .string c.logging.level),
      ("log_dir", match c.logging.directory with
        | some d => .string d
        | none => .null)])]

end Config

end Newsroom
