import RepoSurvey.Json.Display
import RepoSurvey.Schema.Part
import RepoSurvey.Text.Lower

/-!
# Model settings

The settings of a model provider come from named values of the environment or as a record. A provider
may have several keys, which agents draw in turn.
-/

namespace RepoSurvey.Chat

open Schema
open Number (Binary64)

/-- The kinds of model providers. -/
inductive Provider where
  | openai
  | anthropic
  | custom
  deriving DecidableEq, Repr, Inhabited

namespace Provider

/-- All providers. -/
def all : List Provider := [.openai, .anthropic, .custom]

/-- The name of a provider. -/
def name : Provider -> String
  | .openai => "openai"
  | .anthropic => "anthropic"
  | .custom => "custom"

end Provider

/-- The settings of a provider. -/
structure Settings where
  provider : Provider
  apiKeys : List String
  model : String
  baseUrl : Option String
  temperature : Option Binary64
  maxTokens : Option Int
  deriving DecidableEq, Repr

/-- What is wrong with settings. -/
inductive SettingsProblem where
  | noKey
  | unknownProvider (name : String)
  | unreadableTemperature (text : String)
  | unreadableTokens (text : String)
  | overlongTokens (digits : Nat)
  | emptyKeyPool
  | missingBaseUrl
  deriving DecidableEq, Repr

/-- The wording of a problem. -/
def SettingsProblem.message : SettingsProblem -> String
  | .noKey => "LLM_API_KEY is not set"
  | .unknownProvider name =>
    "Unknown LLM_PROVIDER '" ++ name ++ "'. Expected one of: " ++
      Text.quotedList (Provider.all.map Provider.name)
  | .unreadableTemperature text => "could not convert string to float: " ++ Text.quoted text
  | .unreadableTokens text =>
    "invalid literal for int() with base 10: " ++ String.ofList ((Text.quoted text).toList.take 200)
  | .overlongTokens digits =>
    "Exceeds the limit (4300 digits) for integer string conversion: value has " ++
      Number.natText digits ++ " digits; use sys.set_int_max_str_digits() to increase the limit"
  | .emptyKeyPool => "KeyPool needs at least one API key"
  | .missingBaseUrl => "Custom LLM provider requires base_url"

namespace Settings

/-- How keys are read: a single string stands for a list of one. -/
def keysCodec : Codec (List String) where
  read
    | .str key => .valid [key]
    | value => (Codec.listFrom 1 .text).read value
  write := (Codec.list .text).write

/-- The name under which settings are reported. -/
def recordName : String := "LLMConfig"

/-- How settings are read and written. -/
def codec : Codec Settings :=
  .record recordName <|
    Settings.mk <$> .field "provider" (.choice Provider.all Provider.name) provider (some .openai)
      <*> .field "api_keys" keysCodec apiKeys none
      <*> .field "model" .text model none
      <*> .field "base_url" (.optional .text) baseUrl (some none)
      <*> .field "temperature" (.optional .number) temperature (some none)
      <*> .field "max_tokens" (.optional .integer) maxTokens (some none)

/-- The keys in a text, separated by commas. -/
def keysIn (text : String) : List String :=
  ((text.splitOn ",").map Text.strip).filter (· != "")

/-- The value of a name in the environment, unless it is empty. -/
def nonempty? (environment : String -> Option String) (name : String) : Option String :=
  (environment name).filter (· != "")

/-- The number of digits up to which an integer is read. -/
def digitLimit : Nat := 4300

/-- Read the greatest number of tokens of a reply. -/
def readTokens (text : String) : Except SettingsProblem Int :=
  match Number.readInteger digitLimit text.toList with
  | .ok value => .ok value
  | .error .malformed => .error (.unreadableTokens text)
  | .error (.overlong digits) => .error (.overlongTokens digits)

/-- Read the temperature. -/
def readTemperature (text : String) : Except SettingsProblem Binary64 :=
  match Number.readGroupedReal? text.toList with
  | some value => .ok value
  | none => .error (.unreadableTemperature text)

/-- Read an optional value. -/
def readOptional {α : Type} (read : String -> Except SettingsProblem α) :
    Option String -> Except SettingsProblem (Option α)
  | none => .ok none
  | some text => (read text).map some

/-- The settings given by the environment. -/
def ofEnvironment (environment : String -> Option String) : Except SettingsProblem Settings := do
  let keys := keysIn ((environment "LLM_API_KEY").getD "")
  if keys.isEmpty then throw .noKey
  let providerName := Text.lower (Text.strip ((environment "LLM_PROVIDER").getD "openai"))
  let some provider := Provider.all.find? (·.name = providerName)
    | throw (.unknownProvider providerName)
  let temperature <- readOptional readTemperature (nonempty? environment "LLM_TEMPERATURE")
  let maxTokens <- readOptional readTokens (nonempty? environment "LLM_MAX_TOKENS")
  pure ⟨provider, keys, (environment "LLM_MODEL").getD "gpt-4o-mini",
    nonempty? environment "LLM_BASE_URL", temperature, maxTokens⟩

end Settings

/-- Keys drawn in turn. There is at least one, and none is empty. -/
structure KeyPool where
  first : String
  rest : List String
  drawn : Nat
  deriving DecidableEq, Repr

namespace KeyPool

/-- A pool of the nonempty keys of a list. -/
def ofKeys (keys : List String) : Except SettingsProblem KeyPool :=
  match keys.filter (· != "") with
  | [] => .error .emptyKeyPool
  | first :: rest => .ok ⟨first, rest, 0⟩

/-- The keys of a pool. -/
def keys (pool : KeyPool) : List String := pool.first :: pool.rest

/-- The next key in turn. -/
def next (pool : KeyPool) : String := pool.keys.getD (pool.drawn % pool.keys.length) pool.first

/-- The pool after a key was drawn. -/
def advance (pool : KeyPool) : KeyPool := { pool with drawn := pool.drawn + 1 }

/-- Draw a number of keys. -/
def draw : (count : Nat) -> KeyPool -> List String × KeyPool
  | 0, pool => ([], pool)
  | count + 1, pool =>
    let (keys, after) := draw count pool.advance
    (pool.next :: keys, after)

end KeyPool

/-- The protocol a provider speaks. -/
inductive Dialect where
  | completions
  | messages
  deriving DecidableEq, Repr

/-- The dialect for settings. A custom provider has to name its address. -/
def Settings.dialect (settings : Settings) : Except SettingsProblem Dialect :=
  match settings.provider with
  | .anthropic => .ok .messages
  | .openai => .ok .completions
  | .custom =>
    if (settings.baseUrl.getD "").isEmpty then .error .missingBaseUrl else .ok .completions

end RepoSurvey.Chat
