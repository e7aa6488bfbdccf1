import DocQuery.Text.Blank
import DocQuery.Text.Literal
import DocQuery.Text.Natural
import DocQuery.TextMap
import DocQuery.Web.Host

namespace DocQuery

abbrev Environment := TextMap String

namespace Environment

def storeUrl : String := "DOCSQL_STORE_URL"

def storeKey : String := "DOCSQL_STORE_KEY"

def storeSchema : String := "DOCSQL_STORE_SCHEMA"

def storeTimeout : String := "DOCSQL_STORE_TIMEOUT_SECS"

end Environment

inductive SettingsError where
  | emptyUrl
  | otherScheme (url : String)
  | emptyKey
  | zeroTimeout
  | invalidUrl (url : String) (cause : Web.UrlError)
  | illegalKey
  | unset (name : String)
  | invalidTimeout (text : String)
deriving DecidableEq

def SettingsError.message : SettingsError → String
  | emptyUrl => "base_url cannot be empty"
  | otherScheme url => "base_url must be http(s), got '" ++ url ++ "'"
  | emptyKey => "api_key cannot be empty"
  | zeroTimeout => "timeout must be > 0"
  | invalidUrl url cause => "invalid base_url '" ++ url ++ "': " ++ cause.message
  | illegalKey => "invalid api key: failed to parse header value"
  | unset name => name ++ " is not set"
  | invalidTimeout text => "invalid " ++ Environment.storeTimeout ++ "='" ++ text ++ "'"

/-- The timeout is in milliseconds. -/
structure ConnectionSettings where
  baseUrl : String
  apiKey : String
  schema : Option String
  timeout : Nat
deriving DecidableEq

def trimSlashes (url : String) : String :=
  String.ofList (url.toList.reverse.dropWhile (· == '/')).reverse

def fractionText (thousandths : Nat) : String :=
  let ds := (Nat.toDigits 10 (1000 + thousandths)).drop 1
  String.ofList (ds.reverse.dropWhile (· == '0')).reverse

def durationText (milliseconds : Nat) : String :=
  if milliseconds = 0 then "0ns"
  else if milliseconds < 1000 then toString milliseconds ++ "ms"
  else if milliseconds % 1000 = 0 then toString (milliseconds / 1000) ++ "s"
  else toString (milliseconds / 1000) ++ "." ++ fractionText (milliseconds % 1000) ++ "s"

namespace ConnectionSettings

def ofUrl (url key : String) : ConnectionSettings :=
  ⟨trimSlashes url, key, none, 30000⟩

/-- The settings as they may be shown: the key stays hidden. -/
def display (s : ConnectionSettings) : String :=
  let schema := match s.schema with
    | some name => "Some(" ++ Text.literal name ++ ")"
    | none => "None"
  "StoreConfig \x7b base_url: " ++ Text.literal s.baseUrl ++ ", api_key: \"***\", schema: " ++
    schema ++ ", timeout: " ++ durationText s.timeout ++ " \x7d"

def hasWebScheme (url : String) : Bool :=
  "http://".toList.isPrefixOf url.toList || "https://".toList.isPrefixOf url.toList

def validate (s : ConnectionSettings) : Except SettingsError Unit :=
  if s.baseUrl.isEmpty then .error .emptyUrl
  else if !hasWebScheme s.baseUrl then .error (.otherScheme s.baseUrl)
  else if s.apiKey.isEmpty then .error .emptyKey
  else if s.timeout = 0 then .error .zeroTimeout
  else .ok ()

def readTimeout (text : String) : Except SettingsError Nat :=
  match Text.natural64? (Text.trimChars Text.isBlank text.toList) with
  | some seconds => .ok (seconds * 1000)
  | none => .error (.invalidTimeout text)

def required (env : Environment) (name : String) : Except SettingsError String :=
  match env.get? name with
  | some value => .ok value
  | none => .error (.unset name)

def ofEnvironment (env : Environment) : Except SettingsError ConnectionSettings := do
  let url ← required env Environment.storeUrl
  let key ← required env Environment.storeKey
  let settings := { ofUrl url key with schema := env.get? Environment.storeSchema }
  let settings ← match env.get? Environment.storeTimeout with
    | some text => do pure { settings with timeout := ← readTimeout text }
    | none => pure settings
  settings.validate
  return settings

end ConnectionSettings

end DocQuery
