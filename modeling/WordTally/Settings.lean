import WordTally.Files.Path
import WordTally.Log
import WordTally.Pipeline.Settings
import WordTally.Text.Numeral
import WordTally.Text.Quoted
import WordTally.Text.Split
import WordTally.Unicode.Blank
import WordTally.Url.Parser

set_option autoImplicit false

namespace WordTally

inductive Variable where
  | brokers
  | schemaRegistry
  | restProxy
  | commitInterval
  | shards
  | sinkRetries
  | sinkBackoff
  | resetState
  | logLevel
  deriving DecidableEq, Repr

namespace Variable

def name : Variable → String
  | .brokers => "KAFKA_BOOTSTRAP_SERVER"
  | .schemaRegistry => "SCHEMA_REGISTRY_SERVER"
  | .restProxy => "KAFKA_REST_PROXY"
  | .commitInterval => "WORDCOUNT_COMMIT_INTERVAL_MS"
  | .shards => "WORDCOUNT_SHARDS"
  | .sinkRetries => "WORDCOUNT_SINK_MAX_RETRIES"
  | .sinkBackoff => "WORDCOUNT_SINK_BACKOFF_MS"
  | .resetState => "WORDCOUNT_RESET_STATE"
  | .logLevel => "WORDCOUNT_LOG"

def default : Variable → String
  | .brokers => "localhost:9092"
  | .schemaRegistry => "localhost:8081"
  | .restProxy => "http://localhost:8082"
  | .commitInterval => "10000"
  | .shards => "1"
  | .sinkRetries => "5"
  | .sinkBackoff => "100"
  | .resetState => "true"
  | .logLevel => "info"

def all : List Variable :=
  [.brokers, .schemaRegistry, .restProxy, .commitInterval, .shards, .sinkRetries, .sinkBackoff,
    .resetState, .logLevel]

/-- The names of the variables whose values are taken as they are. -/
def uncheckedNames : List String :=
  ["KAFKA_INPUT_TOPIC", "KAFKA_OUTPUT_TOPIC", "WORDCOUNT_APPLICATION_ID", "WORDCOUNT_STATE_DIR",
    "WORDCOUNT_LOG_FILE"]

def names : List String := all.map name ++ uncheckedNames

end Variable

inductive SettingsFault where
  | noPort (entry : String)
  | noHost (entry : String)
  | badPort (entry : String)
  | noBroker
  | url (error : UrlError)
  | scheme (name : String)
  | missingHost
  | numeral (error : Text.NumeralError)
  | zero
  | notBool
  | notLevel
  deriving DecidableEq, Repr

def SettingsFault.message : SettingsFault → String
  | .noPort entry => entry ++ " has no port"
  | .noHost entry => entry ++ " has no host"
  | .badPort entry => entry ++ " has an invalid port"
  | .noBroker => "no broker address given"
  | .url error => error.message
  | .scheme name => "unsupported scheme " ++ name
  | .missingHost => "missing host"
  | .numeral error => error.message
  | .zero => "must be at least 1"
  | .notBool => "expected true or false"
  | .notLevel => "expected off, error, warn, info, debug or trace"

structure SettingsError where
  which : Variable
  value : String
  fault : SettingsFault
  deriving DecidableEq, Repr

def SettingsError.message (error : SettingsError) : String :=
  "invalid " ++ error.which.name ++ "=" ++ Text.quoted error.value ++ ": " ++ error.fault.message

structure Settings where
  /-- Pairs of host and port. -/
  brokers : List String
  schemaRegistry : Url
  restProxy : Url
  inputTopic : String
  outputTopic : String
  /-- Also the name of the consumer group. -/
  applicationId : String
  commitMillis : Nat
  shards : Nat
  sinkRetry : RetryPolicy
  stateDir : Path
  /-- Whether the saved counts are wiped at the start. -/
  resetState : Bool
  logLevel : LogLevel
  logFile : Option Path

namespace Settings

/-- One entry of a broker list, cut at its last colon. What stands before `://` is left out. -/
def readBroker (entry : String) : Except SettingsFault String :=
  let address := (Text.afterMark? "://".toList entry.toList).getD entry.toList
  match Text.cutAtLast? ':' address with
  | none => .error (.noPort entry)
  | some (host, port) =>
    if host.isEmpty then .error (.noHost entry)
    else match Text.readNumeral Text.max16 (String.ofList port) with
      | .ok _ => .ok (String.ofList address)
      | .error _ => .error (.badPort entry)

/-- Entries between commas; blank ones are passed over, and one has to be left. -/
def readBrokers (value : String) : Except SettingsFault (List String) := do
  let entries := (Text.pieces ',' value.toList).map fun piece => Unicode.trim (String.ofList piece)
  let brokers ← (entries.filter fun entry => !entry.isEmpty).mapM readBroker
  if brokers.isEmpty then .error .noBroker else .ok brokers

/-- The URL of an endpoint. Without `://` the value is a host, perhaps with a port and a path. -/
def readEndpoint (value : String) : Except SettingsFault Url :=
  let marked := (Text.afterMark? "://".toList value.toList).isSome
  match Url.parse (if marked then value else "http://" ++ value) with
  | .error error => .error (.url error)
  | .ok url =>
    if url.scheme ≠ "http" ∧ url.scheme ≠ "https" then .error (.scheme url.scheme)
    else if url.canBeBase && url.hasHost then .ok url
    else .error .missingHost

def readNumber (limit : Nat) (value : String) : Except SettingsFault Nat :=
  match Text.readNumeral limit value with
  | .ok number => .ok number
  | .error error => .error (.numeral error)

def readPositive (value : String) : Except SettingsFault Nat := do
  let number ← readNumber Text.max64 value
  if number = 0 then .error .zero else .ok number

def readBool (value : String) : Except SettingsFault Bool :=
  let lower := value.map Char.toLower
  if ["true", "1", "yes", "on"].contains lower then .ok true
  else if ["false", "0", "no", "off"].contains lower then .ok false
  else .error .notBool

def readLevel (value : String) : Except SettingsFault LogLevel :=
  match LogLevel.ofName? value with
  | some level => .ok level
  | none => .error .notLevel

/-- The trimmed value of a variable; a blank value is none. -/
def given (lookup : String → Option String) (name default : String) : String :=
  match lookup name with
  | some value =>
    let value := Unicode.trim value
    if value.isEmpty then default else value
  | none => default

def checked {α : Type} (lookup : String → Option String) (which : Variable)
    (reader : String → Except SettingsFault α) : Except SettingsError α :=
  let value := given lookup which.name which.default
  match reader value with
  | .ok result => .ok result
  | .error fault => .error ⟨which, value, fault⟩

/-- The settings that variables give. The path of the log file is taken as it is, unless it is
blank. -/
def read (lookup : String → Option String) : Except SettingsError Settings := do
  let brokers ← checked lookup .brokers readBrokers
  let schemaRegistry ← checked lookup .schemaRegistry readEndpoint
  let restProxy ← checked lookup .restProxy readEndpoint
  let commitMillis ← checked lookup .commitInterval readPositive
  let shards ← checked lookup .shards readPositive
  let retries ← checked lookup .sinkRetries (readNumber Text.max32)
  let backoff ← checked lookup .sinkBackoff (readNumber Text.max64)
  let resetState ← checked lookup .resetState readBool
  let logLevel ← checked lookup .logLevel readLevel
  return {
    brokers, schemaRegistry, restProxy, commitMillis, shards, resetState, logLevel
    inputTopic := given lookup "KAFKA_INPUT_TOPIC" "streams-plaintext-input"
    outputTopic := given lookup "KAFKA_OUTPUT_TOPIC" "streams-wordcount-output"
    applicationId := given lookup "WORDCOUNT_APPLICATION_ID" "wordcount-lambda-example"
    sinkRetry := ⟨retries, .ofMillis backoff⟩
    stateDir := ⟨given lookup "WORDCOUNT_STATE_DIR" "./wordcount-state"⟩
    logFile := ((lookup "WORDCOUNT_LOG_FILE").filter fun path => !(Unicode.trim path).isEmpty).map
      Path.mk }

def clientId (settings : Settings) : String := settings.applicationId ++ "-client"

def inputSubject (settings : Settings) : String := settings.inputTopic ++ "-value"

def outputSubject (settings : Settings) : String := settings.outputTopic ++ "-value"

def pipeline (settings : Settings) : PipelineSettings :=
  { PipelineSettings.standard with
    shards := settings.shards
    commitMillis := settings.commitMillis
    sinkRetry := settings.sinkRetry }

end Settings

end WordTally
