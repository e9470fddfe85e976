import WordTally.Json.Reader
import WordTally.Record
import WordTally.Sink

set_option autoImplicit false

namespace WordTally.Proxy

open Json

/-- The request for a consumer instance that reads from the first record on. -/
def createBody (instanceName : String) : Json :=
  Json.ofMembers [("name", .string instanceName), ("format", .string "avro"),
    ("auto.offset.reset", .string "earliest")]

def subscriptionBody (topic : String) : Json := .object [("topics", .array [.string topic])]

def createdConsumer : Shape (Option String) :=
  { name := "CreatedConsumer"
    blank := none
    fields := [⟨"base_uri", Option.isSome, fun _ node _ => node.text.map some, false⟩] }

def baseUri (body : Octets) : Except Fault String :=
  (Document.ofOctets body).read fun node => do
    required "base_uri" (← createdConsumer.read deepest node)

structure PartialRecord where
  key : Option (Option Json)
  value : Option Json
  partition : Option Nat
  offset : Option Nat

def consumedRecord : Shape PartialRecord :=
  { name := "ConsumedRecord"
    blank := ⟨none, none, none, none⟩
    fields := [
      ⟨"key", fun record => record.key.isSome, fun levels node record => do
        return { record with key := some (← node.optional (Node.value levels)) }, true⟩,
      ⟨"value", fun record => record.value.isSome, fun levels node record => do
        return { record with value := some (← node.value levels) }, true⟩,
      ⟨"partition", fun record => record.partition.isSome, fun _ node record => do
        return { record with partition := some (← node.natural Text.max32 "u32") }, false⟩,
      ⟨"offset", fun record => record.offset.isSome, fun _ node record => do
        return { record with offset := some (← node.natural Text.max64 "u64") }, false⟩] }

/-- A key that is no text is taken as its JSON text. -/
def keyText : Json → Option String
  | .null => none
  | .string key => some key
  | other => some other.text

/-- A record needs its position; a key or value left out is null. -/
def PartialRecord.complete (record : PartialRecord) : Except Fault RawRecord := do
  let partition ← required "partition" record.partition
  let offset ← required "offset" record.offset
  return ⟨(record.key.getD none).bind keyText, record.value.getD .null, partition, offset⟩

/-- All records of a batch; one that is malformed spoils them all. -/
def records (body : Octets) : Except Fault (List RawRecord) :=
  (Document.ofOctets body).read (Node.list deepest fun levels node => do
    (← consumedRecord.read levels node).complete)

/-- Keys are plain strings. -/
def keySchema : String := "\"string\""

def updateJson (update : Update) : Json :=
  Json.ofMembers [("key", .string update.word),
    ("value", Json.ofMembers [("word", .string update.word), ("count", Json.ofNat update.count)])]

/-- Without a registered schema id the whole schema travels with the request. -/
def produceBody (valueSchema : String) (schemaId : Option Nat) (updates : List Update) : Json :=
  let schema := match schemaId with
    | some id => ("value_schema_id", Json.ofNat id)
    | none => ("value_schema", .string valueSchema)
  Json.ofMembers [("key_schema", .string keySchema), schema,
    ("records", .array (updates.map updateJson))]

structure Produced where
  errorCode : Option Int
  error : Option String
  deriving DecidableEq, Repr

structure PartialProduced where
  errorCode : Option (Option Int)
  error : Option (Option String)

def producedOffset : Shape PartialProduced :=
  { name := "ProducedOffset"
    blank := ⟨none, none⟩
    fields := [
      ⟨"error_code", fun record => record.errorCode.isSome, fun _ node record => do
        let code ← node.optional (Node.integer (-2147483648) 2147483647 "i32")
        return { record with errorCode := some code }, true⟩,
      ⟨"error", fun record => record.error.isSome, fun _ node record => do
        return { record with error := some (← node.optional Node.text) }, true⟩] }

def PartialProduced.complete (record : PartialProduced) : Produced :=
  ⟨record.errorCode.getD none, record.error.getD none⟩

def produceResponse : Shape (Option (List Produced)) :=
  { name := "ProduceResponse"
    blank := none
    fields := [⟨"offsets", Option.isSome, fun levels node _ => do
      let entries ← node.list levels fun levels node => do
        return (← producedOffset.read levels node).complete
      return some entries, true⟩] }

def produced (body : Octets) : Except Fault (List Produced) :=
  (Document.ofOctets body).read fun node => do
    return (← produceResponse.read deepest node).getD []

def retriableCode : Int := 2

def Produced.message (entry : Produced) (code : Int) : String :=
  entry.error.getD ("error code " ++ toString code)

/-- The fate of a request: any other code than the retriable one rejects it, wherever it stands;
otherwise the first retriable entry makes it worth a retry. -/
def verdict : List Produced → Option SinkError
  | [] => none
  | entry :: rest =>
    match entry.errorCode with
    | none => verdict rest
    | some code =>
      if code = retriableCode then
        match verdict rest with
        | some (.rejected text) => some (.rejected text)
        | _ => some (.transient (entry.message code))
      else some (.rejected (entry.message code))

end WordTally.Proxy
