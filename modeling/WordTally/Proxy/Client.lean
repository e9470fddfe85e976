import WordTally.Http.ErrorBody
import WordTally.Http.Network
import WordTally.Proxy.Wire
import WordTally.Schema
import WordTally.Source
import WordTally.Url.Parser

set_option autoImplicit false

namespace WordTally

inductive ProxyError where
  /-- No request can be sent to anyone. -/
  | noClient (text : String)
  | unreachable (url : Url) (text : String)
  | rejected (status : Nat) (text : String)
  deriving DecidableEq, Repr

def ProxyError.message : ProxyError → String
  | .noClient text => "failed to build http client: " ++ text
  | .unreachable url text => "rest proxy unreachable at " ++ url.text ++ ": " ++ text
  | .rejected status text => "rest proxy returned " ++ toString status ++ ": " ++ text

structure Proxy where
  base : Url
  /-- How many milliseconds pass after an empty poll. -/
  idleMillis : Nat

namespace Proxy

open Http Json

def mediaType : String := "application/vnd.kafka.v2+json"

def avroMediaType : String := "application/vnd.kafka.avro.v2+json"

/-- The status of an error, and its message if the body holds one. -/
def errorText (status : Status) (body : Octets) : String :=
  match errorMessage? body with
  | some message => status.text ++ ": " ++ message
  | none => status.text

/-- Lists the topics; a proxy that can be used answers with success. -/
def checkReachable (proxy : Proxy) : Talk (Except ProxyError Unit) := do
  match ← Network.ask ⟨.get, proxy.base.join ["topics"], none, some mediaType, none⟩ with
  | .error error => return .error (.unreachable proxy.base error.message)
  | .ok response =>
    if response.status.isSuccess then return .ok ()
    else return .error (.rejected response.status.code
      (errorText response.status response.bodyOrEmpty))

structure Consumer where
  url : Url
  idleMillis : Nat
  closed : Bool

def unavailable (error : TransportError) : SourceError := .unavailable error.message

def statusError (status : Status) (body : Octets) : SourceError :=
  if status.isTransient then .unavailable (errorText status body)
  else .fatal (errorText status body)

/-- Where the instance is found after the answer to its creation. One that exists already is
reused. -/
def instanceUrl (proxy : Proxy) (group name : String) (response : Response) :
    Talk (Except SourceError Url) := do
  if response.status.isSuccess then
    match response.body with
    | .error error => return .error (unavailable error)
    | .ok body =>
      match baseUri body with
      | .error fault => return .error (.fatal ("consumer response: " ++ fault.message))
      | .ok uri =>
        match Url.parse uri with
        | .error error => return .error (.fatal ("consumer base_uri: " ++ error.message))
        | .ok url => return .ok url
  else if response.status.code = 409 then
    Network.say (.info ("consumer instance " ++ group ++ "/" ++ name ++ " exists; reusing it"))
    return .ok (proxy.base.join ["consumers", group, "instances", name])
  else return .error (statusError response.status response.bodyOrEmpty)

/-- Creates an instance in a group and subscribes it to a topic. -/
def subscribe (proxy : Proxy) (group name topic : String) : Talk (Except SourceError Consumer) := do
  let creation : Request := ⟨.post, proxy.base.join ["consumers", group], some mediaType,
    some mediaType, some (createBody name)⟩
  match ← Network.ask creation with
  | .error error => return .error (unavailable error)
  | .ok response =>
    match ← proxy.instanceUrl group name response with
    | .error error => return .error error
    | .ok url =>
      let subscription : Request := ⟨.post, url.join ["subscription"], some mediaType, none,
        some (subscriptionBody topic)⟩
      match ← Network.ask subscription with
      | .error error => return .error (unavailable error)
      | .ok response =>
        if response.status.isSuccess then
          Network.say (.info ("consumer " ++ url.text ++ " subscribed to " ++ topic))
          return .ok ⟨url, proxy.idleMillis, false⟩
        else return .error (statusError response.status response.bodyOrEmpty)

namespace Consumer

/-- What an answer to a poll delivers: all records of its body, or none of them. -/
def delivered (response : Response) : Except SourceError (List RawRecord) :=
  match response.body with
  | .error error => .error (unavailable error)
  | .ok body =>
    if response.status.isSuccess then
      match Proxy.records body with
      | .ok records => .ok records
      | .error fault => .error (.fatal ("records response: " ++ fault.message))
    else .error (statusError response.status body)

/-- Asks for records. A closed consumer is at its end and asks nobody. -/
def poll (consumer : Consumer) : Talk Poll := do
  if consumer.closed then return .endOfStream
  match ← Network.send ⟨.get, consumer.url.join ["records"], none, some avroMediaType, none⟩ with
  | .answered response =>
    match delivered response with
    | .ok records =>
      if !records.isEmpty then
        Network.say (.debug ("polled " ++ toString records.length ++ " records from " ++
          consumer.url.text))
      return .batch records
    | .error error => return .failed error
  | .failed error => return .failed (unavailable error)
  | .interrupted signal _ =>
    Network.say (.info ("received " ++ signal ++ "; stopping after the current record"))
    return .interrupted

/-- Removes the instance, once. An instance that is gone already counts as removed. -/
def close (consumer : Consumer) : Talk (Option SourceError × Consumer) := do
  if consumer.closed then return (none, consumer)
  let closed := { consumer with closed := true }
  match ← Network.ask ⟨.delete, consumer.url, some mediaType, none, none⟩ with
  | .error error => return (some (unavailable error), closed)
  | .ok response =>
    if response.status.isSuccess || response.status.code = 404 then
      Network.say (.info ("consumer " ++ consumer.url.text ++ " closed"))
      return (none, closed)
    else return (some (statusError response.status response.bodyOrEmpty), closed)

end Consumer

structure Topic where
  url : Url
  /-- The registered schema of the values. -/
  schemaId : Option Nat

def topic (proxy : Proxy) (name : String) (schemaId : Option Nat) : Topic :=
  ⟨proxy.base.join ["topics", name], schemaId⟩

namespace Topic

/-- What an answer to a request with updates says about them. The proxy took the request when its
answer is a success, even if the rest of it cannot be read. -/
def settle (topic : Topic) (response : Response) : Talk (Option SinkError) := do
  match response.body with
  | .error error => return some (.transient error.message)
  | .ok body =>
    if !response.status.isSuccess then
      let message := errorText response.status body
      return some (if response.status.isTransient then .transient message else .rejected message)
    else match produced body with
      | .error fault =>
        Network.say (.warn ("unreadable produce response from " ++ topic.url.text ++ " (" ++
          response.status.text ++ "): " ++ fault.message))
        return none
      | .ok entries =>
        match verdict entries with
        | some (.transient message) =>
          Network.say (.warn ("rest proxy reported retriable produce error: " ++ message))
          return some (.transient message)
        | other => return other

/-- Publishes updates; without any there is nothing to ask. -/
def publish (topic : Topic) (updates : List Update) : Talk (Option SinkError) := do
  if updates.isEmpty then return none
  let request : Request := ⟨.post, topic.url, some avroMediaType, some mediaType,
    some (produceBody RecordSchema.wordCount.text topic.schemaId updates)⟩
  match ← Network.ask request with
  | .error error => return some (.transient error.message)
  | .ok response => topic.settle response

end Topic

end Proxy

end WordTally
