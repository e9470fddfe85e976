import WordTally.Http.Status
import WordTally.Json.Lexeme
import WordTally.Log
import WordTally.Url.Basic

/-
Requests and what becomes of them. The peers answer from one list, in the order in which requests
arrive, whichever peer they go to; when the list is used up they answer with an empty object.
-/

set_option autoImplicit false

namespace WordTally.Http

open Json (Octets)

inductive Method where
  | get
  | post
  | delete
  deriving DecidableEq, Repr

def Method.name : Method → String
  | .get => "GET"
  | .post => "POST"
  | .delete => "DELETE"

structure Request where
  method : Method
  url : Url
  contentType : Option String
  /-- Nothing when any type is welcome. -/
  accept : Option String
  body : Option Json

inductive Answer where
  | respond (status : Status) (body : Octets)
  /-- The body ends before its declared length. -/
  | truncate (status : Status)
  /-- The connection is closed without an answer. -/
  | drop
  /-- The request is never answered; meanwhile the process is asked to stop by a signal of that
  name. -/
  | signal (name : String)

/-- An answer, and the path of a file that appears when the request arrives. -/
structure Scripted where
  answer : Answer
  file : Option String

inductive TransportError where
  /-- The URL is none of the kind that requests can be sent to. -/
  | notHttp (url : Url)
  | noAnswer (url : Url)
  | brokenBody (url : Url)
  deriving DecidableEq, Repr

def TransportError.message : TransportError → String
  | .notHttp url => "builder error for url (" ++ url.text ++ ")"
  | .noAnswer url => "error sending request for url (" ++ url.text ++ ")"
  | .brokenBody url => "error decoding response body for url (" ++ url.text ++ ")"

/-- An answer that begins well: its status, and its body if that can be read to its end. -/
structure Response where
  status : Status
  body : Except TransportError Octets

namespace Response

/-- The body, or nothing where it breaks off. -/
def bodyOrEmpty (response : Response) : Octets :=
  match response.body with
  | .ok body => body
  | .error _ => []

end Response

inductive Exchange where
  | answered (response : Response)
  | failed (error : TransportError)
  | interrupted (signal : String) (error : TransportError)

/-- Names and ports of those who answer, what they still have to say, and what has arrived. -/
structure Network where
  /-- Who answers requests. -/
  httpPeers : List (String × Nat)
  /-- Who accepts connections. -/
  tcpPeers : List (String × Nat)
  answers : List Scripted
  /-- Requests that arrived, the oldest first. -/
  requests : List Request
  /-- Files that have appeared, the oldest first. -/
  files : List String
  log : List LogLine

abbrev Talk := StateM Network

namespace Network

def say (line : LogLine) : Talk Unit :=
  modify fun network => { network with log := network.log ++ [line] }

def reaches (network : Network) (url : Url) : Bool :=
  match url.authority, url.effectivePort with
  | some authority, some port =>
    url.scheme = "http" && network.httpPeers.contains (authority.host.text, port)
  | _, _ => false

/-- What peers do once their answers are used up. -/
def lastAnswer : Scripted := ⟨.respond ⟨200⟩ "\x7b\x7d".toUTF8.toList, none⟩

def Answer.exchange (url : Url) : Answer → Exchange
  | .respond status body => .answered ⟨status, .ok (if status.isBodyless then [] else body)⟩
  | .truncate status =>
    .answered ⟨status, if status.isBodyless then .ok [] else .error (.brokenBody url)⟩
  | .drop => .failed (.noAnswer url)
  | .signal name => .interrupted name (.noAnswer url)

/-- Sends a request. Credentials do not show in the URL of an error. -/
def send (request : Request) : Talk Exchange := do
  let url := request.url.withoutCredentials
  if !url.hasHost || (url.scheme ≠ "http" && url.scheme ≠ "https") then
    return .failed (.notHttp url)
  let network ← get
  if !network.reaches url then
    return .failed (.noAnswer url)
  let scripted := network.answers.head?.getD lastAnswer
  set { network with
    answers := network.answers.tail
    requests := network.requests ++ [{ request with url := url }]
    files := network.files ++ scripted.file.toList }
  return Answer.exchange url scripted.answer

def ask (request : Request) : Talk (Except TransportError Response) := do
  match ← send request with
  | .answered response => return .ok response
  | .failed error | .interrupted _ error => return .error error

end Network

end WordTally.Http
