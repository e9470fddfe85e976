import WordTally.Http.Network
import WordTally.Json.Printer
import WordTally.Text.Numeral
import WordTally.Text.Split

/-
A rehearsed network, written down as a JSON object: `http` lists those who answer requests and `tcp`
those who accept connections, both as `host:port`, and `answers` what is answered, in that order.
-/

set_option autoImplicit false

namespace WordTally.Rehearsal

open Http

def silence : Network := ⟨[], [], [], [], [], []⟩

def items (json : Json) (name : String) : List Json :=
  match json.get? name with
  | some (.array items) => items
  | _ => []

def peer? : Json → Option (String × Nat)
  | .string text =>
    match Text.cutAtLast? ':' text.toList with
    | none => none
    | some (host, port) =>
      match Text.readNumeral Text.max16 (String.ofList port) with
      | .ok port => some (String.ofList host, port)
      | .error _ => none
  | _ => none

/-- The status of an answer, which has to have three digits. -/
def status (json : Json) : Status :=
  match json.get? "status" with
  | some (.number (.integer code)) => if 100 ≤ code ∧ code < 1000 then ⟨code.toNat⟩ else ⟨200⟩
  | _ => ⟨200⟩

/-- What is answered: `json` or `text` is a body, `drop` closes the connection, and `signal` names a
signal that comes instead of an answer. -/
def answer (json : Json) : Answer :=
  match json.get? "drop", json.get? "signal", json.get? "json", json.get? "text" with
  | some (.bool true), _, _, _ => .drop
  | _, some (.string name), _, _ => .signal name
  | _, _, some body, _ => .respond (status json) body.text.toUTF8.toList
  | _, _, none, some (.string body) => .respond (status json) body.toUTF8.toList
  | _, _, _, _ => .respond (status json) []

def network (json : Json) : Network :=
  { silence with
    httpPeers := (items json "http").filterMap peer?
    tcpPeers := (items json "tcp").filterMap peer?
    answers := (items json "answers").map fun item => ⟨answer item, none⟩ }

end WordTally.Rehearsal
