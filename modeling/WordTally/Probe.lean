import WordTally.Http.Network
import WordTally.Text.Numeral
import WordTally.Text.Split

set_option autoImplicit false

namespace WordTally

inductive ConnectFault where
  | noPort
  | badPort
  | refused
  deriving DecidableEq, Repr

def ConnectFault.message : ConnectFault → String
  | .noPort => "invalid socket address"
  | .badPort => "invalid port value"
  | .refused => "Connection refused (os error 111)"

inductive ProbeError where
  | noBrokers
  /-- Each broker with its fault. -/
  | unreachable (faults : List (String × ConnectFault))
  deriving DecidableEq, Repr

def ProbeError.message : ProbeError → String
  | .noBrokers => "no broker addresses configured"
  | .unreachable faults =>
    let texts := faults.map fun fault => fault.1 ++ ": " ++ fault.2.message
    "no broker reachable: " ++ "; ".intercalate texts

namespace Probe

open Http

/-- A try to connect to `host:port`. -/
def connect (network : Network) (broker : String) : Except ConnectFault Unit :=
  match Text.cutAtLast? ':' broker.toList with
  | none => .error .noPort
  | some (host, port) =>
    match Text.readNumeral Text.max16 (String.ofList port) with
    | .error _ => .error .badPort
    | .ok port =>
      if network.tcpPeers.contains (String.ofList host, port) then .ok () else .error .refused

/-- The first of some brokers that accepts a connection, or the faults of all of them. -/
def firstReachable : List String → Talk (Except (List (String × ConnectFault)) String)
  | [] => return .error []
  | broker :: rest => do
    match connect (← get) broker with
    | .ok _ => return .ok broker
    | .error fault =>
      Network.say (.debug ("broker " ++ broker ++ " refused: " ++ fault.message))
      match ← firstReachable rest with
      | .ok found => return .ok found
      | .error faults => return .error ((broker, fault) :: faults)

def run (brokers : List String) : Talk (Except ProbeError String) := do
  if brokers.isEmpty then return .error .noBrokers
  match ← firstReachable brokers with
  | .ok broker =>
    Network.say (.info ("broker " ++ broker ++ " reachable"))
    return .ok broker
  | .error faults => return .error (.unreachable faults)

end Probe

end WordTally
