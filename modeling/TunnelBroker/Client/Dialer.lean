import TunnelBroker.Client

/-! Connections through the tunnel of one organization. -/

set_option autoImplicit false

namespace TunnelBroker

structure Dialer where
  client : Client
  organization : String
  deriving DecidableEq

def Client.dialer (client : Client) (organization : String) :
    Host.Task (Except Failure Dialer) := do
  return (← client.establishTunnel organization).map fun _ => ⟨client, organization⟩

namespace Dialer

def command (dialer : Dialer) (address : String) (timeout : Option Duration) : Command :=
  .connect ⟨some dialer.organization, address, timeout⟩

def timeoutFailure (dialer : Dialer) (address : String) : Failure :=
  .timeout ("connect " ++ address ++ " via " ++ dialer.organization)

/-- The daemon's own bound on the dial runs inside the client's bound on the exchange. -/
def limit? (dialer : Dialer) (timeout : Duration) : Option Duration :=
  timeout.add? dialer.client.requestTimeout

/--
Connect within `limit`, if there is one. The connection carries `input` one way, and what
follows the reply the other way.
-/
def connectWithin (dialer : Dialer) (address : String) (input : Bytes)
    (timeout limit : Option Duration) : Host.Task (Except Client.Fault Incoming) := do
  match ← dialer.client.exchange (dialer.command address timeout) input limit with
  | none =>
    return .error (if limit.isSome then .failed (dialer.timeoutFailure address) else .stuck)
  | some (.error failure) => return .error (.failed failure)
  | some (.ok (.ok, rest)) => return .ok rest
  | some (.ok (reply, _)) => return .error (.failed (Client.unexpected reply))

def connect (dialer : Dialer) (address : String) (input : Bytes) (timeout : Option Duration) :
    Host.Task (Except Client.Fault Incoming) :=
  match timeout with
  | none => dialer.connectWithin address input none none
  | some span =>
    match dialer.limit? span with
    | none => .done (.error .outOfTime)
    | some limit => dialer.connectWithin address input timeout (some limit)

def dial (dialer : Dialer) (address : String) (input : Bytes) :
    Host.Task (Except Client.Fault Incoming) :=
  dialer.connect address input dialer.client.dialTimeout

def dialWithin (dialer : Dialer) (address : String) (input : Bytes) (timeout : Duration) :
    Host.Task (Except Client.Fault Incoming) :=
  dialer.connect address input (some timeout)

end Dialer

end TunnelBroker
