import TunnelBroker.Command
import TunnelBroker.Framing
import TunnelBroker.Host
import TunnelBroker.Reply

/-! Clients of the daemon: one request on one connection, and its reply. -/

set_option autoImplicit false

namespace TunnelBroker

structure Client where
  socket : Path
  requestTimeout : Duration
  dialTimeout : Option Duration
  deriving DecidableEq

namespace Client

def defaultRequestTimeout : Duration := .ofMilliseconds 10000

def ofSocket (socket : Path) : Client := ⟨socket, defaultRequestTimeout, none⟩

def unreachable (socket : Path) (fault : FileFault) : Failure :=
  .agent ("can't connect to agent at " ++ socket.quoted ++ ": " ++ fault.message)

/-- Read the reply, and tell what follows it; there is none while the line has not ended. -/
def readReply (incoming : Incoming) : Option (Except Failure (Reply × Incoming)) :=
  match Framing.readReply incoming with
  | .waiting => none
  | .failed => some (.error (.io "Connection reset by peer (os error 104)"))
  | .tooLong => some (.error (.agent "reply line too long"))
  | .read _ false _ => some (.error (.agent "agent closed the connection"))
  | .read line true rest =>
    some ((Reply.parse (Text.decodeLossy line)).map fun reply => (reply, rest))

def commandBytes (command : Command) : Bytes :=
  Text.encode command.line ++ [Framing.lineFeed]

def exchange (client : Client) (command : Command) (input : Bytes) (limit : Option Duration) :
    Host.Task (Option (Except Failure (Reply × Incoming))) := do
  match ← Host.ask (.contact client.socket (commandBytes command ++ input) limit) with
  | .refused fault => return some (.error (unreachable client.socket fault))
  | .reached incoming =>
    return (readReply incoming).map fun answer => do
      let (reply, rest) ← answer
      return (← reply.toResult, rest)

def request (client : Client) (command : Command) : Host.Task (Except Failure Reply) := do
  match ← client.exchange command [] (some client.requestTimeout) with
  | none => return .error (.timeout (command.name ++ " request to agent"))
  | some answer => return answer.map (·.1)

def unexpected (reply : Reply) : Failure :=
  .agent ("unexpected reply: " ++ reply.line)

def ping (client : Client) : Host.Task (Except Failure UInt32) := do
  match ← client.request .ping with
  | .error failure => return .error failure
  | .ok (.pong process) => return .ok process
  | .ok reply => return .error (unexpected reply)

def kill (client : Client) : Host.Task (Except Failure Unit) := do
  return (← client.request .kill).map fun _ => ()

def establishTunnel (client : Client) (organization : String) :
    Host.Task (Except Failure Unit) := do
  match ← client.request (.establish organization) with
  | .error failure => return .error failure
  | .ok .ok => return .ok ()
  | .ok reply => return .error (unexpected reply)

inductive Fault where
  | failed (failure : Failure)
  /-- A span or a point of time is beyond what can be counted. -/
  | outOfTime
  /-- Nothing more comes, and nothing bounds the wait. -/
  | stuck
  deriving DecidableEq, Repr

end Client

end TunnelBroker
