import TunnelBroker.Command
import TunnelBroker.Framing
import TunnelBroker.Network.Dial
import TunnelBroker.Registry
import TunnelBroker.Reply

/-!
Control connections. A connection carries one command and gets one reply line; after a
successful `connect` it carries the relayed bytes.
-/

set_option autoImplicit false

namespace TunnelBroker

structure Daemon where
  process : UInt32
  region : String
  dialTimeout : Option Duration
  deriving DecidableEq

namespace Daemon

structure Served where
  /-- What the client was sent of the reply line. -/
  reply : Bytes
  transfer : Option Relay.Transfer
  ended : Option (Except Failure Unit)

namespace Served

def sent (served : Served) : Bytes :=
  served.reply ++ served.transfer.elim [] fun transfer => Relay.delivered transfer.inbound

end Served

def tooLong : Failure := .protocol "command line too long"

def readFailed : Failure := .io "connection reset by peer"

def writeFailed : Failure := .io "broken pipe"

def replyBytes (reply : Reply) : Bytes :=
  Text.encode reply.line ++ [Framing.lineFeed]

/--
Write a reply as the last thing, ending with `result` if that works. A stream that is served holds
nothing back that it has taken, so nothing is flushed here or before a relay begins.
-/
def finish (outgoing : Outgoing) (reply : Reply) (result : Except Failure Unit) : Served :=
  let (taken, whole, _) := outgoing.write (replyBytes reply)
  ⟨taken, none, some (if whole then result else .error writeFailed)⟩

/-- Tell the client of a failure that is no failure of the connection. -/
def reject (outgoing : Outgoing) (failure : Failure) : Served :=
  finish outgoing (.ofFailure failure) (.ok ())

/-- A line that can't be read is the connection's failure, whether or not the client is told. -/
def unreadable (outgoing : Outgoing) (failure : Failure) : Served :=
  let (taken, _, _) := outgoing.write (replyBytes (.ofFailure failure))
  ⟨taken, none, some (.error failure)⟩

def dialTarget (daemon : Daemon) (target : Target) : Task (Except Failure Relay.FarEnd) := do
  let timeout := target.timeout.or daemon.dialTimeout
  match target.organization with
  | none => Network.host.dial target.address timeout
  | some slug =>
    match ← tunnelFor slug with
    | .error failure => return .error failure
    | .ok tunnel => (Network.tunnel tunnel.session).dial target.address timeout

/-- Relay between the client, whose further bytes are `rest`, and the far end. -/
def relay (rest : Incoming) (outgoing : Outgoing) (farEnd : Relay.FarEnd) : Served :=
  let (taken, whole, outgoing) := outgoing.write (replyBytes .ok)
  if whole then
    let transfer := Relay.relay ⟨rest, outgoing⟩ farEnd
    ⟨taken, some transfer, if transfer.isFinished then some (.ok ()) else none⟩
  else ⟨taken, none, some (.error writeFailed)⟩

def perform (daemon : Daemon) (rest : Incoming) (outgoing : Outgoing) :
    Command → Task Served
  | .ping => .done (finish outgoing (.pong daemon.process) (.ok ()))
  | .kill =>
    -- A client that does not take the reply ends the connection before the daemon is told.
    let served := finish outgoing .ok (.ok ())
    match served.ended with
    | some (.ok _) => do
      let _ ← ask .stop
      return served
    | _ => .done served
  | .establish slug => do
    match ← establish daemon.region slug with
    | .ok _ => return finish outgoing .ok (.ok ())
    | .error failure => return reject outgoing failure
  | .connect target => do
    match ← daemon.dialTarget target with
    | .ok farEnd => return relay rest outgoing farEnd
    | .error failure => return reject outgoing failure

def serve (daemon : Daemon) (client : Stream) : Task Served :=
  match Framing.readCommand client.incoming with
  | .waiting => .done ⟨[], none, none⟩
  | .failed => .done (unreadable client.outgoing readFailed)
  | .tooLong => .done (unreadable client.outgoing tooLong)
  | .read line _ rest =>
    match Command.parse (Text.decodeLossy line) with
    | .error failure => .done (reject client.outgoing failure)
    | .ok command => daemon.perform rest client.outgoing command

end Daemon

end TunnelBroker
