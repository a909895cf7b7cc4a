import TunnelBroker.Stream

/-!
The relay between a client and a far end. Each direction copies what it reads until its
source ends or a write fails, and then closes its destination.
-/

set_option autoImplicit false

namespace TunnelBroker.Relay

def bufferSize : Nat := 16384

inductive Action where
  | read
  /-- Write a read's bytes; `taken` of them arrive, and `size` were read. -/
  | write (taken : Bytes) (size : Nat)
  | shutdown
  deriving DecidableEq, Repr

def pieces (size : Nat) (bytes : Bytes) : List Bytes :=
  if bytes.isEmpty || size = 0 then []
  else bytes.take size :: pieces size (bytes.drop size)
termination_by bytes.length
decreasing_by
  cases bytes with
  | nil => simp_all
  | cons b rest =>
    simp_all
    omega

/-- What successive reads give before the input ends. -/
def reads (incoming : Incoming) : List Bytes :=
  (incoming.chunks.takeWhile (!·.isEmpty)).flatMap (pieces bufferSize)

def pumpReads (ending : Ending) : List Bytes → Outgoing → List Action
  | [], _ => .read :: if ending = .silent then [] else [.shutdown]
  | bytes :: rest, outgoing =>
    let (taken, whole, outgoing) := outgoing.write bytes
    .read :: .write taken bytes.length ::
      if whole then pumpReads ending rest outgoing else [.shutdown]

def pump (incoming : Incoming) (outgoing : Outgoing) : List Action :=
  pumpReads incoming.finish (reads incoming) outgoing

/-! ### What a direction amounts to -/

def delivered (actions : List Action) : Bytes :=
  actions.flatMap fun
    | .write taken _ => taken
    | _ => []

def count : List Action → Nat
  | [] => 0
  | .write taken size :: rest => (if taken.length = size then size else 0) + count rest
  | _ :: rest => count rest

def readCalls (actions : List Action) : Nat :=
  actions.countP (· = .read)

def shutdowns (actions : List Action) : Nat :=
  actions.countP (· = .shutdown)

def isFinished (actions : List Action) : Bool :=
  actions.contains .shutdown

/--
The far end of a connection: how it takes bytes, and what it sends once it knows what
the other direction does.
-/
structure FarEnd where
  outgoing : Outgoing
  incoming : List Action → Incoming

/-- A far end that does not look at what it receives. -/
def FarEnd.ofStream (stream : Stream) : FarEnd :=
  ⟨stream.outgoing, fun _ => stream.incoming⟩

structure Transfer where
  outbound : List Action
  inbound : List Action
  deriving DecidableEq, Repr

def Transfer.isFinished (transfer : Transfer) : Bool :=
  Relay.isFinished transfer.outbound && Relay.isFinished transfer.inbound

def relay (client : Stream) (farEnd : FarEnd) : Transfer :=
  let outbound := pump client.incoming farEnd.outgoing
  ⟨outbound, pump (farEnd.incoming outbound) client.outgoing⟩

end TunnelBroker.Relay
