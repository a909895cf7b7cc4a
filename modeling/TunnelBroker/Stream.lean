import TunnelBroker.Text.Utf8

/-!
Byte streams. What comes in is a list of chunks and a way to end; what goes out is
accepted up to a limit. An empty chunk marks the end of the input, as an empty read does.
-/

set_option autoImplicit false

namespace TunnelBroker

inductive Ending where
  | closed
  | failed
  | silent
  deriving DecidableEq, Repr

structure Incoming where
  chunks : List Bytes
  ending : Ending
  deriving DecidableEq, Repr

structure Outgoing where
  /-- How many bytes one write takes at most. -/
  step : Option Nat
  /-- How many bytes are taken before writes fail. -/
  room : Option Nat
  deriving DecidableEq, Repr

structure Stream where
  incoming : Incoming
  outgoing : Outgoing
  deriving DecidableEq, Repr

namespace Incoming

def ofBytes (bytes : Bytes) (ending : Ending) : Incoming :=
  ⟨if bytes.isEmpty then [] else [bytes], ending⟩

def unread (bytes : Bytes) (incoming : Incoming) : Incoming :=
  if bytes.isEmpty then incoming else { incoming with chunks := bytes :: incoming.chunks }

def bytes (incoming : Incoming) : Bytes :=
  (incoming.chunks.takeWhile (!·.isEmpty)).flatten

def finish (incoming : Incoming) : Ending :=
  if incoming.chunks.any (·.isEmpty) then .closed else incoming.ending

end Incoming

namespace Outgoing

def unlimited : Outgoing := ⟨none, none⟩

def capacity (outgoing : Outgoing) (size : Nat) : Nat :=
  if outgoing.step = some 0 then 0 else outgoing.room.elim size (min size)

/-- Write `bytes` out: those that are taken, whether that is all of them, and the writer then. -/
def write (outgoing : Outgoing) (bytes : Bytes) : Bytes × Bool × Outgoing :=
  let taken := outgoing.capacity bytes.length
  (bytes.take taken, taken == bytes.length,
    { outgoing with room := outgoing.room.map (· - taken) })

end Outgoing

end TunnelBroker
