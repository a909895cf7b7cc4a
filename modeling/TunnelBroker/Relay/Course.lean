import TunnelBroker.Relay

/-!
A relay call by call. Each direction reads from one stream and writes to the other, and the two
directions go on in whatever order their calls return.
-/

set_option autoImplicit false

namespace TunnelBroker

namespace Incoming

inductive Got where
  | bytes (bytes : Bytes) (rest : Incoming)
  | nothing (ending : Ending)

def read (size : Nat) (incoming : Incoming) : Got :=
  match incoming.chunks with
  | [] => .nothing incoming.ending
  | chunk :: chunks =>
    if chunk.isEmpty then .nothing .closed
    else .bytes (chunk.take size) (unread (chunk.drop size) ⟨chunks, incoming.ending⟩)

end Incoming

/-- Write once: how many bytes are taken, and the writer then. A write that takes none fails. -/
def Outgoing.writeOnce (outgoing : Outgoing) (bytes : Bytes) : Option (Nat × Outgoing) :=
  let offered := outgoing.step.elim bytes.length (min bytes.length)
  let taken := outgoing.room.elim offered (min offered)
  if taken = 0 then none
  else some (taken, { outgoing with room := outgoing.room.map (· - taken) })

namespace Relay

inductive Stage where
  | reading
  /-- Of what was read last, `taken` has been written and `rest` has not. -/
  | writing (taken rest : Bytes)
  | closing
  | closed
  | stuck
  deriving DecidableEq, Repr

structure Progress where
  stage : Stage
  copied : Nat
  actions : List Action
  deriving DecidableEq, Repr

def Progress.start : Progress := ⟨.reading, 0, []⟩

structure Direction where
  source : Incoming
  sink : Outgoing
  progress : Progress

namespace Direction

def start (source : Incoming) (sink : Outgoing) : Direction := ⟨source, sink, .start⟩

def step (direction : Direction) : Direction :=
  let ⟨source, sink, stage, copied, actions⟩ := direction
  match stage with
  | .reading =>
    match source.read bufferSize with
    | .bytes bytes rest => ⟨rest, sink, .writing [] bytes, copied, actions ++ [.read]⟩
    | .nothing .silent => ⟨source, sink, .stuck, copied, actions ++ [.read]⟩
    | .nothing _ => ⟨source, sink, .closing, copied, actions ++ [.read]⟩
  | .writing taken rest =>
    let size := taken.length + rest.length
    match sink.writeOnce rest with
    | none => ⟨source, sink, .closing, copied, actions ++ [.write taken size]⟩
    | some (count, sink) =>
      let taken := taken ++ rest.take count
      if count < rest.length then
        ⟨source, sink, .writing taken (rest.drop count), copied, actions⟩
      else ⟨source, sink, .reading, copied + size, actions ++ [.write taken size]⟩
  | .closing => ⟨source, sink, .closed, copied, actions ++ [.shutdown]⟩
  | .closed => direction
  | .stuck => direction

end Direction

inductive Side where
  | outbound
  | inbound
  deriving DecidableEq, Repr

def Transfer.along (transfer : Transfer) : Side → List Action
  | .outbound => transfer.outbound
  | .inbound => transfer.inbound

structure Course where
  client : Stream
  farEnd : Stream
  outbound : Progress
  inbound : Progress

namespace Course

def start (client farEnd : Stream) : Course := ⟨client, farEnd, .start, .start⟩

def direction (course : Course) : Side → Direction
  | .outbound => ⟨course.client.incoming, course.farEnd.outgoing, course.outbound⟩
  | .inbound => ⟨course.farEnd.incoming, course.client.outgoing, course.inbound⟩

def step (course : Course) (side : Side) : Course :=
  let ⟨source, sink, progress⟩ := (course.direction side).step
  match side with
  | .outbound =>
    { course with
      client := { course.client with incoming := source }
      farEnd := { course.farEnd with outgoing := sink }
      outbound := progress }
  | .inbound =>
    { course with
      farEnd := { course.farEnd with incoming := source }
      client := { course.client with outgoing := sink }
      inbound := progress }

/-- Let the directions go on in the order of a schedule. -/
def run (course : Course) (schedule : List Side) : Course :=
  schedule.foldl step course

end Course

end Relay

end TunnelBroker
