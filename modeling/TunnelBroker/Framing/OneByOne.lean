import TunnelBroker.Framing

/-! Lines read one byte at a time, so that nothing behind the line feed is taken off the stream. -/

set_option autoImplicit false

namespace TunnelBroker

def Incoming.next : Incoming → Except Ending UInt8 × Incoming
  | ⟨[], ending⟩ => (.error ending, ⟨[], ending⟩)
  | ⟨[] :: chunks, ending⟩ => (.error .closed, ⟨chunks, ending⟩)
  | ⟨(b :: chunk) :: chunks, ending⟩ => (.ok b, Incoming.unread chunk ⟨chunks, ending⟩)

def Incoming.skip : Nat → Incoming → Incoming
  | 0, incoming => incoming
  | count + 1, incoming => skip count incoming.next.2

namespace Framing

/-- What the end of the stream makes of a line without a line feed. -/
def Line.atEnd : Ending → Bytes → Incoming → Line
  | .closed, line, rest => .read line false rest
  | .failed, _, _ => .failed
  | .silent, _, _ => .waiting

/-- Read bytes onto `seen`, up to a line feed, with at most `room` of them before it. -/
def readOneByOne (room : Nat) (seen : Bytes) (incoming : Incoming) : Line :=
  match incoming.next with
  | (.error ending, rest) => .atEnd ending seen rest
  | (.ok b, rest) =>
    if b = lineFeed then .read seen true rest
    else
      match room with
      | 0 => .tooLong
      | room + 1 => readOneByOne room (seen ++ [b]) rest

end Framing

end TunnelBroker
