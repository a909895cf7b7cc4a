import TunnelBroker.Stream

/-! Lines on a stream, read without losing a byte of what follows them. -/

set_option autoImplicit false

namespace TunnelBroker.Framing

def lineFeed : UInt8 := 10

/-- A command line may have this many bytes, its line feed included. -/
def commandLimit : Nat := 4096

inductive Cut where
  | ended (line rest : Bytes)
  | whole (line : Bytes)
  | tooLong

def Cut.cons (b : UInt8) : Cut → Cut
  | ended line rest => ended (b :: line) rest
  | whole line => whole (b :: line)
  | tooLong => tooLong

/-- Cut a chunk behind the first line feed, with at most `room` bytes before it. -/
def cut (room : Nat) : Bytes → Cut
  | [] => .whole []
  | b :: rest =>
    if b = lineFeed then .ended [] rest
    else
      match room with
      | 0 => .tooLong
      | room + 1 => (cut room rest).cons b

inductive Line where
  | read (line : Bytes) (terminated : Bool) (rest : Incoming)
  | tooLong
  | failed
  /-- The line has not ended, and nothing more comes. -/
  | waiting
  deriving DecidableEq, Repr

def readLineFrom (room : Nat) (seen : Bytes) : List Bytes → Ending → Line
  | [], .closed => .read seen false ⟨[], .closed⟩
  | [], .failed => .failed
  | [], .silent => .waiting
  | chunk :: chunks, ending =>
    if chunk.isEmpty then .read seen false ⟨chunks, ending⟩
    else
      match cut room chunk with
      | .ended line rest => .read (seen ++ line) true (Incoming.unread rest ⟨chunks, ending⟩)
      | .whole line => readLineFrom (room - line.length) (seen ++ line) chunks ending
      | .tooLong => .tooLong

def readLine (room : Nat) (incoming : Incoming) : Line :=
  readLineFrom room [] incoming.chunks incoming.ending

/-- Read a command line, which is shorter than the limit without its line feed. -/
def readCommand (incoming : Incoming) : Line :=
  readLine (commandLimit - 1) incoming

/-- Read a reply line, which without its line feed may reach the limit. -/
def readReply (incoming : Incoming) : Line :=
  readLine commandLimit incoming

end TunnelBroker.Framing
