import TunnelBroker.Failure
import TunnelBroker.Text.Blank
import TunnelBroker.Text.Numeral

/-! Replies of the control protocol: one line whose first word is `ok`, `pong` or `err`. -/

set_option autoImplicit false

namespace TunnelBroker

inductive Reply where
  | ok
  | pong (process : UInt32)
  | err (message : String)
  deriving DecidableEq, Repr

namespace Reply

def ofFailure (failure : Failure) : Reply :=
  err failure.message

def line : Reply → String
  | ok => "ok"
  | pong process => "pong " ++ toString process.toNat
  | err message => "err " ++ message

def isLineEnd (c : Char) : Bool :=
  c == '\r' || c == '\n'

/-- Read a reply's line, whatever carriage returns and line feeds end it. -/
def parse (line : String) : Except Failure Reply :=
  let text := Text.dropTailWhile isLineEnd line.toList
  let (tag, rest) := (Text.cut? [' '] text).getD (text, [])
  if tag = "ok".toList then .ok ok
  else if tag = "pong".toList then
    match Text.readNumeral UInt32.size Text.uint32_size_pos (Text.trim rest) with
    | .ok process => .ok (pong (UInt32.ofFin process))
    | .error _ => .error (.agent ("bad pong: " ++ String.ofList text))
  else if tag = "err".toList then .ok (err (String.ofList rest))
  else .error (.agent ("unexpected reply: " ++ String.ofList text))

def toResult : Reply → Except Failure Reply
  | err message => .error (.ofMessage message)
  | reply => .ok reply

end Reply

end TunnelBroker
