import TunnelBroker.Duration
import TunnelBroker.Slug
import TunnelBroker.Text.Blank
import TunnelBroker.Text.Numeral

/-!
Commands of the control protocol. A control connection carries one command line
of blank-separated words.
-/

set_option autoImplicit false

namespace TunnelBroker

structure Target where
  /-- The organization whose tunnel carries the connection, or the host's own network. -/
  organization : Option String
  address : String
  timeout : Option Duration
  deriving DecidableEq

inductive Command where
  | ping
  | kill
  | establish (organization : String)
  | connect (target : Target)
  deriving DecidableEq

namespace Command

inductive Fault where
  | takesNoArguments (word : String)
  | establishUsage
  | connectUsage
  | badTimeout (word : String)
  | missingPort (address : String)
  | unknown (words : List String)
  deriving DecidableEq, Repr

def Fault.message : Fault → String
  | .takesNoArguments word => word ++ " takes no arguments"
  | .establishUsage => "usage: establish <org>"
  | .connectUsage => "usage: connect [<org>] <host:port> [timeout-ms]"
  | .badTimeout word => "invalid timeout: " ++ word
  | .missingPort address => "missing port in address " ++ address
  | .unknown words => "bad command: [" ++ " ".intercalate words ++ "]"

def Fault.failure (fault : Fault) : Failure :=
  .protocol fault.message

def hasColon (word : String) : Bool :=
  word.toList.contains ':'

/-- A number of milliseconds, where zero means no timeout. -/
def parseTimeout (word : String) : Except Failure (Option Duration) :=
  match Text.readNumeral UInt64.size Text.uint64_size_pos word.toList with
  | .ok value => .ok (if value.val = 0 then none else some (.ofMilliseconds (UInt64.ofFin value)))
  | .error _ => .error (Fault.badTimeout word).failure

def parseAddress : List String → Except Failure (String × Option Duration)
  | [address] => .ok (address, none)
  | [address, milliseconds] => do
    let timeout ← parseTimeout milliseconds
    return (address, timeout)
  | _ => .error Fault.connectUsage.failure

def parseTarget (arguments : List String) : Except Failure Target := do
  let (organization, rest) ←
    match arguments with
    | first :: rest =>
      -- Slugs never contain a colon and addresses always do, which tells them apart.
      if hasColon first then pure (none, arguments)
      else do
        Slug.check first
        pure (some first, rest)
    | [] => pure (none, [])
  let (address, timeout) ← parseAddress rest
  if hasColon address then return ⟨organization, address, timeout⟩
  else throw (Fault.missingPort address).failure

def ofWords : List String → Except Failure Command
  | ["ping"] => .ok .ping
  | ["kill"] => .ok .kill
  | "ping" :: _ => .error (Fault.takesNoArguments "ping").failure
  | "kill" :: _ => .error (Fault.takesNoArguments "kill").failure
  | ["establish", organization] => do
    Slug.check organization
    return .establish organization
  | "establish" :: _ => .error Fault.establishUsage.failure
  | "connect" :: arguments => .connect <$> parseTarget arguments
  | words => .error (Fault.unknown words).failure

def words (line : String) : List String :=
  (Text.words line.toList).map String.ofList

def parse (line : String) : Except Failure Command :=
  ofWords (words line)

def name : Command → String
  | ping => "ping"
  | kill => "kill"
  | establish _ => "establish"
  | connect _ => "connect"

def line : Command → String
  | ping => "ping"
  | kill => "kill"
  | establish organization => "establish " ++ organization
  | connect target =>
    "connect" ++ (target.organization.elim "" (" " ++ ·)) ++ " " ++ target.address ++
      (target.timeout.elim "" fun timeout => " " ++ toString timeout.milliseconds)

end Command

end TunnelBroker
