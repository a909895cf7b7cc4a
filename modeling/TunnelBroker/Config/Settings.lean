import TunnelBroker.Duration
import TunnelBroker.Environment
import TunnelBroker.Slug

/-! Settings of the daemon and the checks that they have to pass. -/

set_option autoImplicit false

namespace TunnelBroker

structure Settings where
  socket : Path
  stateDirectory : Path
  region : String
  spawnTimeout : Duration
  dialTimeout : Option Duration
  deriving DecidableEq

namespace Settings

def defaultRegion : String := "iad"

def defaultSpawnMilliseconds : UInt64 := 5000

def default (environment : Environment) : Settings where
  socket := environment.defaultSocket
  stateDirectory := environment.brokerHome
  region := defaultRegion
  spawnTimeout := .ofMilliseconds defaultSpawnMilliseconds
  dialTimeout := none

inductive Fault where
  | pathNotText (path : Path)
  | badPath (fault : Path.Fault)
  | regionLength (region : String)
  | regionCharacters (region : String)
  | timeoutZero (name : String)
  | timeoutTooLong (name : String) (milliseconds : UInt64)
  deriving DecidableEq, Repr

def Fault.message : Fault → String
  | pathNotText path => "Path is not valid UTF-8: " ++ path.quoted
  | badPath fault => fault.failure.message
  | regionLength region => "Invalid region '" ++ region ++ "': expected 1-8 characters"
  | regionCharacters region =>
    "Invalid region '" ++ region ++ "': only lowercase letters and digits allowed"
  | timeoutZero name => name ++ " cannot be 0"
  | timeoutTooLong name milliseconds =>
    name ++ " of " ++ toString milliseconds.toNat ++ "ms is too long (maximum 3600000)"

def pathFault? (path : Path) : Option Fault :=
  match Text.decode? path.bytes with
  | none => some (.pathNotText path)
  | some _ => path.fault?.map .badPath

def regionFault? (region : String) : Option Fault :=
  if region.isEmpty || 8 < region.utf8ByteSize then some (.regionLength region)
  else if region.toList.all Slug.isLowerOrDigit then none
  else some (.regionCharacters region)

/-- The longest timeout that makes sense: an hour. -/
def longestTimeout : UInt64 := 3600000

/-- A timeout is checked by its whole milliseconds, as far as they fit in 64 bits. -/
def timeoutFault? (name : String) (timeout : Duration) : Option Fault :=
  let milliseconds := UInt64.ofNat timeout.milliseconds
  if milliseconds = 0 then some (.timeoutZero name)
  else if longestTimeout < milliseconds then some (.timeoutTooLong name milliseconds)
  else none

def fault? (settings : Settings) : Option Fault :=
  (pathFault? settings.socket).or <|
  (pathFault? settings.stateDirectory).or <|
  (regionFault? settings.region).or <|
  (timeoutFault? "spawn_timeout_ms" settings.spawnTimeout).or <|
  settings.dialTimeout.bind (timeoutFault? "default_dial_timeout_ms")

def validate (settings : Settings) : Except Failure Unit :=
  match settings.fault? with
  | some fault => .error (.config fault.message)
  | none => .ok ()

end Settings

end TunnelBroker
