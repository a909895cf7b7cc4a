import TunnelBroker.Client
import TunnelBroker.Config
import TunnelBroker.Privacy.Files

/-! Clients that start a daemon when there is none. -/

set_option autoImplicit false

namespace TunnelBroker.Client

def logFile (settings : Settings) : Path :=
  settings.stateDirectory.join (.ofText "agent.log")

def daemonArguments (config : Config) : List Bytes :=
  Text.encode "daemon-start" ::
    config.source.elim [] fun path => [Text.encode "--config", path.bytes]

def openLog (settings : Settings) : FileTask (Except Failure Nat) := do
  match ← Privacy.ensureDirectory settings.stateDirectory with
  | .error failure => return .error failure
  | .ok _ =>
    match ← FileTask.ask (.openFile (logFile settings) false Privacy.peerFile.limit) with
    | .error fault =>
      return .error (.agent
        ("can't open " ++ (logFile settings).quoted ++ ": " ++ fault.message))
    | .ok log => return .ok log

def launch (config : Config) : Host.Task (Except Failure Unit) := do
  match ← Host.ofFiles (openLog config.settings) with
  | .error failure => return .error failure
  | .ok log =>
    let started ← Host.ask (.start (daemonArguments config) log)
    Host.ask (.file (.close log))
    match started with
    | .ok _ => return .ok ()
    | .error fault => return .error (.agent ("can't start agent: " ++ fault.message))

def launchInterval : Duration := .ofMilliseconds 50

/-- The clock counts the seconds in 63 bits. -/
def endOfTime : Nat := 9223372036854775808 * 1000000000

def silence (client : Client) (timeout : Duration) (failure : Failure) : Failure :=
  .timeout ("agent didn't answer at " ++ client.socket.quoted ++ " within " ++ timeout.text ++
    ": " ++ failure.message)

def awaitAnswer (client : Client) (timeout : Duration) : Host.Task (Except Fault Unit) := do
  let time ← Host.ask .now
  let deadline := time + timeout.nanoseconds
  if endOfTime ≤ deadline then return .error .outOfTime
  match ← Host.persist launchInterval (by decide) client.ping deadline time with
  | .ok _ => return .ok ()
  | .error failure => return .error (.failed (silence client timeout failure))

def ofConfig (config : Config) : Client :=
  { ofSocket config.settings.socket with dialTimeout := config.settings.dialTimeout }

/-- A client whose daemon answers, having been started if it did not. -/
def establish (config : Config) : Host.Task (Except Fault Client) := do
  let client := ofConfig config
  match ← client.ping with
  | .ok _ => return .ok client
  | .error _ =>
    match ← launch config with
    | .error failure => return .error (.failed failure)
    | .ok _ => return (← client.awaitAnswer config.settings.spawnTimeout).map fun _ => client

end TunnelBroker.Client
