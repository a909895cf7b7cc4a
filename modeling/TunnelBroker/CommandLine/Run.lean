import TunnelBroker.Client.Dialer
import TunnelBroker.Client.Launch
import TunnelBroker.CommandLine
import TunnelBroker.Config.File
import TunnelBroker.Daemon.Start

/-! Carrying out a command line. -/

set_option autoImplicit false

namespace TunnelBroker.CommandLine

structure Exit where
  status : UInt8
  output : Bytes
  error : Option String
  deriving DecidableEq, Repr

namespace Exit

def success (output : String) : Exit := ⟨0, Text.encode output, none⟩

/-- The words with which a failure is reported; one of reading or writing is told twice. -/
def report : Failure → String
  | .io detail => (Failure.io detail).message ++ ": " ++ detail
  | failure => failure.message

def failure (failure : Failure) : Exit := ⟨1, [], some (report failure)⟩

def misuse : Exit := ⟨2, [], none⟩

def aborted : Exit := ⟨101, [], none⟩

end Exit

inductive Outcome where
  | exit (exit : Exit)
  | serving (config : Config) (started : StartedDaemon)
  | endless

def Outcome.ofFault : Client.Fault → Outcome
  | .failed failure => .exit (.failure failure)
  | .outOfTime => .exit .aborted
  | .stuck => .endless

def programName : String := "tunnel-agent"

def programVersion : String := "0.1.0"

def usage : String :=
  "Usage: " ++ programName ++ " [OPTIONS] <COMMAND>\n\nCommands: " ++
    ", ".intercalate (Name.all.map Name.text) ++ "\n"

def stop (config : Config) : Host.Task Outcome := do
  match ← (Client.ofSocket config.settings.socket).kill with
  | .error failure => return .exit (.failure failure)
  | .ok _ => return .exit (.success "")

def ping (config : Config) : Host.Task Outcome := do
  match ← (Client.ofSocket config.settings.socket).ping with
  | .error failure => return .exit (.failure failure)
  | .ok process => return .exit (.success ("pong " ++ toString process.toNat ++ "\n"))

def establish (config : Config) (organization : String) : Host.Task Outcome := do
  match ← Client.establish config with
  | .error fault => return .ofFault fault
  | .ok client =>
    match ← client.establishTunnel organization with
    | .error failure => return .exit (.failure failure)
    | .ok _ => return .exit (.success "")

def proxy (config : Config) (organization address : String) (milliseconds : Option UInt64)
    (input : Bytes) : Host.Task Outcome := do
  match ← Client.establish config with
  | .error fault => return .ofFault fault
  | .ok client =>
    match ← client.dialer organization with
    | .error failure => return .exit (.failure failure)
    | .ok dialer =>
      let connected ← match milliseconds with
        | some milliseconds => dialer.dialWithin address input (.ofMilliseconds milliseconds)
        | none => dialer.dial address input
      match connected with
      | .error fault => return .ofFault fault
      | .ok incoming => return .exit ⟨0, incoming.bytes, none⟩

def daemonStart (process : UInt32) (config : Config) : Host.Task Outcome := do
  match ← Daemon.start process config with
  | .error failure => return .exit (.failure failure)
  | .ok started => return .serving config started

def act (process : UInt32) (config : Config) (input : Bytes) : Action → Host.Task Outcome
  | .daemonStart => daemonStart process config
  | .stop => stop config
  | .ping => ping config
  | .establish organization => establish config organization
  | .proxy organization address milliseconds =>
    proxy config organization address milliseconds input
  | .version => return .exit (.success "")

def run (environment : Environment) (process : UInt32) (arguments : List Bytes)
    (input : Bytes) : Host.Task Outcome :=
  match parse arguments with
  | .misuse => return .exit .misuse
  | .help => return .exit (.success usage)
  | .version => return .exit (.success (programName ++ " " ++ programVersion ++ "\n"))
  | .run ⟨_, .version⟩ =>
    return .exit (.success (programName ++ " v" ++ programVersion ++ "\n"))
  | .run ⟨path, action⟩ => do
    match ← Host.ofFiles (Config.load environment path) with
    | .error failure => return .exit (.failure failure)
    | .ok config => act process config input action

end TunnelBroker.CommandLine
