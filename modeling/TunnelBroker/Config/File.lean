import TunnelBroker.Config.Document
import TunnelBroker.Privacy.Files

/-! Finding and reading the configuration file. -/

set_option autoImplicit false

namespace TunnelBroker.Config

open FileTask (ask)

def read (environment : Environment) (path : Path) : FileTask (Except Failure Config) := do
  let unreadable (fault : FileFault) : Failure :=
    .config ("Failed to read config file " ++ path.quoted ++ ": " ++ fault.message)
  match ← ask (.contentOf path) with
  | .error fault => return .error (unreadable fault)
  | .ok content =>
    match Text.decode? content with
    | none => return .error (unreadable .notText)
    | some text =>
      return (parse environment text).map fun config => { config with source := some path }

def readDefault (environment : Environment) : FileTask (Except Failure Config) := do
  let path := environment.defaultConfig
  if ← FileTask.exists? path then read environment path
  else return .ok (.default environment)

def load (environment : Environment) (path : Option Path) : FileTask (Except Failure Config) := do
  let found ← match path with
    | some path => read environment path
    | none => readDefault environment
  return do
    let config ← found
    config.validate
    return config

end TunnelBroker.Config
