import TunnelBroker.Path

/-! What the broker takes from its environment, and the paths that follow from it. -/

set_option autoImplicit false

namespace TunnelBroker

structure Environment where
  home : Option Path
  user : Option String
  deriving DecidableEq, Repr

namespace Environment

def temporary : Path := .ofText "/tmp"

def brokerHome (environment : Environment) : Path :=
  (environment.home.getD temporary).join (.ofText ".tunnel-agent")

def defaultSocket (environment : Environment) : Path :=
  environment.brokerHome.join (.ofText "agent.sock")

def defaultConfig (environment : Environment) : Path :=
  environment.brokerHome.join (.ofText "config.toml")

end Environment

end TunnelBroker
