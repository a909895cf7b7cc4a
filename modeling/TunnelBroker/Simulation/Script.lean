import TunnelBroker.Daemon.Call
import TunnelBroker.Directory.Configured

/-!
Scripts for what surrounds a simulated daemon: a directory, a provider of tunnels and
networks, with their answers and with the milliseconds they take.
-/

set_option autoImplicit false

namespace TunnelBroker.Simulation

inductive DirectoryScript where
  | configured (config : Config)
  | scripted (listing : Except Failure (List Organization))
    (registrations : List (String × Except Failure Registration)) (delay : Nat)

namespace DirectoryScript

def organizations : DirectoryScript → Except Failure (List Organization)
  | configured config => .ok config.organizations
  | scripted listing _ _ => listing

def register (slug : String) : DirectoryScript → Except Failure Registration
  | configured config => config.register slug
  | scripted _ registrations _ =>
    (registrations.lookup slug).getD (.error (.directory "no peer scripted"))

def delay : DirectoryScript → Nat
  | configured _ => 0
  | scripted _ _ delay => delay

def isObserved : DirectoryScript → Bool
  | configured _ => false
  | scripted .. => true

end DirectoryScript

structure ProviderScript where
  failures : List (Option Failure)
  delay : Nat
  /-- Whether a tunnel is no more than a check of its configuration. -/
  hostNetwork : Bool

def ProviderScript.failure? (script : ProviderScript) (number : Nat) (config : TunnelConfig) :
    Option Failure :=
  if script.hostNetwork then
    match config.validate with
    | .ok _ => none
    | .error failure => some failure
  else (script.failures[number]?).join

inductive FarBehavior where
  | echo
  /-- Send a greeting and read to the end; close before or after that. -/
  | greeting (bytes : Bytes) (closesFirst : Bool)

def FarBehavior.farEnd : FarBehavior → Relay.FarEnd
  | echo =>
    ⟨.unlimited, fun outbound =>
      if Relay.isFinished outbound then .ofBytes (Relay.delivered outbound) .closed
      else .ofBytes [] .silent⟩
  | greeting bytes closesFirst =>
    ⟨.unlimited, fun outbound =>
      .ofBytes bytes (if closesFirst || Relay.isFinished outbound then .closed else .silent)⟩

structure LookupScript where
  answer : Except Failure (List IpAddress)
  delay : Nat

inductive DialResult where
  | fails (failure : Failure)
  | hangs
  | connects (behavior : FarBehavior)

structure DialScript where
  result : DialResult
  delay : Nat

structure NetworkScript where
  hosts : List (String × LookupScript)
  dials : List (String × DialScript)

namespace NetworkScript

def lookup (script : NetworkScript) (host : String) : LookupScript :=
  (script.hosts.lookup host).getD ⟨.ok [], 0⟩

def dial (script : NetworkScript) (address : SocketAddress) : DialScript :=
  (script.dials.lookup address.text).getD
    ⟨.fails (.dial ("dial tcp " ++ address.text ++ ": Connection refused (os error 111)")), 0⟩

end NetworkScript

structure Script where
  directory : DirectoryScript
  provider : ProviderScript
  tunnel : NetworkScript
  host : NetworkScript
  environment : Environment

def Script.network (script : Script) : Network → NetworkScript
  | .host => script.host
  | .tunnel _ => script.tunnel

inductive Event where
  | organizations
  | register (organization : Organization) (region name : String)
  | openTunnel (config : TunnelConfig)
  | lookup (network : Network) (host : String)
  | dial (network : Network) (address : SocketAddress)
  | farEnd (address : SocketAddress) (received : Bytes)

end TunnelBroker.Simulation
