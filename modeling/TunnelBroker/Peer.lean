import TunnelBroker.Directory
import TunnelBroker.Key.Json
import TunnelBroker.Tunnel.Config

/-!
Peers: the registrations of this machine with the organizations' gateways. A peer
occupies an address in the organization's network, so it is kept and used again.
-/

set_option autoImplicit false

namespace TunnelBroker

structure Peer where
  organization : String
  name : String
  region : String
  keys : KeyPair
  address : IpAddress
  endpoint : String
  gatewayKey : PublicKey
  dns : Option IpAddress
  deriving DecidableEq

namespace Peer

def keepalive : Duration := Duration.ofMilliseconds 25000

def mtu : UInt16 := 1420

def tunnelConfig (peer : Peer) : TunnelConfig where
  keys := peer.keys
  address := peer.address
  dns := peer.dns
  endpoint := peer.endpoint
  gatewayKey := peer.gatewayKey
  keepalive := keepalive
  mtu := mtu

def ofRegistration (organization : Organization) (name region : String) (keys : KeyPair)
    (registration : Registration) : Peer where
  organization := organization.slug
  name := name
  region := region
  keys := keys
  address := registration.address
  endpoint := registration.endpoint
  gatewayKey := registration.gatewayKey
  dns := registration.dns

def addressToJson (ip : IpAddress) : Json := .string ip.text

def addressOfJson (reading : Json.Reading) : Except Json.Fault IpAddress := do
  let text ← reading.text
  match IpAddress.parse? text with
  | some ip => return ip
  | none => throw .malformed

def toJson (peer : Peer) : Json :=
  .object [("org", .string peer.organization), ("name", .string peer.name),
    ("region", .string peer.region), ("keypair", peer.keys.toJson),
    ("peer_ip", addressToJson peer.address), ("endpoint", .string peer.endpoint),
    ("gateway_public_key", peer.gatewayKey.toJson),
    ("dns", peer.dns.elim .null addressToJson)]

def fields : List Json.Field :=
  [⟨"org", false, Json.faultOf Json.Reading.text⟩, ⟨"name", false, Json.faultOf Json.Reading.text⟩,
    ⟨"region", false, Json.faultOf Json.Reading.text⟩, ⟨"keypair", false, Json.faultOf KeyPair.ofJson⟩,
    ⟨"peer_ip", false, Json.faultOf addressOfJson⟩, ⟨"endpoint", false, Json.faultOf Json.Reading.text⟩,
    ⟨"gateway_public_key", false, Json.faultOf PublicKey.ofJson⟩,
    ⟨"dns", true, Json.faultOf (Json.Reading.optional addressOfJson)⟩]

def ofJson (reading : Json.Reading) : Except Json.Fault Peer := do
  let known ← reading.record fields
  return {
    organization := ← Json.required known "org" Json.Reading.text
    name := ← Json.required known "name" Json.Reading.text
    region := ← Json.required known "region" Json.Reading.text
    keys := ← Json.required known "keypair" KeyPair.ofJson
    address := ← Json.required known "peer_ip" addressOfJson
    endpoint := ← Json.required known "endpoint" Json.Reading.text
    gatewayKey := ← Json.required known "gateway_public_key" PublicKey.ofJson
    dns := ← Json.optional known "dns" (Json.Reading.optional addressOfJson) }

def debug (peer : Peer) : String :=
  Text.labelled "PeerState" [("org", Text.quote peer.organization),
    ("name", Text.quote peer.name), ("region", Text.quote peer.region),
    ("keypair", peer.keys.debug), ("peer_ip", peer.address.text),
    ("endpoint", Text.quote peer.endpoint), ("gateway_public_key", peer.gatewayKey.debug),
    ("dns", Text.optional (peer.dns.map (·.text)))]

end Peer

/-- The peers of this machine, by the slugs of their organizations. -/
abbrev Peers := Table Peer

namespace Peers

def toJson (peers : Peers) : Json :=
  .object (peers.entries.map fun entry => (entry.1, entry.2.toJson))

def text (peers : Peers) : String :=
  (toJson peers).pretty

def parse (text : String) : Except Failure Peers :=
  Json.decode (Json.Reading.table Peer.ofJson) text

end Peers

end TunnelBroker
