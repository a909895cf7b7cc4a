import TunnelBroker.Peer
import TunnelBroker.Proofs.Key
import TunnelBroker.Proofs.Network.IpAddress

/-! The text of the peer file holds the peers: whatever they are, they are read back from it. -/

set_option autoImplicit false

namespace TunnelBroker

namespace Peer

@[simp]
theorem addressOfJson_addressToJson (ip : IpAddress) :
    addressOfJson (addressToJson ip).reading = .ok ip := by
  have read : (addressToJson ip).reading.text = .ok ip.text := rfl
  rw [addressOfJson, read]
  simp only [bind, Except.bind, ip.parse?_text]
  rfl

@[simp]
theorem text_string (text : String) : (Json.string text).reading.text = .ok text := rfl

/-- The name server of a peer, or `null`. -/
def dnsToJson (dns : Option IpAddress) : Json := dns.elim .null addressToJson

@[simp]
theorem optional_dnsToJson (dns : Option IpAddress) :
    Json.Reading.optional addressOfJson (dnsToJson dns).reading = .ok dns := by
  cases dns with
  | none => rfl
  | some ip =>
    show some <$> addressOfJson (addressToJson ip).reading = _
    rw [addressOfJson_addressToJson]
    rfl

def fieldsOf (peer : Peer) : List (Json.Field × Json.Reading) :=
  fields.zip [(Json.string peer.organization).reading, (Json.string peer.name).reading,
    (Json.string peer.region).reading, peer.keys.toJson.reading,
    (addressToJson peer.address).reading, (Json.string peer.endpoint).reading,
    peer.gatewayKey.toJson.reading, (dnsToJson peer.dns).reading]

theorem faultless_fieldsOf (peer : Peer) :
    ∀ entry ∈ peer.fieldsOf, entry.1.fault? entry.2 = none := by
  simp [fieldsOf, fields, Json.faultOf_eq_none (text_string _),
    Json.faultOf_eq_none (KeyPair.ofJson_toJson _),
    Json.faultOf_eq_none (addressOfJson_addressToJson _),
    Json.faultOf_eq_none (PublicKey.ofJson_toJson _),
    Json.faultOf_eq_none (optional_dnsToJson _)]

theorem distinct_fieldsOf (peer : Peer) :
    ((peer.fieldsOf.map Prod.fst).map Json.Field.name).Nodup :=
  show (fields.map Json.Field.name).Nodup by decide

theorem record_toJson (peer : Peer) :
    peer.toJson.reading.record fields = .ok (Json.Reading.fieldValues peer.fieldsOf) :=
  Json.Reading.record_fieldMembers peer.distinct_fieldsOf peer.faultless_fieldsOf

@[simp]
theorem ofJson_toJson (peer : Peer) : ofJson peer.toJson.reading = .ok peer := by
  let known := Json.Reading.fieldValues peer.fieldsOf
  have organization : Json.required known "org" Json.Reading.text = .ok peer.organization := rfl
  have name : Json.required known "name" Json.Reading.text = .ok peer.name := rfl
  have region : Json.required known "region" Json.Reading.text = .ok peer.region := rfl
  have keys : Json.required known "keypair" KeyPair.ofJson = .ok peer.keys :=
    KeyPair.ofJson_toJson _
  have address : Json.required known "peer_ip" addressOfJson = .ok peer.address :=
    addressOfJson_addressToJson _
  have endpoint : Json.required known "endpoint" Json.Reading.text = .ok peer.endpoint := rfl
  have gatewayKey : Json.required known "gateway_public_key" PublicKey.ofJson =
      .ok peer.gatewayKey := PublicKey.ofJson_toJson _
  have dns : Json.optional known "dns" (Json.Reading.optional addressOfJson) = .ok peer.dns :=
    optional_dnsToJson _
  rw [ofJson, record_toJson]
  simp only [bind, Except.bind, known] at *
  simp only [organization, name, region, keys, address, endpoint, gatewayKey, dns]
  rfl

end Peer

namespace Peers

-- Peers are read back from the text of the peer file.
@[simp]
theorem parse_text (peers : Peers) : parse peers.text = .ok peers :=
  Json.decode_pretty (Json.Reading.table_readings peers fun _ _ => Peer.ofJson_toJson _)

end Peers

end TunnelBroker
