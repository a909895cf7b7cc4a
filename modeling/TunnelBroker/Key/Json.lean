import TunnelBroker.Encoding.Json.Record
import TunnelBroker.Key

/-! Keys in JSON: a string of base64, and a pair as a record of two such strings. -/

set_option autoImplicit false

namespace TunnelBroker

def Json.Reading.refusable {α : Type} (parse : String → Except Failure α) (reading : Reading) :
    Except Fault α := do
  let text ← reading.text
  match parse text with
  | .ok value => return value
  | .error failure => throw (.refused failure)

namespace PrivateKey

def toJson (key : PrivateKey) : Json := .string key.toBase64

def ofJson : Json.Reading → Except Json.Fault PrivateKey := Json.Reading.refusable ofBase64

end PrivateKey

namespace PublicKey

def toJson (key : PublicKey) : Json := .string key.toBase64

def ofJson : Json.Reading → Except Json.Fault PublicKey := Json.Reading.refusable ofBase64

end PublicKey

namespace KeyPair

def toJson (pair : KeyPair) : Json :=
  .object [("private", pair.privateKey.toJson), ("public", pair.publicKey.toJson)]

def fields : List Json.Field :=
  [⟨"private", false, Json.faultOf PrivateKey.ofJson⟩,
    ⟨"public", false, Json.faultOf PublicKey.ofJson⟩]

def ofJson (reading : Json.Reading) : Except Json.Fault KeyPair := do
  let known ← reading.record fields
  return {
    privateKey := ← Json.required known "private" PrivateKey.ofJson
    publicKey := ← Json.required known "public" PublicKey.ofJson }

end KeyPair

end TunnelBroker
