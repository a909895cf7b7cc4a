import TunnelBroker.Encoding.Json.Record
import TunnelBroker.Key
import TunnelBroker.Network.IpAddress
import TunnelBroker.Text.Diagnostic

/-!
What the directory knows: the organizations of the user, and the gateway that a new
peer of an organization talks to.
-/

set_option autoImplicit false

namespace TunnelBroker

structure Organization where
  id : String
  slug : String
  name : String
  deriving DecidableEq, Repr

structure Registration where
  address : IpAddress
  endpoint : String
  gatewayKey : PublicKey
  dns : Option IpAddress
  deriving DecidableEq

namespace Organization

def toJson (organization : Organization) : Json :=
  .object [("id", .string organization.id), ("slug", .string organization.slug),
    ("name", .string organization.name)]

def fields : List Json.Field :=
  [⟨"id", false, Json.faultOf Json.Reading.text⟩, ⟨"slug", false, Json.faultOf Json.Reading.text⟩,
    ⟨"name", false, Json.faultOf Json.Reading.text⟩]

def ofJson (reading : Json.Reading) : Except Json.Fault Organization := do
  let known ← reading.record fields
  return {
    id := ← Json.required known "id" Json.Reading.text
    slug := ← Json.required known "slug" Json.Reading.text
    name := ← Json.required known "name" Json.Reading.text }

def debug (organization : Organization) : String :=
  Text.labelled "Organization" [("id", Text.quote organization.id),
    ("slug", Text.quote organization.slug), ("name", Text.quote organization.name)]

def find (listing : Except Failure (List Organization)) (slug : String) :
    Except Failure Organization :=
  match listing with
  | .error failure => .error (.directory ("can't load organizations: " ++ failure.message))
  | .ok organizations =>
    match organizations.find? (·.slug = slug) with
    | some organization => .ok organization
    | none => .error (.organizationNotFound slug)

end Organization

end TunnelBroker
