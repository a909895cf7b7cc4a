import TunnelBroker.Config
import TunnelBroker.Encoding.Toml.Reader

/-!
The configuration file: an `agent` table with the daemon's settings and an
`organizations` table with a table for every slug. What is left out has a default.
-/

set_option autoImplicit false

namespace TunnelBroker

structure AgentTable where
  socket : Option String
  stateDirectory : Option String
  region : String
  spawnMilliseconds : Nat
  dialMilliseconds : Option Nat
  deriving DecidableEq, Repr

structure ConfigDocument where
  agent : AgentTable
  organizations : Table Membership
  deriving DecidableEq

namespace ConfigDocument

inductive Fault where
  | missingField (name : String)
  | malformed
  deriving DecidableEq, Repr

def Fault.message : Fault → String
  | missingField name => "missing field `" ++ name ++ "`"
  | malformed => "(rejected)"

variable {α : Type}

def text : Toml.Value → Except Fault String
  | .string text => .ok text
  | _ => .error .malformed

def natural : Toml.Value → Except Fault Nat
  | .integer value => if 0 ≤ value then .ok value.toNat else .error .malformed
  | _ => .error .malformed

/-- A field of a table: its name, whether it may be left out, and the check of its value. -/
structure Field where
  name : String
  optional : Bool
  /-- Whether a list of the fields in order may end before this one. -/
  omissible : Bool
  check : Toml.Value → Except Fault Unit

def checked (read : Toml.Value → Except Fault α) (value : Toml.Value) : Except Fault Unit :=
  (read value).map fun _ => ()

def checkEntries (fields : List Field) : Toml.Entries → Except Fault Unit
  | [] => .ok ()
  | (key, value) :: entries => do
    match fields.find? (·.name = key) with
    | some field => field.check value
    | none => pure ()
    checkEntries fields entries

def nameItems : List Field → List Toml.Value → Except Fault Toml.Entries
  | [], _ => .ok []
  | fields, [] => if fields.all (·.omissible) then .ok [] else .error .malformed
  | field :: fields, item :: items => do
    field.check item
    let entries ← nameItems fields items
    return (field.name, item) :: entries

def checkPresent (fields : List Field) (entries : Toml.Entries) : Except Fault Unit :=
  match fields.find? fun field => !field.optional && (entries.lookup field.name).isNone with
  | some field => .error (.missingField field.name)
  | none => .ok ()

/-- The fields of a record: a table, or a list with its fields in order. -/
def record (fields : List Field) : Toml.Value → Except Fault Toml.Entries
  | .table _ entries => do
    checkEntries fields entries
    checkPresent fields entries
    return entries
  | .array items => nameItems fields items
  | .tables items => nameItems fields (items.map (.table .header))
  | .datetime => do
    checkPresent fields []
    return []
  | _ => .error .malformed

def optional (entries : Toml.Entries) (name : String) (read : Toml.Value → Except Fault α) :
    Except Fault (Option α) :=
  match entries.lookup name with
  | some value => some <$> read value
  | none => .ok none

def required (entries : Toml.Entries) (name : String) (read : Toml.Value → Except Fault α) :
    Except Fault α :=
  match entries.lookup name with
  | some value => read value
  | none => .error (.missingField name)

def agentFields : List Field :=
  [⟨"socket_path", true, false, checked text⟩, ⟨"state_dir", true, false, checked text⟩,
    ⟨"region", true, true, checked text⟩, ⟨"spawn_timeout_ms", true, true, checked natural⟩,
    ⟨"default_dial_timeout_ms", true, false, checked natural⟩]

def defaultAgent : AgentTable where
  socket := none
  stateDirectory := none
  region := Settings.defaultRegion
  spawnMilliseconds := Settings.defaultSpawnMilliseconds.toNat
  dialMilliseconds := none

def agentOf (value : Toml.Value) : Except Fault AgentTable := do
  let entries ← record agentFields value
  return {
    socket := ← optional entries "socket_path" text
    stateDirectory := ← optional entries "state_dir" text
    region := (← optional entries "region" text).getD defaultAgent.region
    spawnMilliseconds :=
      (← optional entries "spawn_timeout_ms" natural).getD defaultAgent.spawnMilliseconds
    dialMilliseconds := ← optional entries "default_dial_timeout_ms" natural }

def membershipFields : List Field :=
  [⟨"id", false, false, checked text⟩, ⟨"name", true, true, checked text⟩,
    ⟨"gateway_endpoint", false, false, checked text⟩,
    ⟨"gateway_public_key", false, false, checked text⟩,
    ⟨"peer_ip", false, false, checked text⟩, ⟨"dns", true, true, checked text⟩]

def membershipOf (value : Toml.Value) : Except Fault Membership := do
  let entries ← record membershipFields value
  return {
    id := ← required entries "id" text
    name := ← optional entries "name" text
    endpoint := ← required entries "gateway_endpoint" text
    gatewayKey := ← required entries "gateway_public_key" text
    address := ← required entries "peer_ip" text
    dns := ← optional entries "dns" text }

def membershipsOf : Toml.Value → Except Fault (Table Membership)
  | .table _ entries => do
    let memberships ← entries.mapM fun (slug, value) => do return (slug, ← membershipOf value)
    return .ofList memberships
  | _ => .error .malformed

def documentFields : List Field :=
  [⟨"agent", true, true, checked agentOf⟩, ⟨"organizations", true, true, checked membershipsOf⟩]

def ofEntries (entries : Toml.Entries) : Except Fault ConfigDocument := do
  let entries ← record documentFields (.table .header entries)
  return {
    agent := (← optional entries "agent" agentOf).getD defaultAgent
    organizations := (← optional entries "organizations" membershipsOf).getD ∅ }

def parseFailure (fault : Fault) : Failure :=
  .config ("Failed to parse TOML config: " ++ fault.message)

def parse (text : String) : Except Failure ConfigDocument :=
  match Toml.parse text with
  | none => .error (parseFailure .malformed)
  | some entries =>
    match ofEntries entries with
    | .error fault => .error (parseFailure fault)
    | .ok document => .ok document

end ConfigDocument

def AgentTable.settings (agent : AgentTable) (environment : Environment) : Settings where
  socket := agent.socket.elim environment.defaultSocket .ofText
  stateDirectory := agent.stateDirectory.elim environment.brokerHome .ofText
  region := agent.region
  spawnTimeout := .ofMilliseconds (UInt64.ofNat agent.spawnMilliseconds)
  dialTimeout := agent.dialMilliseconds.map fun ms => .ofMilliseconds (UInt64.ofNat ms)

namespace Config

def ofDocument (environment : Environment) (document : ConfigDocument) : Config where
  settings := document.agent.settings environment
  memberships := document.organizations
  source := none

def parse (environment : Environment) (text : String) : Except Failure Config :=
  (ConfigDocument.parse text).map (ofDocument environment)

end Config

end TunnelBroker
