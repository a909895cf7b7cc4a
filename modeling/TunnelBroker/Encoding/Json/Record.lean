import TunnelBroker.Encoding.Json.Reading
import TunnelBroker.Failure
import TunnelBroker.Table

/-!
Records in JSON. A record is an object with known members, others being skipped, or an
array with its fields in order. The first fault in document order is reported, and
missing fields only where the record ends.
-/

set_option autoImplicit false

namespace TunnelBroker.Json

inductive Fault where
  | missingField (name : String)
  | duplicateField (name : String)
  | refused (failure : Failure)
  | malformed
  deriving DecidableEq, Repr

def Fault.message : Fault → String
  | missingField name => "missing field `" ++ name ++ "`"
  | duplicateField name => "duplicate field `" ++ name ++ "`"
  | refused failure => failure.message
  | malformed => "(rejected)"

/-- A field of a record: its name, whether it may be absent, and the fault of a value. -/
structure Field where
  name : String
  optional : Bool
  fault? : Reading → Option Fault

variable {α β : Type}

def faultOf (read : Reading → Except Fault α) (value : Reading) : Option Fault :=
  match read value with
  | .ok _ => none
  | .error fault => some fault

namespace Reading

def text : Reading → Except Fault String
  | string (some text) => .ok text
  | _ => .error .malformed

def optional (read : Reading → Except Fault α) : Reading → Except Fault (Option α)
  | null => .ok none
  | value => some <$> read value

def checkMembers (fields : List Field) (seen : List String) :
    List (Option String × Reading) → Except Fault (List (String × Reading))
  | [] => .ok []
  | (none, _) :: _ => .error .malformed
  | (some key, value) :: members =>
    match fields.find? (·.name = key) with
    | none =>
      if value.isWhole then checkMembers fields seen members else .error .malformed
    | some field =>
      if key ∈ seen then .error (.duplicateField key)
      else
        match field.fault? value with
        | some fault => .error fault
        | none => do
          let known ← checkMembers fields (key :: seen) members
          return (key, value) :: known

def checkItems : List Field → List Reading → Except Fault (List (String × Reading))
  | [], [] => .ok []
  | [], _ :: _ => .error .malformed
  | fields, [] => if fields.all (·.optional) then .ok [] else .error .malformed
  | field :: fields, item :: items =>
    match field.fault? item with
    | some fault => .error fault
    | none => do
      let known ← checkItems fields items
      return (field.name, item) :: known

def missing? (fields : List Field) (known : List (String × Reading)) : Option String :=
  (fields.find? fun field => !field.optional && !known.any (·.1 = field.name)).map Field.name

def record (fields : List Field) : Reading → Except Fault (List (String × Reading))
  | object members closed => do
    let known ← checkMembers fields [] members
    if closed then
      match missing? fields known with
      | some name => throw (.missingField name)
      | none => return known
    else throw .malformed
  | array items closed => do
    let known ← checkItems fields items
    if closed then return known else throw .malformed
  | _ => .error .malformed

/-- A table from the keys of an object; of members with the same key the last one stays. -/
def table (read : Reading → Except Fault α) : Reading → Except Fault (Table α)
  | object members closed => do
    let entries ← members.mapM fun
      | (some key, value) => do return (key, ← read value)
      | (none, _) => throw .malformed
    if closed then return Table.ofList entries else throw .malformed
  | _ => .error .malformed

end Reading

def required (known : List (String × Reading)) (name : String)
    (read : Reading → Except Fault α) : Except Fault α :=
  match known.lookup name with
  | some value => read value
  | none => .error (.missingField name)

def optional (known : List (String × Reading)) (name : String)
    (read : Reading → Except Fault (Option α)) : Except Fault (Option α) :=
  match known.lookup name with
  | some value => read value
  | none => .ok none

def decode (read : Reading → Except Fault α) (text : String) : Except Failure α :=
  let (reading, rest) := Json.read text.toList
  match read reading with
  | .error fault => .error (.serialization fault.message)
  | .ok value =>
    if (skipSpace rest).isEmpty then .ok value
    else .error (.serialization Fault.malformed.message)

end TunnelBroker.Json
