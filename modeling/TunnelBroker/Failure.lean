import TunnelBroker.Text.Separator

/-!
Failures of the broker. The message of a failure is what a client reads after
`err ` on the control socket, so its wording belongs to the protocol, and
`Failure.ofMessage` recovers the failure behind such a reply.
-/

set_option autoImplicit false

namespace TunnelBroker

inductive Failure where
  | bind (detail : String)
  | protocol (detail : String)
  | organizationNotFound (organization : String)
  | tunnelEstablish (organization reason : String)
  | noTunnel (organization : String)
  | resolve (host reason : String)
  | dial (detail : String)
  | directory (detail : String)
  | agent (detail : String)
  | config (detail : String)
  | io (detail : String)
  | serialization (detail : String)
  | permission (detail : String)
  | timeout (detail : String)
  | validation (detail : String)
  deriving DecidableEq, Repr

namespace Failure

def message : Failure → String
  | bind detail => "can't bind agent socket: " ++ detail
  | protocol detail => detail
  | organizationNotFound organization => "no such organization: " ++ organization
  | tunnelEstablish organization reason =>
    "can't establish tunnel for " ++ organization ++ ": " ++ reason
  | noTunnel organization => "no tunnel for " ++ organization ++ " established"
  | resolve host reason => "connection failed: can't resolve " ++ host ++ ": " ++ reason
  | dial detail => "connection failed: " ++ detail
  | directory detail => "directory error: " ++ detail
  | agent detail => "agent error: " ++ detail
  | config detail => "Configuration error: " ++ detail
  | io detail => "I/O error: " ++ detail
  | serialization detail => "Serialization error: " ++ detail
  | permission detail => "Permission denied: " ++ detail
  | timeout detail => "Operation timed out: " ++ detail
  | validation detail => "Validation error: " ++ detail

def detail : Failure → String
  | organizationNotFound organization => organization
  | tunnelEstablish organization _ => organization
  | noTunnel organization => organization
  | resolve host _ => host
  | bind detail | protocol detail | dial detail | directory detail | agent detail
  | config detail | io detail | serialization detail | permission detail | timeout detail
  | validation detail => detail

def reason? : Failure → Option String
  | tunnelEstablish _ reason => some reason
  | resolve _ reason => some reason
  | _ => none

def after? (lead : String) (text : List Char) : Option (List Char) :=
  lead.toList.isPrefixOf? text

def before? (tail : String) (text : List Char) : Option (List Char) :=
  tail.toList.isSuffixOf? text

def ofConnectionText (text : List Char) : Failure :=
  match (after? "can't resolve " text).bind (Text.cut? ": ".toList) with
  | some (host, reason) => resolve (String.ofList host) (String.ofList reason)
  | none => dial (String.ofList text)

/--
The failure behind an `err` reply. Messages of the broker's own failures give
back their kind, and any other message is an agent failure.
-/
def ofMessage (message : String) : Failure :=
  let text := message.toList
  if let some organization := after? "no such organization: " text then
    organizationNotFound (String.ofList organization)
  else if let some organization :=
      (after? "no tunnel for " text).bind (before? " established") then
    noTunnel (String.ofList organization)
  else if let some (organization, reason) :=
      (after? "can't establish tunnel for " text).bind (Text.cut? ": ".toList) then
    tunnelEstablish (String.ofList organization) (String.ofList reason)
  else if let some rest := after? "connection failed: " text then
    ofConnectionText rest
  else if let some detail := after? "directory error: " text then
    directory (String.ofList detail)
  else
    agent message

end Failure

end TunnelBroker
