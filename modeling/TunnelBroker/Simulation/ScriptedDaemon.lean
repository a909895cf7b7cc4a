import TunnelBroker.Host

/-! A daemon whose replies are scripted, and what its clients send to it. -/

set_option autoImplicit false

namespace TunnelBroker.Simulation

structure ScriptedDaemon where
  files : FileSystem
  clock : Nat
  /-- The replies to the next connections; the last one is given again and again. -/
  replies : List Incoming
  received : List Bytes

namespace ScriptedDaemon

def pass (state : ScriptedDaemon) (span : Duration) : ScriptedDaemon :=
  { state with clock := state.clock + span.nanoseconds }

def nextReply : List Incoming → Incoming × List Incoming
  | [] => (.ofBytes [] .closed, [])
  | [last] => (last, [last])
  | reply :: replies => (reply, replies)

/-- A reply takes some time, so there is none for a client that does not wait. -/
def within (limit : Option Duration) (reply : Incoming) : Incoming :=
  if limit.any (·.nanoseconds == 0) then .ofBytes [] .silent else reply

def contact (state : ScriptedDaemon) (path : Path) (request : Bytes)
    (limit : Option Duration) : Contact × ScriptedDaemon :=
  match state.files.listener path with
  | .error fault => (.refused fault, state)
  | .ok _ =>
    let (reply, replies) := nextReply state.replies
    let reply := within limit reply
    let state := { state with replies := replies, received := request :: state.received }
    let wait := if reply.finish = .silent then limit else none
    (.reached reply, state.pass (wait.getD (.ofMilliseconds 0)))

def echoed (arguments : List Bytes) : Bytes :=
  List.intercalate (Text.encode " ") arguments ++ Text.encode "\n"

/-- Answer a call of a client. A program that is started tells its arguments and ends. -/
def react : Interaction.Handler Host.Call Host.Call.Answer ScriptedDaemon
  | .file call, state =>
    let (answer, files) := FileSystem.react call state.files
    (answer, { state with files := files })
  | .contact path request limit, state => state.contact path request limit
  | .now, state => (state.clock, state)
  | .sleep span, state => ((), state.pass span)
  | .start arguments log, state =>
    let (_, files) := state.files.write log .finish (echoed arguments)
    (.ok (), { state with files := files })

def run {α : Type} (state : ScriptedDaemon) (task : Host.Task α) : α × ScriptedDaemon :=
  task.run react state

end ScriptedDaemon

end TunnelBroker.Simulation
