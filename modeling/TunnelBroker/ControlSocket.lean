import TunnelBroker.Client
import TunnelBroker.Privacy.Files

/-!
The daemon's control socket. A daemon that takes over a path first asks the one that
listens there to stop, and a daemon that stops removes its socket, unless the path belongs
to somebody else by then.
-/

set_option autoImplicit false

namespace TunnelBroker

structure ControlSocket where
  path : Path
  listener : Nat
  /-- What was found at the path after listening had begun. -/
  tracked : Nat
  deriving DecidableEq, Repr

namespace ControlSocket

open FileTask (ask)

def bindFailure (path : Path) (fault : FileFault) : Failure :=
  .bind (path.quoted ++ ": " ++ fault.message)

def remove (path : Path) : FileTask (Except Failure Unit) := do
  match ← ask (.status path false) with
  | .error .notFound => return .ok ()
  | .error fault => return .error (bindFailure path fault)
  | .ok node =>
    if node.isSocket then
      match ← ask (.unlink path) with
      | .ok _ => return .ok ()
      | .error .notFound => return .ok ()
      | .error fault => return .error (bindFailure path fault)
    else
      return .error (.bind
        ("refusing to remove something that isn't a socket: " ++ path.quoted))

/-- Remove the socket, unless something else has its place. -/
def removeOwn (path : Path) (tracked : Nat) : FileTask Unit := do
  match ← ask (.status path false) with
  | .error _ => return ()
  | .ok node =>
    if node.inode = tracked then
      let _ ← ask (.unlink path)
      return ()
    else return ()

def release (socket : ControlSocket) : FileTask Unit := do
  ask (.close socket.listener)
  removeOwn socket.path socket.tracked

def secure (path : Path) (listener : Nat) : FileTask (Except Failure ControlSocket) := do
  match ← ask (.status path false) with
  | .error fault =>
    ask (.close listener)
    return .error fault.failure
  | .ok node =>
    match ← Privacy.socket.restrict path with
    | .ok _ => return .ok ⟨path, listener, node.inode⟩
    | .error failure =>
      removeOwn path node.inode
      ask (.close listener)
      return .error failure

def ensureParent (path : Path) : FileTask (Except Failure Unit) :=
  match path.parent? with
  | none => return .ok ()
  | some parent =>
    if parent.bytes.isEmpty then return .ok () else Privacy.ensureDirectory parent

def occupy (path : Path) : FileTask (Except Failure ControlSocket) := do
  match ← remove path with
  | .error failure => return .error failure
  | .ok _ =>
    match ← ensureParent path with
    | .error failure => return .error failure
    | .ok _ =>
      match ← ask (.listen path) with
      | .error fault => return .error (bindFailure path fault)
      | .ok listener => secure path listener

def evictionTimeout : Duration := .ofMilliseconds 2000

def evictionInterval : Duration := .ofMilliseconds 25

def isGone (client : Client) : Host.Task (Except Unit Unit) := do
  match ← client.ping with
  | .ok _ => return .error ()
  | .error _ => return .ok ()

/-- Have the daemon stop that answers at `path`, as far as it does in time. -/
def evict (path : Path) : Host.Task Unit := do
  let client := Client.ofSocket path
  match ← client.ping with
  | .error _ => return ()
  | .ok _ =>
    let _ ← client.kill
    let time ← Host.ask .now
    let _ ← Host.persist evictionInterval (by decide) (isGone client)
      (time + evictionTimeout.nanoseconds) time
    return ()

def bind (path : Path) : Host.Task (Except Failure ControlSocket) := do
  evict path
  Host.ofFiles (occupy path)

end ControlSocket

end TunnelBroker
