import TunnelBroker.Peer
import TunnelBroker.Privacy.Files

/-!
The peer file, which keeps the peers from one run of the daemon to the next. It is written
anew beside the old one and then takes its name, so there is always a whole file.
-/

set_option autoImplicit false

namespace TunnelBroker.Peers

open FileTask (ask)

def file (directory : Path) : Path :=
  directory.join (.ofText "peers.json")

def newFile (directory : Path) : Path :=
  directory.join (.ofText "peers.json.tmp")

def read (path : Path) : FileTask (Except Failure Peers) := do
  match ← Privacy.check .peerFile path with
  | .error failure => return .error failure
  | .ok _ =>
    match ← ask (.contentOf path) with
    | .error fault => return .error fault.failure
    | .ok content =>
      match Text.decode? content with
      | none => return .error FileFault.notText.failure
      | some text => return parse text

def load (directory : Path) : FileTask (Except Failure Peers) := do
  match ← Privacy.ensureDirectory directory with
  | .error failure => return .error failure
  | .ok _ =>
    if ← FileTask.exists? (file directory) then read (file directory) else return .ok ∅

/-- Write all of `text` to the open file `inode`, and let it take the peer file's name. -/
def publish (directory : Path) (inode : Nat) (text : Bytes) :
    FileTask (Except Failure Unit) := do
  match ← ask (.write inode .start text) with
  | .error fault => return .error fault.failure
  | .ok _ =>
    match ← ask (.sync inode) with
    | .error fault => return .error fault.failure
    | .ok _ =>
      match ← ask (.rename (newFile directory) (file directory)) with
      | .error fault => return .error fault.failure
      | .ok _ => return .ok ()

def save (directory : Path) (peers : Peers) : FileTask (Except Failure Unit) := do
  match ← ask (.openFile (newFile directory) true Privacy.peerFile.limit) with
  | .error fault =>
    return .error (.config
      ("Failed to create " ++ (newFile directory).quoted ++ ": " ++ fault.message))
  | .ok inode =>
    let result ← publish directory inode (Text.encode peers.text)
    ask (.close inode)
    return result

def debug (peers : Peers) (directory : Option Path) : String :=
  let states := peers.entries.map fun (slug, peer) => Text.quote slug ++ ": " ++ peer.debug
  Text.labelled "PeerStateStore"
    [("path", Text.optional (directory.map fun directory => (file directory).quoted)),
      ("states", "\x7b" ++ ", ".intercalate states ++ "\x7d")]

end TunnelBroker.Peers
