import TunnelBroker.Privacy.Files

/-! Files to begin a simulated run with, changes to them, and what is there in the end. -/

set_option autoImplicit false

namespace TunnelBroker.Simulation

/-- A change from outside, which is no step of a program under simulation. -/
inductive Fixture where
  | directory (path : Path) (mode : Nat)
  | file (path : Path) (content : Bytes) (mode : Nat)
  | socket (path : Path)
  | link (path target : Path)
  | owner (path : Path) (user : Nat)
  | permissions (path : Path) (mode : Nat)
  | remove (path : Path)

def emptyFiles (private' : Path) : FileSystem where
  nodes :=
    [([], ⟨0, .directory, 0o755, 0⟩), ([Text.encode "tmp"], ⟨1, .directory, 0o1777, 0⟩),
      ([Text.encode "dev"], ⟨2, .directory, 0o755, 0⟩),
      ([Text.encode "dev", Text.encode "null"], ⟨3, .device, 0o666, 0⟩),
      (private'.steps, ⟨4, .directory, 0o755, 0⟩)]
  held := []
  user := 0

def subtree (files : FileSystem) (location : Location) : List (Location × FileNode) :=
  files.nodes.filter fun (place, _) => location.isPrefixOf place

/-- Whether a directory has nothing in it, or can be listed. -/
def isListable (node : FileNode) (isEmpty : Bool) : Bool :=
  node.isReadable && (isEmpty || node.isSearchable)

def isTransparent (files : FileSystem) (location : Location) : Bool :=
  (subtree files location).all fun (place, node) =>
    !node.isDirectory || isListable node ((subtree files place).length < 2)

def listing (files : FileSystem) (location : Location) : Option (List (Location × FileNode)) :=
  if isTransparent files location then
    some (((subtree files location).filter (·.1 != location)).mergeSort fun a b => a.1 ≤ b.1)
  else none

namespace Fixture

open FileTask (ask)

def thenTask (done : Except FileFault Unit) (next : FileTask (Except FileFault Unit)) :
    FileTask (Except FileFault Unit) :=
  match done with
  | .ok _ => next
  | .error fault => .done (.error fault)

def fillFile (path : Path) (content : Bytes) (mode : Nat) :
    FileTask (Except FileFault Unit) := do
  match ← ask (.openFile path true 0o666) with
  | .error fault => return .error fault
  | .ok inode =>
    let _ ← ask (.write inode .start content)
    ask (.close inode)
    ask (.setMode path mode)

def makeLink (path target : Path) : FileSystem.Change Unit := fun files =>
  match files.vacancy path .alreadyThere with
  | .error fault => (.error fault, files)
  | .ok location =>
    let node : FileNode := ⟨files.freshInode, .link target, 0o777, files.user⟩
    (.ok (), files.put location node)

def removeTree (path : Path) : FileSystem.Change Unit := fun files =>
  match files.locateEntry path with
  | .error fault => (.error fault, files)
  | .ok place =>
    match place.node with
    | none => (.error .notFound, files)
    | some _ =>
      let doomed := subtree files place.location
      let allowed := files.isChangeable place.location && isTransparent files place.location &&
        doomed.all fun (location, _) =>
          location = place.location || files.isChangeable location
      if allowed then
        (.ok (), { files with nodes := files.nodes.filter fun (location, _) =>
          !place.location.isPrefixOf location })
      else (.error .denied, files)

/-- Only what is already so can be given to a user. -/
def setOwner (path : Path) (user : Nat) : FileSystem.Change Unit := fun files =>
  match files.find path true with
  | .error fault => (.error fault, files)
  | .ok node => (if node.owner = user then .ok () else .error .notPermitted, files)

def apply (fixture : Fixture) (files : FileSystem) : Except FileFault Unit × FileSystem :=
  match fixture with
  | directory path mode =>
    files.run do thenTask (← FileTask.makeTree path) (ask (.setMode path mode))
  | file path content mode =>
    files.run do
      let parent := path.parent?.getD ⟨[]⟩
      thenTask (← FileTask.makeTree parent) (fillFile path content mode)
  | socket path =>
    match files.listen path with
    | (.error fault, files) => (.error fault, files)
    | (.ok inode, files) => (.ok (), files.close inode)
  | link path target => makeLink path target files
  | owner path user => setOwner path user files
  | permissions path mode => files.setMode path mode
  | remove path => removeTree path files

end Fixture

end TunnelBroker.Simulation
