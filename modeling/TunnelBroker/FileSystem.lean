import TunnelBroker.FileSystem.Fault
import TunnelBroker.FileSystem.Node

/-!
The file system as one user meets it, and the way from a path to a place in it. Links are followed
up to a limit, and every directory on the way has to let its owner through.

Of what a system may check, some things are left out. Nodes have owners, but the bits for the owner
count for everybody, and no user is exempt from them. The sticky bit keeps nobody from removing or
renaming an entry. The permission mask is always 022.
-/

set_option autoImplicit false

namespace TunnelBroker

structure FileSystem where
  nodes : List (Location × FileNode)
  /-- The nodes that are open, by their numbers; they exist until they are closed. -/
  held : List Nat
  user : Nat
  deriving DecidableEq

structure Place where
  location : Location
  node : Option FileNode
  deriving DecidableEq

namespace Path

def steps (path : Path) : List Bytes :=
  path.segments.filter (· != [])

def endsInSlash (path : Path) : Bool :=
  path.bytes.getLast? == some slash

end Path

namespace FileSystem

def node? (files : FileSystem) (location : Location) : Option FileNode :=
  files.nodes.lookup location

def nameLimit : Nat := 255

def pathLimit : Nat := 4096

def linkLimit : Nat := 40

/-- A way from a directory through names, and whether it has to end at a directory. -/
abbrev Way : Type := Location → List Bytes → Bool → Except FileFault Place

/--
Go through names, one after another. A link is left to `onLink`, unless it is the last
name and links there are not followed. The last name may lead nowhere.
-/
def traverse (files : FileSystem) (follows : Bool) (onLink : Way) : Way
  | location, [], directory =>
    match files.node? location with
    | none => .error .notFound
    | some node =>
      if directory && !node.isDirectory then .error .notDirectory
      else .ok ⟨location, some node⟩
  | location, name :: rest, directory =>
    match files.node? location with
    | none => .error .notFound
    | some here =>
      if !here.isDirectory then .error .notDirectory
      else if !here.isSearchable then .error .denied
      else if name = Path.dot then files.traverse follows onLink location rest directory
      else if name = Path.dotDot then
        files.traverse follows onLink location.dropLast rest directory
      else if nameLimit < name.length then .error .nameTooLong
      else
        match files.node? (location ++ [name]) with
        | none =>
          if rest.isEmpty then .ok ⟨location ++ [name], none⟩ else .error .notFound
        | some node =>
          match node.kind with
          | .link target =>
            if rest.isEmpty && !(follows || directory) then
              .ok ⟨location ++ [name], some node⟩
            else
              onLink (if target.isAbsolute then [] else location) (target.steps ++ rest)
                (directory || rest.isEmpty && target.endsInSlash)
          | _ => files.traverse follows onLink (location ++ [name]) rest directory

def walk (files : FileSystem) (follows : Bool) : (links : Nat) → Way
  | 0 => files.traverse follows fun _ _ _ => .error .tooManyLinks
  | links + 1 => files.traverse follows (files.walk follows links)

def pathFault? (path : Path) : Option FileFault :=
  if path.bytes.contains 0 then some .nulInName
  else if path.bytes.isEmpty then some .notFound
  else if pathLimit ≤ path.bytes.length then some .nameTooLong
  else none

def locateAs (files : FileSystem) (path : Path) (follows directory : Bool) :
    Except FileFault Place :=
  match pathFault? path with
  | some fault => .error fault
  | none => files.walk follows linkLimit [] path.steps directory

def locate (files : FileSystem) (path : Path) (follows : Bool) : Except FileFault Place :=
  files.locateAs path follows path.endsInSlash

/-- The place that a path names, where a slash at its end makes no difference. -/
def locateEntry (files : FileSystem) (path : Path) : Except FileFault Place :=
  files.locateAs path false false

def find (files : FileSystem) (path : Path) (follows : Bool) : Except FileFault FileNode :=
  match files.locate path follows with
  | .error fault => .error fault
  | .ok place =>
    match place.node with
    | none => .error .notFound
    | some node => .ok node

/-! ### Changes -/

def isChangeable (files : FileSystem) (location : Location) : Bool :=
  match files.node? location.dropLast with
  | some parent => parent.isWritable && parent.isSearchable
  | none => false

def erase (files : FileSystem) (location : Location) : FileSystem :=
  { files with nodes := files.nodes.filter (·.1 != location) }

def put (files : FileSystem) (location : Location) (node : FileNode) : FileSystem :=
  { files with nodes := (location, node) :: (files.erase location).nodes }

def isUsed (files : FileSystem) (inode : Nat) : Bool :=
  files.held.contains inode || files.nodes.any (·.2.inode == inode)

def freshInode (files : FileSystem) : Nat :=
  ((List.range (files.held.length + files.nodes.length + 1)).find? (!files.isUsed ·)).getD 0

/-- Make a node, with what the permission mask leaves of `mode`. -/
def create (files : FileSystem) (location : Location) (kind : FileKind) (mode : Nat) :
    FileSystem :=
  files.put location ⟨files.freshInode, kind, mode &&& 0o7755, files.user⟩

def modify (files : FileSystem) (inode : Nat) (change : FileNode → FileNode) : FileSystem :=
  { files with nodes := files.nodes.map fun (location, node) =>
      (location, if node.inode = inode then change node else node) }

def hold (files : FileSystem) (inode : Nat) : FileSystem :=
  { files with held := inode :: files.held }

end FileSystem

end TunnelBroker
