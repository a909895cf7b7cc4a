import TunnelBroker.Path

/-!
What a file system holds, and the places where it is. A place is told by the names that lead there
from the root. Reading, changing and searching are granted by the bits for the owner, whoever asks.
-/

set_option autoImplicit false

namespace TunnelBroker

abbrev Location := List Bytes

inductive FileKind where
  | directory
  | file (content : Bytes)
  | socket
  | link (target : Path)
  /-- A device that takes everything and holds nothing. -/
  | device
  deriving DecidableEq, Repr

structure FileNode where
  /-- The number that tells nodes apart which exist at the same time. -/
  inode : Nat
  kind : FileKind
  /-- The permission bits, with the three bits above them. -/
  mode : Nat
  owner : Nat
  deriving DecidableEq, Repr

namespace FileNode

def isDirectory (node : FileNode) : Bool :=
  node.kind = .directory

def isSocket (node : FileNode) : Bool :=
  node.kind = .socket

def ownerBits (node : FileNode) : Nat :=
  node.mode / 64 % 8

def isReadable (node : FileNode) : Bool :=
  node.ownerBits / 4 % 2 = 1

def isWritable (node : FileNode) : Bool :=
  node.ownerBits / 2 % 2 = 1

def isSearchable (node : FileNode) : Bool :=
  node.ownerBits % 2 = 1

def isWorldWritable (node : FileNode) : Bool :=
  node.mode / 2 % 2 = 1

/-- Only the owners of its entries may remove them, as the mode has it; no call heeds that. -/
def isSticky (node : FileNode) : Bool :=
  node.mode / 512 % 2 = 1

/-- Whether directories inside inherit the directory's group. -/
def sharesGroup (node : FileNode) : Bool :=
  node.mode / 1024 % 2 = 1

end FileNode

end TunnelBroker
