import TunnelBroker.FileSystem
import TunnelBroker.Interaction

/-!
What a program can ask of the file system. Each call is one step: between two calls of a
program, others may change the files.
-/

set_option autoImplicit false

namespace TunnelBroker

inductive WritePosition where
  | start
  | finish
  deriving DecidableEq, Repr

inductive FileCall where
  | user
  /-- What a path leads to, behind a link at its end or not. -/
  | status (path : Path) (follows : Bool)
  | makeDirectory (path : Path)
  | setMode (path : Path) (mode : Nat)
  /-- Open a file for writing; one that does not exist is made with the given mode. -/
  | openFile (path : Path) (truncates : Bool) (mode : Nat)
  | write (inode : Nat) (position : WritePosition) (bytes : Bytes)
  | sync (inode : Nat)
  | rename (source target : Path)
  | unlink (path : Path)
  | contentOf (path : Path)
  | listen (path : Path)
  | close (inode : Nat)

abbrev FileCall.Answer : FileCall → Type
  | user => Nat
  | status .. => Except FileFault FileNode
  | makeDirectory _ => Except FileFault Unit
  | setMode .. => Except FileFault Unit
  | openFile .. => Except FileFault Nat
  | write .. => Except FileFault Unit
  | sync _ => Except FileFault Unit
  | rename .. => Except FileFault Unit
  | unlink _ => Except FileFault Unit
  | contentOf _ => Except FileFault Bytes
  | listen _ => Except FileFault Nat
  | close _ => Unit

abbrev FileTask (α : Type) : Type := Interaction FileCall FileCall.Answer α

def FileTask.ask (call : FileCall) : FileTask call.Answer := Interaction.call call

namespace FileSystem

abbrev Change (α : Type) : Type := FileSystem → Except FileFault α × FileSystem

/-- Sort out the place of a new entry, or say why there can't be one. -/
def vacancy (files : FileSystem) (path : Path) (taken : FileFault) : Except FileFault Location :=
  match files.locateEntry path with
  | .error fault => .error fault
  | .ok place =>
    if place.node.isSome then .error taken
    else if files.isChangeable place.location then .ok place.location
    else .error .denied

def makeDirectory (path : Path) : Change Unit := fun files =>
  match files.vacancy path .alreadyThere with
  | .error fault => (.error fault, files)
  | .ok location =>
    let group := match files.node? location.dropLast with
      | some parent => if parent.sharesGroup then 0o2000 else 0
      | none => 0
    (.ok (), files.create location .directory (0o777 + group))

def setMode (path : Path) (mode : Nat) : Change Unit := fun files =>
  match files.find path true with
  | .error fault => (.error fault, files)
  | .ok node =>
    if node.owner = files.user then
      (.ok (), files.modify node.inode ({ · with mode := mode % 0o10000 }))
    else (.error .notPermitted, files)

def openNode (node : FileNode) (truncates : Bool) : Change Nat := fun files =>
  if node.isDirectory then (.error .isDirectory, files)
  else if !node.isWritable then (.error .denied, files)
  else
    match node.kind with
    | .socket => (.error .noDevice, files)
    | .file _ =>
      let files := files.hold node.inode
      (.ok node.inode,
        if truncates then files.modify node.inode ({ · with kind := .file [] }) else files)
    | _ => (.ok node.inode, files.hold node.inode)

def openFile (path : Path) (truncates : Bool) (mode : Nat) : Change Nat := fun files =>
  match files.locateAs path true false with
  | .error fault => (.error fault, files)
  | .ok place =>
    if path.endsInSlash then (.error .isDirectory, files)
    else
      match place.node with
      | some node => openNode node truncates files
      | none =>
        if files.isChangeable place.location then
          let inode := files.freshInode
          (.ok inode, (files.create place.location (.file []) mode).hold inode)
        else (.error .denied, files)

def written (position : WritePosition) (bytes content : Bytes) : Bytes :=
  match position with
  | .start => bytes ++ content.drop bytes.length
  | .finish => content ++ bytes

def writeNode (position : WritePosition) (bytes : Bytes) (node : FileNode) : FileNode :=
  match node.kind with
  | .file content => { node with kind := .file (written position bytes content) }
  | _ => node

def write (inode : Nat) (position : WritePosition) (bytes : Bytes) : Change Unit := fun files =>
  (.ok (), files.modify inode (writeNode position bytes))

/-- Devices have nothing to be made safe. -/
def sync (inode : Nat) : Change Unit := fun files =>
  (if files.nodes.any fun (_, node) => node.inode = inode ∧ node.kind = .device then
    .error .invalid
  else .ok (), files)

def replace (source : Location) (node : FileNode) (target : Place) : Change Unit := fun files =>
  match target.node with
  | none =>
    if files.isChangeable target.location then
      (.ok (), (files.erase source).put target.location node)
    else (.error .denied, files)
  | some old =>
    -- Both names are of one node already.
    if old.inode = node.inode then (.ok (), files)
    else if !files.isChangeable target.location then (.error .denied, files)
    else if old.isDirectory then (.error .isDirectory, files)
    else (.ok (), (files.erase source).put target.location node)

def rename (source target : Path) : Change Unit := fun files =>
  match files.locateEntry source, files.locateEntry target with
  | .error fault, _ => (.error fault, files)
  | _, .error fault => (.error fault, files)
  | .ok origin, .ok goal =>
    match origin.node with
    | none => (.error .notFound, files)
    | some node =>
      if node.isDirectory then (.error .isDirectory, files)
      else if source.endsInSlash || target.endsInSlash then (.error .notDirectory, files)
      else if !files.isChangeable origin.location then (.error .denied, files)
      else replace origin.location node goal files

def unlink (path : Path) : Change Unit := fun files =>
  match files.locateEntry path with
  | .error fault => (.error fault, files)
  | .ok place =>
    match place.node with
    | none => (.error .notFound, files)
    | some node =>
      if node.isDirectory then (.error .isDirectory, files)
      else if path.endsInSlash then (.error .notDirectory, files)
      else if !files.isChangeable place.location then (.error .denied, files)
      else (.ok (), files.erase place.location)

def contentOf (files : FileSystem) (path : Path) : Except FileFault Bytes :=
  match files.find path true with
  | .error fault => .error fault
  | .ok node =>
    if !node.isReadable then .error .denied
    else
      match node.kind with
      | .file content => .ok content
      | .directory => .error .isDirectory
      | .socket => .error .noDevice
      | _ => .ok []

def addressLimit : Nat := 108

def addressFault? (path : Path) : Option FileFault :=
  if path.bytes.contains 0 then some .nulInAddress
  else if addressLimit ≤ path.bytes.length then some .addressTooLong
  else none

/-- A socket without an address is listened on, but has no place. -/
def listen (path : Path) : Change Nat := fun files =>
  match addressFault? path with
  | some fault => (.error fault, files)
  | none =>
    let inode := files.freshInode
    if path.bytes.isEmpty then (.ok inode, files.hold inode)
    else
      match files.vacancy path .addressInUse with
      | .error fault => (.error fault, files)
      | .ok location =>
        if path.endsInSlash then (.error .notFound, files)
        else (.ok inode, (files.create location .socket 0o777).hold inode)

def listener (files : FileSystem) (path : Path) : Except FileFault Nat :=
  match addressFault? path with
  | some fault => .error fault
  | none =>
    if path.bytes.isEmpty then .error .invalid
    else
      match files.find path true with
      | .error fault => .error fault
      | .ok node =>
        if !node.isWritable then .error .denied
        else if node.isSocket && files.held.contains node.inode then .ok node.inode
        else .error .refused

def close (files : FileSystem) (inode : Nat) : FileSystem :=
  { files with held := files.held.erase inode }

def react : Interaction.Handler FileCall FileCall.Answer FileSystem
  | .user, files => (files.user, files)
  | .status path follows, files => (files.find path follows, files)
  | .makeDirectory path, files => files.makeDirectory path
  | .setMode path mode, files => files.setMode path mode
  | .openFile path truncates mode, files => files.openFile path truncates mode
  | .write inode position bytes, files => files.write inode position bytes
  | .sync inode, files => files.sync inode
  | .rename source target, files => files.rename source target
  | .unlink path, files => files.unlink path
  | .contentOf path, files => (files.contentOf path, files)
  | .listen path, files => files.listen path
  | .close inode, files => ((), files.close inode)

def run {α : Type} (files : FileSystem) (task : FileTask α) : α × FileSystem :=
  task.run react files

end FileSystem

end TunnelBroker
