import TunnelBroker.Failure

/-! What can go wrong with a file, a directory or a socket. -/

set_option autoImplicit false

namespace TunnelBroker

inductive FileFault where
  | notPermitted
  | notFound
  /-- Sockets can't be opened as files. -/
  | noDevice
  | denied
  | alreadyThere
  | notDirectory
  | isDirectory
  | invalid
  | nameTooLong
  | notEmpty
  | tooManyLinks
  | addressInUse
  | unreachable
  | refused
  | nulInName
  | nulInAddress
  | addressTooLong
  | notText
  | incompleteTree
  deriving DecidableEq, Repr

namespace FileFault

def number? : FileFault → Option Nat
  | notPermitted => some 1
  | notFound => some 2
  | noDevice => some 6
  | denied => some 13
  | alreadyThere => some 17
  | notDirectory => some 20
  | isDirectory => some 21
  | invalid => some 22
  | nameTooLong => some 36
  | notEmpty => some 39
  | tooManyLinks => some 40
  | addressInUse => some 98
  | unreachable => some 101
  | refused => some 111
  | _ => none

def description : FileFault → String
  | notPermitted => "Operation not permitted"
  | notFound => "No such file or directory"
  | noDevice => "No such device or address"
  | denied => "Permission denied"
  | alreadyThere => "File exists"
  | notDirectory => "Not a directory"
  | isDirectory => "Is a directory"
  | invalid => "Invalid argument"
  | nameTooLong => "File name too long"
  | notEmpty => "Directory not empty"
  | tooManyLinks => "Too many levels of symbolic links"
  | addressInUse => "Address already in use"
  | unreachable => "Network is unreachable"
  | refused => "Connection refused"
  | nulInName => "file name contained an unexpected NUL byte"
  | nulInAddress => "paths must not contain interior null bytes"
  | addressTooLong => "path must be shorter than SUN_LEN"
  | notText => "stream did not contain valid UTF-8"
  | incompleteTree => "failed to create whole tree"

def message (fault : FileFault) : String :=
  fault.description ++
    fault.number?.elim "" fun number => " (os error " ++ toString number ++ ")"

def failure (fault : FileFault) : Failure :=
  .io fault.message

end FileFault

end TunnelBroker
