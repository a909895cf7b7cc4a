import TunnelBroker.FileSystem.Call
import TunnelBroker.Privacy

/-! Making files private, and refusing those that are not. -/

set_option autoImplicit false

namespace TunnelBroker

namespace Path

/-- The directories above a path, from the innermost one on. -/
def ancestorsWithin : Nat → Path → List Path
  | 0, _ => []
  | depth + 1, path =>
    match path.parent? with
    | none => []
    | some parent => parent :: ancestorsWithin depth parent

def ancestors (path : Path) : List Path :=
  ancestorsWithin path.bytes.length path

end Path

namespace FileTask

def exists? (path : Path) : FileTask Bool := do
  return (← ask (.status path true)).toOption.isSome

def isDirectory (path : Path) : FileTask Bool := do
  return (← ask (.status path true)).toOption.any (·.isDirectory)

/-- The fault of making a directory counts unless there is a directory. -/
def unlessDirectory (path : Path) (made : Except FileFault Unit) :
    FileTask (Except FileFault Unit) := do
  match made with
  | .ok _ => return .ok ()
  | .error fault => if ← isDirectory path then return .ok () else return .error fault

/-- Make a directory; `above` makes the directory above it, if that is missing. -/
def makeAfter (above : FileTask (Except FileFault Unit)) (path : Path) :
    FileTask (Except FileFault Unit) := do
  if path.bytes.isEmpty then return .ok ()
  match ← ask (.makeDirectory path) with
  | .error .notFound =>
    match ← above with
    | .error fault => return .error fault
    | .ok _ => unlessDirectory path (← ask (.makeDirectory path))
  | made => unlessDirectory path made

def makeBelow : (ancestors : List Path) → Path → FileTask (Except FileFault Unit)
  | [], path => makeAfter (return .error .incompleteTree) path
  | parent :: others, path => makeAfter (makeBelow others parent) path

def makeTree (path : Path) : FileTask (Except FileFault Unit) :=
  makeBelow path.ancestors path

end FileTask

namespace Privacy

open FileTask (ask)

/-- Take away all permissions beyond the limit, and give those within it. -/
def restrict (privacy : Privacy) (path : Path) : FileTask (Except Failure Unit) := do
  match ← ask (.setMode path privacy.limit) with
  | .ok _ => return .ok ()
  | .error fault =>
    return .error (.permission
      ("Failed to set permissions on " ++ path.quoted ++ ": " ++ fault.message))

def octal (mode : Nat) : String :=
  String.ofList (Nat.toDigits 8 mode)

def check (privacy : Privacy) (path : Path) : FileTask (Except Failure Unit) := do
  match ← ask (.status path true) with
  | .error fault =>
    return .error (.permission
      ("Failed to read metadata for " ++ path.quoted ++ ": " ++ fault.message))
  | .ok node =>
    if privacy.exceeds node.mode then
      return .error (.permission ("File " ++ path.quoted ++ " has insecure permissions: " ++
        octal (node.mode % 512) ++ ", expected " ++ privacy.description))
    else if node.owner = (← ask .user) then return .ok ()
    else
      return .error (.permission
        ("File " ++ path.quoted ++ " is not owned by the current user"))

def checkShared (path : Path) : FileTask (Except Failure Unit) := do
  match ← ask (.status path true) with
  | .error fault => return .error fault.failure
  | .ok node =>
    if node.isWorldWritable && !node.isSticky then
      return .error (.permission ("Directory " ++ path.quoted ++ " is world-writable"))
    else return .ok ()

/--
Make sure of a directory. A new one is private; one that is there already keeps its
mode, as it may serve others too.
-/
def ensureDirectory (path : Path) : FileTask (Except Failure Unit) := do
  if ← FileTask.exists? path then
    if ← FileTask.isDirectory path then checkShared path
    else return .error (.permission (path.quoted ++ " is not a directory"))
  else
    match ← FileTask.makeTree path with
    | .error fault =>
      return .error (.permission
        ("Failed to create directory " ++ path.quoted ++ ": " ++ fault.message))
    | .ok _ => restrict .directory path

end Privacy

end TunnelBroker
