import TunnelBroker.Failure
import TunnelBroker.Text.Quoted

/-!
File paths: names between slashes. Empty names and `.` lead nowhere; `..` leads to the
directory above.
-/

set_option autoImplicit false

namespace TunnelBroker

structure Path where
  bytes : Bytes
  deriving DecidableEq, Repr

namespace Path

def slash : UInt8 := 47

def dot : Bytes := [46]

def dotDot : Bytes := [46, 46]

def ofText (text : String) : Path :=
  ⟨Text.encode text⟩

def quoted (path : Path) : String :=
  Text.quoteBytes path.bytes

def text (path : Path) : String :=
  Text.decodeLossy path.bytes

def isAbsolute (path : Path) : Bool :=
  path.bytes.head? == some slash

def segments (path : Path) : List Bytes :=
  path.bytes.splitOnP (· == slash)

def ofSegments (segments : List Bytes) : Path :=
  ⟨List.intercalate [slash] segments⟩

/-- Whether a segment names neither an entry nor the directory above. -/
def isIdle (segment : Bytes) : Bool :=
  segment == [] || segment == dot

def names (path : Path) : List Bytes :=
  path.segments.filter (!isIdle ·)

/-! ### Components -/

inductive Component where
  | root
  /-- The directory that the way begins in, where the path says so. -/
  | here
  | up
  | name (name : Bytes)
  deriving DecidableEq, Repr

def component? (segment : Bytes) : Option Component :=
  if isIdle segment then none
  else if segment == dotDot then some .up
  else some (.name segment)

/-- The components behind the start of a path. Each one is read up to the next slash. -/
def componentsBehind : Bytes → List Component
  | [] => []
  | byte :: bytes =>
    let segment := (byte :: bytes).takeWhile (· != slash)
    (component? segment).toList ++ componentsBehind ((byte :: bytes).drop (segment.length + 1))
termination_by bytes => bytes.length

/-- Whether a path without a root begins with `.` as a part of its own. -/
def startsHere : Bytes → Bool
  | 46 :: [] => true
  | 46 :: byte :: _ => byte == slash
  | _ => false

def components (path : Path) : List Component :=
  if path.isAbsolute then .root :: componentsBehind path.bytes.tail
  else if startsHere path.bytes then .here :: componentsBehind path.bytes.tail
  else componentsBehind path.bytes

def goesUp (path : Path) : Bool :=
  path.components.contains .up

/-! ### Other paths -/

def join (path other : Path) : Path :=
  if other.isAbsolute || path.bytes.isEmpty then other
  else if path.bytes.getLast? = some slash then ⟨path.bytes ++ other.bytes⟩
  else ⟨path.bytes ++ slash :: other.bytes⟩

def dropIdleTail (segments : List Bytes) : List Bytes :=
  (segments.reverse.dropWhile isIdle).reverse

/-- The path without its last part; a path without parts has none. -/
def parent? (path : Path) : Option Path :=
  if path.bytes.isEmpty then none
  else
    match path.segments with
    | [] => none
    | first :: others =>
      match dropIdleTail others with
      | [] => if path.isAbsolute then none else some ⟨[]⟩
      | parts =>
        match dropIdleTail parts.dropLast with
        | [] => some (if path.isAbsolute then ⟨[slash]⟩ else ofSegments [first])
        | parts => some (ofSegments (first :: parts))

/-! ### The check -/

inductive Fault where
  | nul
  | goesUp
  deriving DecidableEq, Repr

def Fault.message : Fault → String
  | nul => "Path contains null byte"
  | goesUp => "Path contains invalid parent directory reference"

def Fault.failure (fault : Fault) : Failure :=
  .validation fault.message

def fault? (path : Path) : Option Fault :=
  if path.bytes.contains 0 then some .nul
  else if path.goesUp then some .goesUp
  else none

def sanitize (path : Path) : Except Failure Path :=
  match path.fault? with
  | some fault => .error fault.failure
  | none => .ok path

end Path

end TunnelBroker
