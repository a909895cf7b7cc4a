import TunnelBroker.Encoding.Json

/-!
Reading JSON text: what the standard calls JSON and nothing beyond it. Half of a surrogate pair is a
fault only where the text of the string is asked for, and values may be nested to any depth. Text
that breaks off still gives a tree: what could be read before the fault is kept and the place of the
fault is marked, so that records can be read up to it and the first fault in document order is the
one reported.
-/

set_option autoImplicit false

namespace TunnelBroker.Json

inductive Reading where
  | null
  | bool
  | number
  /-- A string; without text if it holds half of a surrogate pair. -/
  | string (text : Option String)
  /-- The items before the closing bracket or before a fault. -/
  | array (items : List Reading) (closed : Bool)
  | object (members : List (Option String × Reading)) (closed : Bool)
  | broken

namespace Reading

mutual

def isWhole : Reading → Bool
  | broken => false
  | array items closed => allWhole items && closed
  | object members closed => allMembersWhole members && closed
  | _ => true

def allWhole : List Reading → Bool
  | [] => true
  | item :: items => item.isWhole && allWhole items

def allMembersWhole : List (Option String × Reading) → Bool
  | [] => true
  | (_, value) :: members => value.isWhole && allMembersWhole members

end

end Reading

def isSpace (c : Char) : Bool :=
  c == ' ' || c == '\t' || c == '\n' || c == '\r'

def skipSpace (text : List Char) : List Char :=
  text.dropWhile isSpace

/-! ### Strings -/

def hexDigit? (c : Char) : Option Nat :=
  if '0' ≤ c ∧ c ≤ '9' then some (c.toNat - 48)
  else if 'a' ≤ c ∧ c ≤ 'f' then some (c.toNat - 87)
  else if 'A' ≤ c ∧ c ≤ 'F' then some (c.toNat - 55)
  else none

def hexUnit? (a b c d : Char) : Option Nat := do
  let a ← hexDigit? a
  let b ← hexDigit? b
  let c ← hexDigit? c
  let d ← hexDigit? d
  return ((a * 16 + b) * 16 + c) * 16 + d

def simpleEscape? : Char → Option Char
  | '"' => some '"'
  | '\\' => some '\\'
  | '/' => some '/'
  | 'b' => some '\x08'
  | 'f' => some '\x0c'
  | 'n' => some '\n'
  | 'r' => some '\r'
  | 't' => some '\t'
  | _ => none

/-- Read a string behind its opening quote: its code points and UTF-16 units, and the rest. -/
def readUnits : List Char → Option (List Nat × List Char)
  | '"' :: rest => some ([], rest)
  | '\\' :: 'u' :: a :: b :: c :: d :: rest => do
    let unit ← hexUnit? a b c d
    let (units, rest) ← readUnits rest
    return (unit :: units, rest)
  | '\\' :: c :: rest => do
    let c ← simpleEscape? c
    let (units, rest) ← readUnits rest
    return (c.toNat :: units, rest)
  | c :: rest =>
    if c < ' ' ∨ c = '\\' then none
    else do
      let (units, rest) ← readUnits rest
      return (c.toNat :: units, rest)
  | [] => none

def isHighSurrogate (unit : Nat) : Bool :=
  0xD800 ≤ unit && unit ≤ 0xDBFF

def isLowSurrogate (unit : Nat) : Bool :=
  0xDC00 ≤ unit && unit ≤ 0xDFFF

def joinUnits : List Nat → Option (List Char)
  | [] => some []
  | unit :: units =>
    if isHighSurrogate unit then
      match units with
      | low :: rest =>
        if isLowSurrogate low then
          (joinUnits rest).map
            (Char.ofNat (0x10000 + (unit - 0xD800) * 0x400 + (low - 0xDC00)) :: ·)
        else none
      | [] => none
    else if isLowSurrogate unit then none
    else (joinUnits units).map (Char.ofNat unit :: ·)

def readString (text : List Char) : Option (Option String × List Char) :=
  (readUnits text).map fun (units, rest) => ((joinUnits units).map String.ofList, rest)

/-! ### Numbers -/

def isDigit (c : Char) : Bool :=
  '0' ≤ c && c ≤ '9'

def skipDigits? : List Char → Option (List Char)
  | c :: rest => if isDigit c then some (rest.dropWhile isDigit) else none
  | [] => none

def skipWhole? : List Char → Option (List Char)
  | '0' :: c :: rest => if isDigit c then none else some (c :: rest)
  | text => skipDigits? text

def skipFraction? : List Char → Option (List Char)
  | '.' :: rest => skipDigits? rest
  | text => some text

def skipSign : List Char → List Char
  | '+' :: rest => rest
  | '-' :: rest => rest
  | text => text

def skipExponent? : List Char → Option (List Char)
  | 'e' :: rest => skipDigits? (skipSign rest)
  | 'E' :: rest => skipDigits? (skipSign rest)
  | text => some text

def skipNumber? (text : List Char) : Option (List Char) :=
  let unsigned := match text with
    | '-' :: rest => rest
    | text => text
  (skipWhole? unsigned).bind fun rest => (skipFraction? rest).bind skipExponent?

/-! ### Values -/

mutual

/-- Read one value; `fuel` bounds the depth and the number of its parts. -/
def readValue : (fuel : Nat) → List Char → Reading × List Char
  | 0, _ => (.broken, [])
  | fuel + 1, text =>
    match skipSpace text with
    | 'n' :: 'u' :: 'l' :: 'l' :: rest => (.null, rest)
    | 't' :: 'r' :: 'u' :: 'e' :: rest => (.bool, rest)
    | 'f' :: 'a' :: 'l' :: 's' :: 'e' :: rest => (.bool, rest)
    | '"' :: rest =>
      match readString rest with
      | some (text, rest) => (.string text, rest)
      | none => (.broken, [])
    | '[' :: rest =>
      match skipSpace rest with
      | ']' :: rest => (.array [] true, rest)
      | rest =>
        let (items, closed, rest) := readItems fuel rest
        (.array items closed, rest)
    | '{' :: rest =>
      match skipSpace rest with
      | '}' :: rest => (.object [] true, rest)
      | rest =>
        let (members, closed, rest) := readMembers fuel rest
        (.object members closed, rest)
    | text =>
      match skipNumber? text with
      | some rest => (.number, rest)
      | none => (.broken, [])

def readItems : (fuel : Nat) → List Char → List Reading × Bool × List Char
  | 0, _ => ([.broken], false, [])
  | fuel + 1, text =>
    let (item, rest) := readValue fuel text
    match skipSpace rest with
    | ',' :: rest =>
      let (items, closed, rest) := readItems fuel rest
      (item :: items, closed, rest)
    | ']' :: rest => ([item], true, rest)
    | _ => ([item], false, [])

def readMembers : (fuel : Nat) → List Char → List (Option String × Reading) × Bool × List Char
  | 0, _ => ([], false, [])
  | fuel + 1, text =>
    match skipSpace text with
    | '"' :: rest =>
      match readString rest with
      | none => ([], false, [])
      | some (key, rest) =>
        match skipSpace rest with
        | ':' :: rest =>
          let (value, rest) := readValue fuel rest
          match skipSpace rest with
          | ',' :: rest =>
            let (members, closed, rest) := readMembers fuel rest
            ((key, value) :: members, closed, rest)
          | '}' :: rest => ([(key, value)], true, rest)
          | _ => ([(key, value)], false, [])
        | _ => ([(key, .broken)], false, [])
    | _ => ([], false, [])

end

def read (text : List Char) : Reading × List Char :=
  readValue (2 * text.length + 2) text

end TunnelBroker.Json
