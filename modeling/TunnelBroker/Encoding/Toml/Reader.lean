import TunnelBroker.Encoding.Toml.Quoted
import TunnelBroker.Encoding.Toml.Scalar

/-! Reading TOML text: keys, values, and the lines of a document. -/

set_option autoImplicit false

namespace TunnelBroker.Toml

/-- Arrays, braces and dotted keys may be nested less deep than this. -/
def nestingLimit : Nat := 80

def skipSpace (text : List Char) : List Char :=
  text.dropWhile isSpace

def skipComment : List Char → List Char
  | '#' :: rest => rest.dropWhile isPlain
  | text => text

def endLine? (text : List Char) : Option (List Char) :=
  match skipComment (skipSpace text) with
  | [] => some []
  | '\n' :: rest => some rest
  | '\r' :: '\n' :: rest => some rest
  | _ => none

def skipLines : (fuel : Nat) → List Char → List Char
  | 0, text => text
  | fuel + 1, text =>
    match skipSpace text with
    | '\n' :: rest => skipLines fuel rest
    | '\r' :: '\n' :: rest => skipLines fuel rest
    | '#' :: rest => skipLines fuel (rest.dropWhile isPlain)
    | text => text

def skipBetween (text : List Char) : List Char :=
  skipLines (text.length + 1) text

/-! ### Keys -/

def isBareKeyChar (c : Char) : Bool :=
  c.isAlphanum || c == '-' || c == '_'

def readKeyPart? : List Char → Option (String × List Char)
  | '"' :: rest => (readBasic .text rest).map fun (key, rest) => (String.ofList key, rest)
  | '\x27' :: rest => (readLiteral rest).map fun (key, rest) => (String.ofList key, rest)
  | text =>
    match text.span isBareKeyChar with
    | ([], _) => none
    | (key, rest) => some (String.ofList key, rest)

def readKeyParts : (fuel : Nat) → List Char → Option (List String × List Char)
  | 0, _ => none
  | fuel + 1, text => do
    let (part, rest) ← readKeyPart? (skipSpace text)
    match skipSpace rest with
    | '.' :: rest => do
      let (parts, rest) ← readKeyParts fuel rest
      return (part :: parts, rest)
    | rest => return ([part], rest)

def readKey? (text : List Char) : Option ((List String × String) × List Char) := do
  let (parts, rest) ← readKeyParts nestingLimit text
  let key ← parts.getLast?
  if parts.length < nestingLimit then return ((parts.dropLast, key), rest) else none

/-! ### Values -/

mutual

/-- Read a value; `depth` more levels may be opened in it, and `fuel` bounds its parts. -/
def readValue : (fuel depth : Nat) → List Char → Option (Value × List Char)
  | 0, _, _ => none
  | fuel + 1, depth, text =>
    match text, depth with
    | '[' :: rest, depth + 1 => do
      match skipBetween rest with
      | ']' :: rest => return (.array [], rest)
      | rest => do
        let (items, rest) ← readItems fuel depth rest
        return (.array items, rest)
    | '{' :: rest, depth + 1 => do
      match skipSpace rest with
      | '}' :: rest => return (.table .braces [], rest)
      | rest => do
        let (entries, rest) ← readEntries fuel depth rest
        let table ← addEntries ⟨.braces, []⟩ entries
        return (.table .braces table.entries, rest)
    | '"' :: _, _ => (readString? text).map fun (text, rest) => (.string (String.ofList text), rest)
    | '\x27' :: _, _ =>
      (readString? text).map fun (text, rest) => (.string (String.ofList text), rest)
    | _, _ => readScalar? text

def readItems : (fuel depth : Nat) → List Char → Option (List Value × List Char)
  | 0, _, _ => none
  | fuel + 1, depth, text => do
    let (item, rest) ← readValue fuel depth text
    match skipBetween rest with
    | ']' :: rest => return ([item], rest)
    | ',' :: rest =>
      match skipBetween rest with
      | ']' :: rest => return ([item], rest)
      | rest => do
        let (items, rest) ← readItems fuel depth rest
        return (item :: items, rest)
    | _ => none

def readEntries : (fuel depth : Nat) → List Char → Option (List Entry × List Char)
  | 0, _, _ => none
  | fuel + 1, depth, text => do
    let ((path, key), rest) ← readKey? text
    match rest with
    | '=' :: rest => do
      let (value, rest) ← readValue fuel depth (skipSpace rest)
      match skipSpace rest with
      | '}' :: rest => return ([⟨path, key, value⟩], rest)
      | ',' :: rest => do
        let (entries, rest) ← readEntries fuel depth rest
        return (⟨path, key, value⟩ :: entries, rest)
      | _ => none
    | _ => none

end

/-! ### Documents -/

inductive Line where
  | blank
  | entry (entry : Entry)
  | header (repeated : Bool) (path : List String) (key : String)

def readEntry? (text : List Char) : Option (Entry × List Char) := do
  let ((path, key), rest) ← readKey? text
  match rest with
  | '=' :: rest => do
    let (value, rest) ← readValue (2 * rest.length + 2) (nestingLimit - 1) (skipSpace rest)
    return (⟨path, key, value⟩, rest)
  | _ => none

def readHeader? (repeated : Bool) (text : List Char) : Option (Line × List Char) := do
  let ((path, key), rest) ← readKey? text
  match repeated, rest with
  | true, ']' :: ']' :: rest => return (.header true path key, rest)
  | false, ']' :: rest => return (.header false path key, rest)
  | _, _ => none

def readLine? (text : List Char) : Option (Line × List Char) := do
  match skipSpace text with
  | '[' :: '[' :: rest => do
    let (line, rest) ← readHeader? true rest
    return (line, ← endLine? rest)
  | '[' :: rest => do
    let (line, rest) ← readHeader? false rest
    return (line, ← endLine? rest)
  | rest =>
    match endLine? rest with
    | some rest => return (.blank, rest)
    | none => do
      let (entry, rest) ← readEntry? rest
      return (.entry entry, ← endLine? rest)

def readLines : (fuel : Nat) → List Char → Option (List Line)
  | _, [] => some []
  | 0, _ => none
  | fuel + 1, text => do
    let (line, rest) ← readLine? text
    let lines ← readLines fuel rest
    return line :: lines

def group : List Line → List Entry × List Section
  | [] => ([], [])
  | .blank :: lines => group lines
  | .entry entry :: lines =>
    let (entries, sections) := group lines
    (entry :: entries, sections)
  | .header repeated path key :: lines =>
    let (entries, sections) := group lines
    ([], ⟨repeated, path, key, entries⟩ :: sections)

def parse (text : String) : Option Entries := do
  let text := match text.toList with
    | '\uFEFF' :: rest => rest
    | text => text
  let lines ← readLines (text.length + 1) text
  let (entries, sections) := group lines
  ofSections entries sections

end TunnelBroker.Toml
