/-! Quoted TOML text: basic and literal strings, on one line or on several. -/

set_option autoImplicit false

namespace TunnelBroker.Toml

def isPlain (c : Char) : Bool :=
  c == '\t' || (' ' ≤ c && c != '\x7f')

def isSpace (c : Char) : Bool :=
  c == ' ' || c == '\t'

def hexValue? (c : Char) : Option Nat :=
  if '0' ≤ c ∧ c ≤ '9' then some (c.toNat - 48)
  else if 'a' ≤ c ∧ c ≤ 'f' then some (c.toNat - 87)
  else if 'A' ≤ c ∧ c ≤ 'F' then some (c.toNat - 55)
  else none

def codePoint? (digits : List Char) : Option Char := do
  let values ← digits.mapM hexValue?
  let n := values.foldl (fun value digit => value * 16 + digit) 0
  if n.isValidChar then some (Char.ofNat n) else none

def simpleEscape? : Char → Option Char
  | 'b' => some '\x08'
  | 't' => some '\t'
  | 'n' => some '\n'
  | 'f' => some '\x0c'
  | 'r' => some '\r'
  | '"' => some '"'
  | '\\' => some '\\'
  | _ => none

def consTo (c : Char) (read : Option (List Char × List Char)) : Option (List Char × List Char) :=
  read.map fun (text, rest) => (c :: text, rest)

inductive BasicMode where
  | text
  | escape
  /-- Behind a backslash and blanks, which a line end has to follow. -/
  | lineEnd
  | skip
  /-- Reading the digits of a code point, of which some are still missing. -/
  | digits (missing : Nat) (seen : List Char)
  deriving DecidableEq, Repr

def readBasic : BasicMode → List Char → Option (List Char × List Char)
  | .text, '"' :: rest => some ([], rest)
  | .text, '\\' :: rest => readBasic .escape rest
  | .text, c :: rest => if isPlain c then consTo c (readBasic .text rest) else none
  | .escape, 'u' :: rest => readBasic (.digits 4 []) rest
  | .escape, 'U' :: rest => readBasic (.digits 8 []) rest
  | .escape, c :: rest => (simpleEscape? c).bind fun c => consTo c (readBasic .text rest)
  | .digits missing seen, c :: rest =>
    if missing ≤ 1 then
      (codePoint? (seen ++ [c])).bind fun c => consTo c (readBasic .text rest)
    else readBasic (.digits (missing - 1) (seen ++ [c])) rest
  | _, _ => none

def readBasicLines : BasicMode → List Char → Option (List Char × List Char)
  | .text, '"' :: '"' :: '"' :: '"' :: '"' :: rest => some (['"', '"'], rest)
  | .text, '"' :: '"' :: '"' :: '"' :: rest => some (['"'], rest)
  | .text, '"' :: '"' :: '"' :: rest => some ([], rest)
  | .text, '\\' :: rest => readBasicLines .escape rest
  | .text, '\r' :: '\n' :: rest => consTo '\n' (readBasicLines .text rest)
  | .text, '\n' :: rest => consTo '\n' (readBasicLines .text rest)
  | .text, c :: rest => if isPlain c then consTo c (readBasicLines .text rest) else none
  | .escape, 'u' :: rest => readBasicLines (.digits 4 []) rest
  | .escape, 'U' :: rest => readBasicLines (.digits 8 []) rest
  | .escape, '\r' :: '\n' :: rest => readBasicLines .skip rest
  | .escape, '\n' :: rest => readBasicLines .skip rest
  | .escape, ' ' :: rest => readBasicLines .lineEnd rest
  | .escape, '\t' :: rest => readBasicLines .lineEnd rest
  | .escape, c :: rest => (simpleEscape? c).bind fun c => consTo c (readBasicLines .text rest)
  | .lineEnd, '\r' :: '\n' :: rest => readBasicLines .skip rest
  | .lineEnd, '\n' :: rest => readBasicLines .skip rest
  | .lineEnd, c :: rest => if isSpace c then readBasicLines .lineEnd rest else none
  | .skip, '\r' :: '\n' :: rest => readBasicLines .skip rest
  | .skip, '\n' :: rest => readBasicLines .skip rest
  | .skip, ' ' :: rest => readBasicLines .skip rest
  | .skip, '\t' :: rest => readBasicLines .skip rest
  | .skip, '"' :: '"' :: '"' :: '"' :: '"' :: rest => some (['"', '"'], rest)
  | .skip, '"' :: '"' :: '"' :: '"' :: rest => some (['"'], rest)
  | .skip, '"' :: '"' :: '"' :: rest => some ([], rest)
  | .skip, '\\' :: rest => readBasicLines .escape rest
  | .skip, c :: rest => if isPlain c then consTo c (readBasicLines .text rest) else none
  | .digits missing seen, c :: rest =>
    if missing ≤ 1 then
      (codePoint? (seen ++ [c])).bind fun c => consTo c (readBasicLines .text rest)
    else readBasicLines (.digits (missing - 1) (seen ++ [c])) rest
  | _, [] => none

def readLiteral : List Char → Option (List Char × List Char)
  | '\x27' :: rest => some ([], rest)
  | c :: rest => if isPlain c then consTo c (readLiteral rest) else none
  | [] => none

def readLiteralLines : List Char → Option (List Char × List Char)
  | '\x27' :: '\x27' :: '\x27' :: '\x27' :: '\x27' :: rest => some (['\x27', '\x27'], rest)
  | '\x27' :: '\x27' :: '\x27' :: '\x27' :: rest => some (['\x27'], rest)
  | '\x27' :: '\x27' :: '\x27' :: rest => some ([], rest)
  | '\r' :: '\n' :: rest => consTo '\n' (readLiteralLines rest)
  | '\n' :: rest => consTo '\n' (readLiteralLines rest)
  | c :: rest => if isPlain c then consTo c (readLiteralLines rest) else none
  | [] => none

def skipLineEnd : List Char → List Char
  | '\r' :: '\n' :: rest => rest
  | '\n' :: rest => rest
  | text => text

def readString? : List Char → Option (List Char × List Char)
  | '"' :: '"' :: '"' :: rest => readBasicLines .text (skipLineEnd rest)
  | '"' :: rest => readBasic .text rest
  | '\x27' :: '\x27' :: '\x27' :: rest => readLiteralLines (skipLineEnd rest)
  | '\x27' :: rest => readLiteral rest
  | _ => none

end TunnelBroker.Toml
