/-!
JSON documents as the broker writes them: strings, objects, and `null` for what is absent. In a
string, quotes, backslashes and control characters are escaped, the latter by a letter where JSON
has one and else by four digits in lower case; every other character stands as it is. A document is
written without any space, or else with each member on a line of its own.
-/

set_option autoImplicit false

namespace TunnelBroker

inductive Json where
  | null
  | string (text : String)
  | object (members : List (String × Json))

namespace Json

def escape (c : Char) : List Char :=
  if c = '"' then ['\\', '"']
  else if c = '\\' then ['\\', '\\']
  else if c = '\n' then ['\\', 'n']
  else if c = '\r' then ['\\', 'r']
  else if c = '\t' then ['\\', 't']
  else if c = '\x08' then ['\\', 'b']
  else if c = '\x0c' then ['\\', 'f']
  else if c < ' ' then
    ['\\', 'u', '0', '0', Nat.digitChar (c.toNat / 16), Nat.digitChar (c.toNat % 16)]
  else [c]

def quote (text : String) : List Char :=
  '"' :: text.toList.flatMap escape ++ ['"']

mutual

def compactChars : Json → List Char
  | null => ['n', 'u', 'l', 'l']
  | string text => quote text
  | object members => '{' :: compactMembers members ++ ['}']

def compactMembers : List (String × Json) → List Char
  | [] => []
  | [(key, value)] => quote key ++ ':' :: value.compactChars
  | (key, value) :: members =>
    quote key ++ ':' :: value.compactChars ++ ',' :: compactMembers members

end

def compact (json : Json) : String :=
  String.ofList json.compactChars

def newLine (depth : Nat) : List Char :=
  '\n' :: List.replicate (2 * depth) ' '

mutual

def prettyChars (depth : Nat) : Json → List Char
  | null => ['n', 'u', 'l', 'l']
  | string text => quote text
  | object [] => ['{', '}']
  | object members =>
    '{' :: newLine (depth + 1) ++ prettyMembers (depth + 1) members ++ newLine depth ++ ['}']

def prettyMembers (depth : Nat) : List (String × Json) → List Char
  | [] => []
  | [(key, value)] => quote key ++ ':' :: ' ' :: value.prettyChars depth
  | (key, value) :: members =>
    quote key ++ ':' :: ' ' :: value.prettyChars depth ++ ',' :: newLine depth ++
      prettyMembers depth members

end

def pretty (json : Json) : String :=
  String.ofList (json.prettyChars 0)

end Json

end TunnelBroker
