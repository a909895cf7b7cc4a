/-!
UTF-8 over byte lists. A byte list is cut into pieces, each one well-formed
character or one maximal ill-formed run; strict and lossy decoding read the pieces.
-/

set_option autoImplicit false

namespace TunnelBroker

abbrev Bytes := List UInt8

namespace Text

def encodeChars (text : List Char) : Bytes :=
  text.flatMap String.utf8EncodeChar

def encode (text : String) : Bytes :=
  encodeChars text.toList

def isContinuation (b : UInt8) : Bool :=
  0x80 ≤ b && b ≤ 0xBF

/-- Whether `second` may follow `lead` in a well-formed sequence of three bytes. -/
def opensThree (lead second : UInt8) : Bool :=
  if lead == 0xE0 then 0xA0 ≤ second && second ≤ 0xBF
  else if lead == 0xED then 0x80 ≤ second && second ≤ 0x9F
  else 0xE1 ≤ lead && lead ≤ 0xEF && isContinuation second

/-- Whether `second` may follow `lead` in a well-formed sequence of four bytes. -/
def opensFour (lead second : UInt8) : Bool :=
  if lead == 0xF0 then 0x90 ≤ second && second ≤ 0xBF
  else if lead == 0xF4 then 0x80 ≤ second && second ≤ 0x8F
  else 0xF1 ≤ lead && lead ≤ 0xF3 && isContinuation second

/-- A well-formed character, or the bytes of a maximal ill-formed run. -/
inductive Piece where
  | character (c : Char)
  | broken (bytes : Bytes)
  deriving DecidableEq, Repr

def low6 (b : UInt8) : Nat :=
  b.toNat % 64

def character (codePoint : Nat) : Piece :=
  .character (Char.ofNat codePoint)

def firstPiece (lead : UInt8) (rest : Bytes) : Piece × Bytes :=
  if lead < 0x80 then (character lead.toNat, rest)
  else
    match rest with
    | [] => (.broken [lead], [])
    | second :: rest₂ =>
      if 0xC2 ≤ lead && lead ≤ 0xDF then
        if isContinuation second then (character (lead.toNat % 32 * 64 + low6 second), rest₂)
        else (.broken [lead], rest)
      else if opensThree lead second then
        match rest₂ with
        | [] => (.broken [lead, second], [])
        | third :: rest₃ =>
          if isContinuation third then
            (character ((lead.toNat % 16 * 64 + low6 second) * 64 + low6 third), rest₃)
          else (.broken [lead, second], rest₂)
      else if opensFour lead second then
        match rest₂ with
        | [] => (.broken [lead, second], [])
        | third :: rest₃ =>
          if isContinuation third then
            match rest₃ with
            | [] => (.broken [lead, second, third], [])
            | fourth :: rest₄ =>
              if isContinuation fourth then
                (character
                  (((lead.toNat % 8 * 64 + low6 second) * 64 + low6 third) * 64 + low6 fourth),
                  rest₄)
              else (.broken [lead, second, third], rest₃)
          else (.broken [lead, second], rest₂)
      else (.broken [lead], rest)

theorem length_firstPiece_le (lead : UInt8) (rest : Bytes) :
    (firstPiece lead rest).2.length ≤ rest.length := by
  unfold firstPiece
  repeat' split
  all_goals simp_all
  all_goals omega

def pieces : Bytes → List Piece
  | [] => []
  | lead :: rest => (firstPiece lead rest).1 :: pieces (firstPiece lead rest).2
termination_by bytes => bytes.length
decreasing_by
  have shorter := length_firstPiece_le lead rest
  simp only [List.length_cons]
  omega

def Piece.lossy : Piece → Char
  | .character c => c
  | .broken _ => '\uFFFD'

/-- Decode, writing the replacement character for each ill-formed run. -/
def decodeLossy (bytes : Bytes) : String :=
  String.ofList ((pieces bytes).map Piece.lossy)

def Piece.strict? : Piece → Option Char
  | .character c => some c
  | .broken _ => none

def decode? (bytes : Bytes) : Option String :=
  ((pieces bytes).mapM Piece.strict?).map String.ofList

end Text

end TunnelBroker
