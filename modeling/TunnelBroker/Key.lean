import TunnelBroker.Encoding.Base64
import TunnelBroker.Failure
import TunnelBroker.Key.Curve25519
import TunnelBroker.Text.Blank
import TunnelBroker.Text.Diagnostic

/-!
Peer keys: 32 bytes, written in base64. A private key is never shown; its text form
exists only for the peer state file.
-/

set_option autoImplicit false

namespace TunnelBroker

structure PrivateKey where
  bytes : Bytes
  size : bytes.length = 32
  deriving DecidableEq

structure PublicKey where
  bytes : Bytes
  size : bytes.length = 32
  deriving DecidableEq

namespace Key

inductive Fault where
  | notBase64 (fault : Base64.Fault)
  | wrongLength (length : Nat)
  deriving DecidableEq, Repr

def Fault.message (kind : String) : Fault → String
  | .notBase64 fault => "Invalid base64 " ++ kind ++ " key: " ++ fault.message
  | .wrongLength length =>
    "Invalid " ++ kind ++ " key length: expected 32 bytes, got " ++ toString length

/-- Read 32 bytes of base64 between optional blanks. -/
def read (text : List Char) : Except Fault { bytes : Bytes // bytes.length = 32 } :=
  match Base64.decode (Text.trim text) with
  | .error fault => .error (.notBase64 fault)
  | .ok bytes =>
    if size : bytes.length = 32 then .ok ⟨bytes, size⟩ else .error (.wrongLength bytes.length)

end Key

namespace PublicKey

def toBase64 (key : PublicKey) : String := Base64.encode key.bytes

def ofBase64 (text : String) : Except Failure PublicKey :=
  match Key.read text.toList with
  | .ok key => .ok ⟨key.val, key.property⟩
  | .error fault => .error (.config (fault.message "public"))

def debug (key : PublicKey) : String := "PublicKey(" ++ key.toBase64 ++ ")"

end PublicKey

namespace PrivateKey

def toBase64 (key : PrivateKey) : String := Base64.encode key.bytes

def ofBase64 (text : String) : Except Failure PrivateKey :=
  match Key.read text.toList with
  | .ok key => .ok ⟨key.val, key.property⟩
  | .error fault => .error (.config (fault.message "private"))

def publicKey (key : PrivateKey) : PublicKey where
  bytes := Curve25519.publicKey key.bytes
  size := Curve25519.length_publicKey key.bytes

def display (_ : PrivateKey) : String := "[REDACTED]"

def debug (_ : PrivateKey) : String := "PrivateKey([REDACTED])"

end PrivateKey

structure KeyPair where
  privateKey : PrivateKey
  publicKey : PublicKey
  deriving DecidableEq

namespace KeyPair

def ofPrivate (key : PrivateKey) : KeyPair := ⟨key, key.publicKey⟩

def Matches (pair : KeyPair) : Prop := pair.publicKey = pair.privateKey.publicKey

instance (pair : KeyPair) : Decidable pair.Matches :=
  inferInstanceAs (Decidable (pair.publicKey = pair.privateKey.publicKey))

def debug (pair : KeyPair) : String :=
  Text.labelled "KeyPair" [("private", "\"[REDACTED]\""), ("public", pair.publicKey.debug)]

end KeyPair

end TunnelBroker
