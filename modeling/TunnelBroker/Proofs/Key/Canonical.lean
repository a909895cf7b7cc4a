import TunnelBroker.Config.Membership
import TunnelBroker.Proofs.Key

/-!
The text of keys. Main statement: a key has one text, which is what is accepted for it up to
the blanks around it, which is what JSON holds of it, and which passes the check of keys in a
configuration.
-/

set_option autoImplicit false

namespace TunnelBroker

/-! ### In a configuration -/

theorem isKeyChar_symbol (value : Nat) :
    Membership.isKeyChar (Char.ofNat (Base64.symbol value).toNat) = true := by
  by_cases small : value < 63
  · have table : ∀ value < 63,
        Membership.isKeyChar (Char.ofNat (Base64.symbol value).toNat) = true := by decide
    exact table value small
  · have last : Base64.symbol value = 47 := by
      unfold Base64.symbol
      rw [if_neg (by omega), if_neg (by omega), if_neg (by omega), if_neg (by omega)]
    rw [last]
    decide

theorem all_isKeyChar_encode (bytes : Bytes) :
    (Base64.encode bytes).toList.all Membership.isKeyChar = true := by
  rw [Base64.toList_encode, List.all_eq_true]
  intro c found
  obtain ⟨b, member, rfl⟩ := List.mem_map.1 found
  have legal : ∀ b ∈ Base64.encodeBytes bytes,
      Membership.isKeyChar (Char.ofNat b.toNat) = true :=
    Base64.forall_mem_encodeBytes isKeyChar_symbol (by decide) bytes
  exact legal b member

theorem utf8ByteSize_encode (bytes : Bytes) :
    (Base64.encode bytes).utf8ByteSize = (bytes.length + 2) / 3 * 4 := by
  rw [← Text.length_encode, Text.encode, Base64.toList_encode,
    Text.encodeChars_map_ascii (Base64.ascii_encodeBytes bytes), Base64.length_encodeBytes]

theorem keyFault?_encode {bytes : Bytes} (size : bytes.length = 32) :
    Membership.keyFault? (Base64.encode bytes) = none := by
  have full : (Base64.encode bytes).utf8ByteSize = 44 := by
    rw [utf8ByteSize_encode, size]
  have nonempty : (Base64.encode bytes).isEmpty = false := by
    rw [Bool.eq_false_iff, ne_eq, String.isEmpty_iff]
    intro empty
    rw [empty] at full
    cases full
  rw [Membership.keyFault?, nonempty, full, all_isKeyChar_encode]
  rfl

/-! ### One text for each key -/

/-- What is to hold of keys, their text and their JSON. -/
structure Key.IsCanonical {α : Type} (ofText : String → Except Failure α) (toText : α → String)
    (ofJson : Json.Reading → Except Json.Fault α) (toJson : α → Json) : Prop where
  readBack : ∀ key, ofText (toText key) = .ok key
  accepted : ∀ text key, ofText text = .ok key → (toText key).toList = Text.trim text.toList
  /-- Two texts of one key differ at most in the blanks around them. -/
  alike : ∀ first second key other, ofText first = .ok key → ofText second = .ok other →
    (key = other ↔ Text.trim first.toList = Text.trim second.toList)
  ofJsonText : ∀ key, Json.decode ofJson (toJson key).compact = .ok key
  checked : ∀ key, Membership.keyFault? (toText key) = none

-- What is accepted is told by the text of the key, so the key is told by what is accepted.
theorem Key.isCanonical_of_accepts {α : Type} {ofText : String → Except Failure α}
    {toText : α → String} (accepts : ∀ text key,
      ofText text = .ok key ↔ Text.trim text.toList = (toText key).toList)
    (readBack : ∀ key, ofText (toText key) = .ok key)
    (checked : ∀ key, Membership.keyFault? (toText key) = none) :
    IsCanonical ofText toText (Json.Reading.refusable ofText) fun key => .string (toText key) where
  readBack
  accepted := fun text key found => ((accepts text key).1 found).symm
  alike := by
    intro first second key other found foundToo
    rw [(accepts first key).1 found, (accepts second other).1 foundToo]
    constructor
    · rintro rfl
      rfl
    · intro same
      have read := readBack key
      rw [String.toList_injective same, readBack other] at read
      exact (Except.ok.inj read).symm
  ofJsonText := by
    intro key
    have read : Json.decode (Json.Reading.refusable ofText) (Json.string (toText key)).pretty =
        .ok key := Json.decode_pretty (Json.Reading.refusable_string (readBack key))
    exact read
  checked

/--
The text of a key is canonical, for public keys and for private ones: a key is read back from
its text and from its JSON, whatever is accepted is the text of a key between blanks, and the
check of a configuration lets the text of every key pass.
-/
theorem key_text_is_canonical :
    Key.IsCanonical PublicKey.ofBase64 PublicKey.toBase64 PublicKey.ofJson PublicKey.toJson ∧
      Key.IsCanonical PrivateKey.ofBase64 PrivateKey.toBase64 PrivateKey.ofJson
        PrivateKey.toJson := by
  constructor
  · exact Key.isCanonical_of_accepts (fun _ _ => PublicKey.ofBase64_eq_ok_iff)
      PublicKey.ofBase64_toBase64 fun key => keyFault?_encode key.size
  · exact Key.isCanonical_of_accepts (fun _ _ => PrivateKey.ofBase64_eq_ok_iff)
      PrivateKey.ofBase64_toBase64 fun key => keyFault?_encode key.size

end TunnelBroker
