import TunnelBroker.Key.Json
import TunnelBroker.Proofs.Encoding.Base64
import TunnelBroker.Proofs.Encoding.Json
import TunnelBroker.Proofs.Text.Words

/-! Keys are read back from their text, and pairs of keys from their record. -/

set_option autoImplicit false

namespace TunnelBroker

namespace Key

theorem solid_encode (bytes : Bytes) : ∀ c ∈ (Base64.encode bytes).toList, Text.isBlank c = false := by
  intro c found
  rw [Base64.toList_encode] at found
  obtain ⟨b, member, rfl⟩ := List.mem_map.1 found
  have range := Base64.range_of_mem_encodeBytes bytes b member
  have value : (Char.ofNat b.toNat).toNat = b.toNat := Text.toNat_charOfNat (.inl (by omega))
  simp [Text.isBlank, value]
  omega

-- What is read is the text of the key that comes of it, but for the blanks around it.
theorem read_eq_ok_iff {text : List Char} (key : { bytes : Bytes // bytes.length = 32 }) :
    read text = .ok key ↔ Text.trim text = (Base64.encode key.val).toList := by
  constructor
  · intro found
    rw [read] at found
    split at found
    · cases found
    · next decoded =>
      split at found
      · cases found
        exact (Base64.toList_encode_of_decode decoded).symm
      · cases found
  · intro same
    simp only [read, same, Base64.decode_encode, key.property, dite_true]

end Key

variable {text : String}

theorem PrivateKey.ofBase64_eq_ok_iff {key : PrivateKey} :
    ofBase64 text = .ok key ↔ Text.trim text.toList = key.toBase64.toList := by
  obtain ⟨bytes, size⟩ := key
  rw [toBase64, ← Key.read_eq_ok_iff ⟨bytes, size⟩, ofBase64]
  cases Key.read text.toList with
  | error fault => simp
  | ok found => simp [Subtype.ext_iff]

theorem PublicKey.ofBase64_eq_ok_iff {key : PublicKey} :
    ofBase64 text = .ok key ↔ Text.trim text.toList = key.toBase64.toList := by
  obtain ⟨bytes, size⟩ := key
  rw [toBase64, ← Key.read_eq_ok_iff ⟨bytes, size⟩, ofBase64]
  cases Key.read text.toList with
  | error fault => simp
  | ok found => simp [Subtype.ext_iff]

theorem PrivateKey.ofBase64_toBase64 (key : PrivateKey) : ofBase64 key.toBase64 = .ok key :=
  ofBase64_eq_ok_iff.2 (Text.trim_of_solid (Key.solid_encode key.bytes))

theorem PublicKey.ofBase64_toBase64 (key : PublicKey) : ofBase64 key.toBase64 = .ok key :=
  ofBase64_eq_ok_iff.2 (Text.trim_of_solid (Key.solid_encode key.bytes))

-- Without white space around it, a key has one text.
theorem PublicKey.toBase64_of_ofBase64 (solid : Text.IsSolid text) {key : PublicKey}
    (found : ofBase64 text = .ok key) : key.toBase64 = text := by
  rw [ofBase64_eq_ok_iff, Text.trim_of_solid solid] at found
  exact String.toList_injective found.symm

/-! ### In JSON -/

theorem Json.Reading.refusable_string {α : Type} {parse : String → Except Failure α} {text : String}
    {value : α} (right : parse text = .ok value) :
    refusable parse (Json.string text).reading = .ok value := by
  have read : (Json.string text).reading.text = .ok text := rfl
  rw [refusable, read]
  simp only [bind, Except.bind, right]
  rfl

theorem Json.faultOf_eq_none {α : Type} {read : Json.Reading → Except Json.Fault α}
    {value : Json.Reading} {result : α} (right : read value = .ok result) :
    Json.faultOf read value = none := by
  simp only [Json.faultOf, right]

@[simp]
theorem PrivateKey.ofJson_toJson (key : PrivateKey) : ofJson key.toJson.reading = .ok key :=
  Json.Reading.refusable_string key.ofBase64_toBase64

@[simp]
theorem PublicKey.ofJson_toJson (key : PublicKey) : ofJson key.toJson.reading = .ok key :=
  Json.Reading.refusable_string key.ofBase64_toBase64

namespace KeyPair

def fieldsOf (pair : KeyPair) : List (Json.Field × Json.Reading) :=
  fields.zip [pair.privateKey.toJson.reading, pair.publicKey.toJson.reading]

theorem faultless_fieldsOf (pair : KeyPair) :
    ∀ entry ∈ pair.fieldsOf, entry.1.fault? entry.2 = none := by
  simp [fieldsOf, fields, Json.faultOf_eq_none (PrivateKey.ofJson_toJson _),
    Json.faultOf_eq_none (PublicKey.ofJson_toJson _)]

theorem distinct_fieldsOf (pair : KeyPair) :
    ((pair.fieldsOf.map Prod.fst).map Json.Field.name).Nodup :=
  show (fields.map Json.Field.name).Nodup by decide

theorem record_toJson (pair : KeyPair) :
    pair.toJson.reading.record fields = .ok (Json.Reading.fieldValues pair.fieldsOf) :=
  Json.Reading.record_fieldMembers pair.distinct_fieldsOf pair.faultless_fieldsOf

@[simp]
theorem ofJson_toJson (pair : KeyPair) : ofJson pair.toJson.reading = .ok pair := by
  have privateKey : Json.required (Json.Reading.fieldValues pair.fieldsOf) "private"
      PrivateKey.ofJson = .ok pair.privateKey := PrivateKey.ofJson_toJson _
  have publicKey : Json.required (Json.Reading.fieldValues pair.fieldsOf) "public"
      PublicKey.ofJson = .ok pair.publicKey := PublicKey.ofJson_toJson _
  rw [ofJson, record_toJson]
  simp only [bind, Except.bind, privateKey, publicKey]
  rfl

end KeyPair

end TunnelBroker
