import TunnelBroker.Encoding.Base64
import TunnelBroker.Proofs.Outcome
import TunnelBroker.Proofs.Text.Utf8

/-!
Decoding base64 undoes encoding, for any bytes. A text is decoded only if it is the code of
the bytes that come of it, so bytes have one code.
-/

set_option autoImplicit false

namespace TunnelBroker.Base64

variable {v : Nat}

theorem value?_symbol (small : v < 64) : value? (symbol v) = some v := by
  have table : ∀ v < 64, value? (symbol v) = some v := by decide
  exact table v small

theorem symbol_ne_pad (small : v < 64) : symbol v ≠ pad := by
  have table : ∀ v < 64, symbol v ≠ pad := by decide
  exact table v small

theorem valueAt_symbol (offset : Nat) (small : v < 64) : valueAt offset (symbol v) = .ok v := by
  rw [valueAt, value?_symbol small]

/-! ### The three bytes of a quad -/

theorem firstByte_eq (a : UInt8) {second : Nat} (high : second / 16 = a.toNat % 4) :
    firstByte (a.toNat / 4) second = a := by
  rw [firstByte, high, Nat.div_add_mod' a.toNat 4, UInt8.ofNat_toNat]

theorem secondByte_eq (b : UInt8) {second third : Nat} (high : second % 16 = b.toNat / 16)
    (low : third / 4 = b.toNat % 16) : secondByte second third = b := by
  rw [secondByte, high, low, Nat.div_add_mod' b.toNat 16, UInt8.ofNat_toNat]

theorem thirdByte_eq (c : UInt8) {third : Nat} (high : third % 4 = c.toNat / 64) :
    thirdByte third (c.toNat % 64) = c := by
  rw [thirdByte, high, Nat.div_add_mod' c.toNat 64, UInt8.ofNat_toNat]

/-! ### Quads -/

theorem length_encodeBytes (bytes : Bytes) :
    (encodeBytes bytes).length = (bytes.length + 2) / 3 * 4 := by
  induction bytes using encodeBytes.induct with
  | case1 => simp [encodeBytes]
  | case2 a => simp [encodeBytes]
  | case3 a b => simp [encodeBytes]
  | case4 a b c rest ih =>
    simp only [encodeBytes, List.length_cons, ih]
    omega

section

variable {w x y z : Nat} (offset : Nat)

theorem decodeFrom_one (hw : w < 64) (hx : x < 64) (low : x % 16 = 0) :
    decodeFrom offset [symbol w, symbol x, pad, pad] = .ok [firstByte w x] := by
  simp [decodeFrom, decodeLast, valueAt_symbol, hw, hx]
  show (if x % 16 = 0 then _ else _) = _
  rw [if_pos low]
  rfl

theorem decodeFrom_two (hw : w < 64) (hx : x < 64) (hy : y < 64) (low : y % 4 = 0) :
    decodeFrom offset [symbol w, symbol x, symbol y, pad] =
      .ok [firstByte w x, secondByte x y] := by
  simp [decodeFrom, decodeLast, valueAt_symbol, symbol_ne_pad, hw, hx, hy]
  show (if y % 4 = 0 then _ else _) = _
  rw [if_pos low]
  rfl

theorem decodeFrom_three (hw : w < 64) (hx : x < 64) (hy : y < 64) (hz : z < 64) :
    decodeFrom offset [symbol w, symbol x, symbol y, symbol z] =
      .ok [firstByte w x, secondByte x y, thirdByte y z] := by
  simp [decodeFrom, decodeLast, valueAt_symbol, symbol_ne_pad, hw, hx, hy, hz]
  rfl

theorem decodeFrom_cons (hw : w < 64) (hx : x < 64) (hy : y < 64) (hz : z < 64) (next : UInt8)
    (rest : Bytes) :
    decodeFrom offset (symbol w :: symbol x :: symbol y :: symbol z :: next :: rest) =
      (decodeFrom (offset + 4) (next :: rest)).map fun tail =>
        firstByte w x :: secondByte x y :: thirdByte y z :: tail := by
  rw [decodeFrom, valueAt_symbol _ hw, valueAt_symbol _ hx, valueAt_symbol _ hy,
    valueAt_symbol _ hz]
  cases decodeFrom (offset + 4) (next :: rest) <;> rfl

end

theorem decodeFrom_encodeBytes (bytes : Bytes) (offset : Nat) :
    decodeFrom offset (encodeBytes bytes) = .ok bytes := by
  induction bytes using encodeBytes.induct generalizing offset with
  | case1 => simp [encodeBytes, decodeFrom, decodeLast]
  | case2 a =>
    have ha := a.toNat_lt
    rw [encodeBytes, decodeFrom_one offset (by omega) (by omega) (by omega),
      firstByte_eq a (by omega)]
  | case3 a b =>
    have ha := a.toNat_lt
    have hb := b.toNat_lt
    rw [encodeBytes, decodeFrom_two offset (by omega) (by omega) (by omega) (by omega),
      firstByte_eq a (by omega), secondByte_eq b (by omega) (by omega)]
  | case4 a b c rest ih =>
    have ha := a.toNat_lt
    have hb := b.toNat_lt
    have hc := c.toNat_lt
    have first := firstByte_eq a (show (a.toNat % 4 * 16 + b.toNat / 16) / 16 = _ by omega)
    have second := secondByte_eq b (show (a.toNat % 4 * 16 + b.toNat / 16) % 16 = _ by omega)
      (show (b.toNat % 16 * 4 + c.toNat / 64) / 4 = _ by omega)
    have third := thirdByte_eq c (show (b.toNat % 16 * 4 + c.toNat / 64) % 4 = _ by omega)
    rw [encodeBytes]
    -- The last quad is decoded by a function of its own.
    cases encoded : encodeBytes rest with
    | nil =>
      have done := ih offset
      rw [encoded] at done
      cases done
      rw [decodeFrom_three offset (by omega) (by omega) (by omega) (by omega), first, second, third]
    | cons next others =>
      rw [decodeFrom_cons offset (by omega) (by omega) (by omega) (by omega), ← encoded, ih, first,
        second, third]
      rfl

theorem decodeBytes_encodeBytes (bytes : Bytes) : decodeBytes (encodeBytes bytes) = .ok bytes := by
  unfold decodeBytes
  split
  · rw [if_neg, decodeFrom_encodeBytes]
    intro stray
    have whole := length_encodeBytes bytes
    omega
  · next empty =>
    rw [← decodeFrom_encodeBytes bytes 0, List.getLast?_eq_none_iff.1 empty]
    rfl

/-! ### Symbols that are decoded -/

theorem symbol_of_value? {s : UInt8} {v : Nat} (found : value? s = some v) :
    symbol v = s ∧ v < 64 := by
  have table : ∀ n < 256, ((value? (UInt8.ofNat n)).all fun v =>
      symbol v = UInt8.ofNat n ∧ v < 64) = true := by decide +kernel
  simpa [found] using table s.toNat s.toNat_lt

theorem symbol_of_valueAt {offset : Nat} {s : UInt8} {v : Nat} (found : valueAt offset s = .ok v) :
    symbol v = s ∧ v < 64 := by
  unfold valueAt at found
  split at found
  · next same =>
    cases found
    exact symbol_of_value? same
  · cases found

section

variable {w x y z : Nat}

theorem toNat_firstByte (hw : w < 64) (hx : x < 64) : (firstByte w x).toNat = w * 4 + x / 16 :=
  Text.toNat_ofNat_of_lt (by omega)

theorem toNat_secondByte (hy : y < 64) :
    (secondByte x y).toNat = x % 16 * 16 + y / 4 :=
  Text.toNat_ofNat_of_lt (by omega)

theorem toNat_thirdByte (hz : z < 64) : (thirdByte y z).toNat = y % 4 * 64 + z :=
  Text.toNat_ofNat_of_lt (by omega)

theorem encodeBytes_one (hw : w < 64) (hx : x < 64) (low : x % 16 = 0) :
    encodeBytes [firstByte w x] = [symbol w, symbol x, pad, pad] := by
  have first : (w * 4 + x / 16) / 4 = w := by omega
  have second : (w * 4 + x / 16) % 4 * 16 = x := by omega
  rw [encodeBytes, toNat_firstByte hw hx, first, second]

theorem encodeBytes_two (hw : w < 64) (hx : x < 64) (hy : y < 64) (low : y % 4 = 0) :
    encodeBytes [firstByte w x, secondByte x y] = [symbol w, symbol x, symbol y, pad] := by
  have first : (w * 4 + x / 16) / 4 = w := by omega
  have second : (w * 4 + x / 16) % 4 * 16 + (x % 16 * 16 + y / 4) / 16 = x := by omega
  have third : (x % 16 * 16 + y / 4) % 16 * 4 = y := by omega
  rw [encodeBytes, toNat_firstByte hw hx, toNat_secondByte hy, first, second, third]

theorem encodeBytes_three (hw : w < 64) (hx : x < 64) (hy : y < 64) (hz : z < 64) (tail : Bytes) :
    encodeBytes (firstByte w x :: secondByte x y :: thirdByte y z :: tail) =
      symbol w :: symbol x :: symbol y :: symbol z :: encodeBytes tail := by
  have first : (w * 4 + x / 16) / 4 = w := by omega
  have second : (w * 4 + x / 16) % 4 * 16 + (x % 16 * 16 + y / 4) / 16 = x := by omega
  have third : (x % 16 * 16 + y / 4) % 16 * 4 + (y % 4 * 64 + z) / 64 = y := by omega
  have fourth : (y % 4 * 64 + z) % 64 = z := by omega
  rw [encodeBytes, toNat_firstByte hw hx, toNat_secondByte hy, toNat_thirdByte hz, first, second,
    third, fourth]

end

theorem encodeBytes_of_decodeLast {offset : Nat} {symbols bytes : Bytes}
    (short : symbols.length ≤ 4) (decoded : decodeLast offset symbols = .ok bytes) :
    encodeBytes bytes = symbols := by
  unfold decodeLast at decoded
  split at decoded
  · cases decoded
    rfl
  · obtain ⟨_, -, failed⟩ := bind_eq_ok decoded
    cases failed
  · obtain ⟨_, -, decoded⟩ := bind_eq_ok decoded
    obtain ⟨_, -, failed⟩ := bind_eq_ok decoded
    cases failed
  · obtain ⟨_, -, decoded⟩ := bind_eq_ok decoded
    obtain ⟨_, -, decoded⟩ := bind_eq_ok decoded
    split at decoded
    · obtain ⟨_, -, failed⟩ := bind_eq_ok decoded
      cases failed
    · cases decoded
  · next a b c d rest =>
    simp only [List.length_cons] at short
    have ended : rest = [] := List.eq_nil_of_length_eq_zero (by omega)
    obtain ⟨va, ha, second⟩ := bind_eq_ok decoded
    obtain ⟨vb, hb, third⟩ := bind_eq_ok second
    obtain ⟨rfl, sa⟩ := symbol_of_valueAt ha
    obtain ⟨rfl, sb⟩ := symbol_of_valueAt hb
    clear decoded second
    rw [ended]
    split at third
    · next one =>
      dsimp only at third
      split at third
      · cases third
      · next padded =>
        split at third
        · cases third
        · next low =>
          cases third
          rw [encodeBytes_one sa sb (Decidable.not_not.1 low), one, Decidable.not_not.1 padded]
    · obtain ⟨vc, hc, fourth⟩ := bind_eq_ok third
      obtain ⟨rfl, sc⟩ := symbol_of_valueAt hc
      clear third
      split at fourth
      · next two =>
        split at fourth
        · cases fourth
        · next low =>
          cases fourth
          rw [encodeBytes_two sa sb sc (Decidable.not_not.1 low), two]
      · obtain ⟨vd, hd, whole⟩ := bind_eq_ok fourth
        obtain ⟨rfl, sd⟩ := symbol_of_valueAt hd
        cases whole
        exact encodeBytes_three sa sb sc sd []

theorem encodeBytes_of_decodeFrom {offset : Nat} {symbols bytes : Bytes}
    (decoded : decodeFrom offset symbols = .ok bytes) : encodeBytes bytes = symbols := by
  fun_induction decodeFrom offset symbols generalizing bytes with
  | case1 offset a b c d e rest ih =>
    obtain ⟨va, ha, second⟩ := bind_eq_ok decoded
    obtain ⟨vb, hb, third⟩ := bind_eq_ok second
    obtain ⟨vc, hc, fourth⟩ := bind_eq_ok third
    obtain ⟨vd, hd, others⟩ := bind_eq_ok fourth
    obtain ⟨tail, more, whole⟩ := bind_eq_ok others
    obtain ⟨rfl, sa⟩ := symbol_of_valueAt ha
    obtain ⟨rfl, sb⟩ := symbol_of_valueAt hb
    obtain ⟨rfl, sc⟩ := symbol_of_valueAt hc
    obtain ⟨rfl, sd⟩ := symbol_of_valueAt hd
    cases whole
    rw [encodeBytes_three sa sb sc sd, ih more]
  | case2 offset symbols short =>
    refine encodeBytes_of_decodeLast ?_ decoded
    match symbols, short with
    | [], _ | [_], _ | [_, _], _ | [_, _, _], _ | [_, _, _, _], _ => simp
    | a :: b :: c :: d :: e :: rest, short => exact (short a b c d e rest rfl).elim

-- What is decoded is the code of the bytes that come of it.
theorem encodeBytes_of_decodeBytes {symbols bytes : Bytes}
    (decoded : decodeBytes symbols = .ok bytes) : encodeBytes bytes = symbols := by
  unfold decodeBytes at decoded
  split at decoded
  · split at decoded
    · cases decoded
    · exact encodeBytes_of_decodeFrom decoded
  · next empty =>
    cases decoded
    exact (List.getLast?_eq_none_iff.1 empty).symm

/-! ### Texts -/

theorem symbol_range (v : Nat) : 43 ≤ (symbol v).toNat ∧ (symbol v).toNat ≤ 122 := by
  unfold symbol
  split
  · rw [Text.toNat_ofNat_of_lt (by omega)]
    omega
  · split
    · rw [Text.toNat_ofNat_of_lt (by omega)]
      omega
    · split
      · rw [Text.toNat_ofNat_of_lt (by omega)]
        omega
      · split <;> decide

-- Nothing but symbols and padding is written.
theorem forall_mem_encodeBytes {p : UInt8 → Prop} (symbols : ∀ v, p (symbol v)) (padding : p pad)
    (bytes : Bytes) : ∀ b ∈ encodeBytes bytes, p b := by
  induction bytes using encodeBytes.induct with
  | case1 => simp [encodeBytes]
  | case2 a => simp [encodeBytes, symbols, padding]
  | case3 a b => simp [encodeBytes, symbols, padding]
  | case4 a b c rest ih => simpa [encodeBytes, symbols] using ih

theorem range_of_mem_encodeBytes (bytes : Bytes) :
    ∀ b ∈ encodeBytes bytes, 43 ≤ b.toNat ∧ b.toNat ≤ 122 :=
  forall_mem_encodeBytes symbol_range (by decide) bytes

theorem ascii_encodeBytes (bytes : Bytes) : ∀ b ∈ encodeBytes bytes, b.toNat < 128 := by
  intro b found
  have range := range_of_mem_encodeBytes bytes b found
  omega

theorem toList_encode (bytes : Bytes) :
    (encode bytes).toList = (encodeBytes bytes).map fun b => Char.ofNat b.toNat := by
  rw [encode, String.toList_ofList]

@[simp]
theorem decode_encode (bytes : Bytes) : decode (encode bytes).toList = .ok bytes := by
  rw [decode, toList_encode, Text.encodeChars_map_ascii (ascii_encodeBytes bytes),
    decodeBytes_encodeBytes]

theorem toList_encode_of_decode {text : List Char} {bytes : Bytes}
    (decoded : decode text = .ok bytes) : (encode bytes).toList = text := by
  have same : Text.encodeChars (encode bytes).toList = Text.encodeChars text := by
    rw [toList_encode, Text.encodeChars_map_ascii (ascii_encodeBytes bytes),
      encodeBytes_of_decodeBytes decoded]
  have back := congrArg Text.decodeLossy same
  rw [Text.decodeLossy_encodeChars, Text.decodeLossy_encodeChars] at back
  exact String.ofList_injective back

end TunnelBroker.Base64
