import TunnelBroker.Text.Utf8

/-!
Decoding undoes encoding, strict decoding only so, and a byte below 128 stands for its
character only.
-/

set_option autoImplicit false

namespace TunnelBroker.Text

theorem toNat_ofNat_of_lt {n : Nat} (small : n < 256) : (UInt8.ofNat n).toNat = n := by
  simp [Nat.mod_eq_of_lt small]

theorem toNat_charOfNat {n : Nat} (valid : n.isValidChar) : (Char.ofNat n).toNat = n := by
  rw [Char.ofNat, dif_pos valid]
  rfl

theorem isContinuation_iff {b : UInt8} :
    isContinuation b = true ↔ 0x80 ≤ b.toNat ∧ b.toNat ≤ 0xBF := by
  simp [isContinuation, UInt8.le_iff_toNat_le]

theorem opensThree_iff {lead second : UInt8} :
    opensThree lead second = true ↔
      (lead.toNat = 0xE0 ∧ 0xA0 ≤ second.toNat ∨
        lead.toNat = 0xED ∧ 0x80 ≤ second.toNat ∧ second.toNat ≤ 0x9F ∨
        0xE1 ≤ lead.toNat ∧ lead.toNat ≤ 0xEF ∧ lead.toNat ≠ 0xED ∧ 0x80 ≤ second.toNat) ∧
      second.toNat ≤ 0xBF := by
  simp only [opensThree, isContinuation, UInt8.le_iff_toNat_le, beq_iff_eq, ← UInt8.toNat_inj,
    UInt8.reduceToNat]
  split
  · simp; omega
  · split
    · simp; omega
    · simp; omega

theorem opensFour_iff {lead second : UInt8} :
    opensFour lead second = true ↔
      (lead.toNat = 0xF0 ∧ 0x90 ≤ second.toNat ∨
        lead.toNat = 0xF4 ∧ 0x80 ≤ second.toNat ∧ second.toNat ≤ 0x8F ∨
        0xF1 ≤ lead.toNat ∧ lead.toNat ≤ 0xF3 ∧ 0x80 ≤ second.toNat) ∧
      second.toNat ≤ 0xBF := by
  simp only [opensFour, isContinuation, UInt8.le_iff_toNat_le, beq_iff_eq, ← UInt8.toNat_inj,
    UInt8.reduceToNat]
  split
  · simp; omega
  · split
    · simp; omega
    · simp; omega

/-! ### One character -/

theorem firstPiece_one {lead : UInt8} (small : lead.toNat < 0x80) (rest : Bytes) :
    firstPiece lead rest = (character lead.toNat, rest) := by
  have ascii : lead < 0x80 := UInt8.lt_iff_toNat_lt.2 small
  cases rest <;> simp only [firstPiece, ascii, if_true]

theorem not_lt_of_wide {lead : UInt8} (wide : 128 ≤ lead.toNat) : ¬ lead < 0x80 :=
  UInt8.not_lt.2 (UInt8.le_iff_toNat_le.2 wide)

theorem not_le_of_wide {lead : UInt8} (wide : 223 < lead.toNat) : ¬ lead ≤ 0xDF :=
  UInt8.not_le.2 (UInt8.lt_iff_toNat_lt.2 wide)

theorem firstPiece_two {lead second : UInt8} (least : 0xC2 ≤ lead.toNat) (most : lead.toNat ≤ 0xDF)
    (continues : isContinuation second = true) (rest : Bytes) :
    firstPiece lead (second :: rest) = (character (lead.toNat % 32 * 64 + low6 second), rest) := by
  have wide : ¬ lead < 0x80 := not_lt_of_wide (by omega)
  have opens : 0xC2 ≤ lead ∧ lead ≤ 0xDF :=
    ⟨UInt8.le_iff_toNat_le.2 least, UInt8.le_iff_toNat_le.2 most⟩
  simp [firstPiece, wide, opens, continues]

theorem firstPiece_three {lead second third : UInt8} (opens : opensThree lead second = true)
    (continues : isContinuation third = true) (rest : Bytes) :
    firstPiece lead (second :: third :: rest) =
      (character ((lead.toNat % 16 * 64 + low6 second) * 64 + low6 third), rest) := by
  have bounds := opensThree_iff.1 opens
  have wide : ¬ lead < 0x80 := not_lt_of_wide (by omega)
  have notTwo : ¬ lead ≤ 0xDF := not_le_of_wide (by omega)
  simp [firstPiece, wide, notTwo, opens, continues]

theorem firstPiece_four {lead second third fourth : UInt8} (opens : opensFour lead second = true)
    (continues : isContinuation third = true) (ends : isContinuation fourth = true) (rest : Bytes) :
    firstPiece lead (second :: third :: fourth :: rest) =
      (character
        (((lead.toNat % 8 * 64 + low6 second) * 64 + low6 third) * 64 + low6 fourth), rest) := by
  have bounds := opensFour_iff.1 opens
  have wide : ¬ lead < 0x80 := not_lt_of_wide (by omega)
  have notTwo : ¬ lead ≤ 0xDF := not_le_of_wide (by omega)
  have notThree : opensThree lead second = false := by
    rw [Bool.eq_false_iff, ne_eq, opensThree_iff]
    omega
  simp [firstPiece, wide, notTwo, notThree, opens, continues, ends]

/-! The bytes behind the first one carry six bits each. -/

theorem toNat_continuation (n : Nat) : (UInt8.ofNat (n % 64 + 128)).toNat = n % 64 + 128 :=
  toNat_ofNat_of_lt (by omega)

theorem isContinuation_continuation (n : Nat) :
    isContinuation (UInt8.ofNat (n % 64 + 128)) = true := by
  rw [isContinuation_iff, toNat_continuation]
  omega

theorem low6_continuation (n : Nat) : low6 (UInt8.ofNat (n % 64 + 128)) = n % 64 := by
  rw [low6, toNat_continuation]
  omega

-- The first piece of an encoded character is the character.
theorem firstPiece_encodeChar (c : Char) (rest : Bytes) :
    ∃ lead others, String.utf8EncodeChar c = lead :: others ∧
      firstPiece lead (others ++ rest) = (.character c, rest) := by
  have valid : c.val.toNat < 0xD800 ∨ 0xDFFF < c.val.toNat ∧ c.val.toNat < 0x110000 := c.valid
  have same : character c.val.toNat = .character c :=
    congrArg Piece.character (Char.ofNat_toNat c)
  unfold String.utf8EncodeChar
  generalize c.val.toNat = n at *
  simp only []
  -- One case for each length of the encoding, which is read by its own branch.
  split
  case isTrue one =>
    have lead : (UInt8.ofNat n).toNat = n := toNat_ofNat_of_lt (by omega)
    refine ⟨_, _, rfl, ?_⟩
    rw [List.nil_append, firstPiece_one (by omega), lead, same]
  split
  case isTrue two =>
    have lead : (UInt8.ofNat (n / 64 % 32 + 192)).toNat = n / 64 + 192 := by
      rw [toNat_ofNat_of_lt (by omega)]
      omega
    have whole : (n / 64 + 192) % 32 * 64 + n % 64 = n := by omega
    refine ⟨_, _, rfl, ?_⟩
    rw [List.cons_append, List.nil_append, firstPiece_two (by omega) (by omega)
      (isContinuation_continuation _), lead, low6_continuation, whole, same]
  split
  case isTrue three =>
    have lead : (UInt8.ofNat (n / 4096 % 16 + 224)).toNat = n / 4096 + 224 := by
      rw [toNat_ofNat_of_lt (by omega)]
      omega
    have second := toNat_continuation (n / 64)
    have whole : ((n / 4096 + 224) % 16 * 64 + n / 64 % 64) * 64 + n % 64 = n := by omega
    refine ⟨_, _, rfl, ?_⟩
    rw [List.cons_append, List.cons_append, List.nil_append,
      firstPiece_three (opensThree_iff.2 (by omega)) (isContinuation_continuation _), lead,
      low6_continuation, low6_continuation, whole, same]
  case isFalse four =>
    have lead : (UInt8.ofNat (n / 262144 % 8 + 240)).toNat = n / 262144 + 240 := by
      rw [toNat_ofNat_of_lt (by omega)]
      omega
    have second := toNat_continuation (n / 4096)
    have whole : (((n / 262144 + 240) % 8 * 64 + n / 4096 % 64) * 64 + n / 64 % 64) * 64 +
      n % 64 = n := by omega
    refine ⟨_, _, rfl, ?_⟩
    rw [List.cons_append, List.cons_append, List.cons_append, List.nil_append,
      firstPiece_four (opensFour_iff.2 (by omega)) (isContinuation_continuation _)
        (isContinuation_continuation _), lead, low6_continuation, low6_continuation,
      low6_continuation, whole, same]

/-! ### Texts -/

theorem encodeChars_cons (c : Char) (text : List Char) :
    encodeChars (c :: text) = String.utf8EncodeChar c ++ encodeChars text := rfl

theorem encodeChars_append (first second : List Char) :
    encodeChars (first ++ second) = encodeChars first ++ encodeChars second :=
  List.flatMap_append ..

-- A byte below 128 is the encoding of its character.
theorem encodeChars_map_ascii {bytes : Bytes} (ascii : ∀ b ∈ bytes, b.toNat < 128) :
    encodeChars (bytes.map fun b => Char.ofNat b.toNat) = bytes := by
  induction bytes with
  | nil => rfl
  | cons b bytes ih =>
    obtain ⟨small, others⟩ := List.forall_mem_cons.1 ascii
    have value : (Char.ofNat b.toNat).val.toNat = b.toNat :=
      toNat_charOfNat (.inl (by omega))
    rw [List.map_cons, encodeChars_cons, ih others, String.utf8EncodeChar, value, if_pos (by omega)]
    simp

@[simp]
theorem encode_append (first second : String) :
    encode (first ++ second) = encode first ++ encode second := by
  simp only [encode, String.toList_append, encodeChars_append]

theorem length_encode_of_lead {lead : String} (size : Nat) (known : (encode lead).length = size)
    (text : String) : (encode (lead ++ text)).length = size + (encode text).length := by
  rw [encode_append, List.length_append, known]

theorem length_encode_of_tail {tail : String} (size : Nat) (known : (encode tail).length = size)
    (text : String) : (encode (text ++ tail)).length = (encode text).length + size := by
  rw [encode_append, List.length_append, known]

theorem length_encode (text : String) : (encode text).length = text.utf8ByteSize := by
  rw [← String.size_toByteArray]
  conv => rhs; rw [← String.ofList_toList (s := text)]
  rw [String.toByteArray_ofList, List.utf8Encode]
  exact List.size_toByteArray.symm

theorem length_encodeChars_of_ascii {text : List Char} (ascii : ∀ c ∈ text, c.toNat < 128) :
    (encodeChars text).length = text.length := by
  induction text with
  | nil => rfl
  | cons c text ih =>
    obtain ⟨small, others⟩ := List.forall_mem_cons.1 ascii
    have value : c.val.toNat = c.toNat := rfl
    rw [encodeChars_cons, List.length_append, ih others, String.utf8EncodeChar, value,
      if_pos (by omega), List.length_singleton, List.length_cons, Nat.add_comm]

-- Text of characters below 128 has one byte for each of them.
theorem utf8ByteSize_of_ascii {text : String} (ascii : ∀ c ∈ text.toList, c.toNat < 128) :
    text.utf8ByteSize = text.length := by
  rw [← length_encode, encode, length_encodeChars_of_ascii ascii, String.length_toList]

theorem pieces_encodeChars_append (text : List Char) (rest : Bytes) :
    pieces (encodeChars text ++ rest) = text.map Piece.character ++ pieces rest := by
  induction text with
  | nil => rfl
  | cons c text ih =>
    obtain ⟨lead, others, encoded, first⟩ := firstPiece_encodeChar c (encodeChars text ++ rest)
    rw [encodeChars_cons, encoded, List.append_assoc, List.cons_append, pieces, first, ih,
      List.map_cons, List.cons_append]

theorem pieces_encodeChars (text : List Char) :
    pieces (encodeChars text) = text.map Piece.character := by
  have whole := pieces_encodeChars_append text []
  rwa [List.append_nil, pieces, List.append_nil] at whole

@[simp]
theorem decodeLossy_encodeChars (text : List Char) :
    decodeLossy (encodeChars text) = String.ofList text := by
  rw [decodeLossy, pieces_encodeChars, List.map_map]
  exact congrArg String.ofList (List.map_id _)

@[simp]
theorem decodeLossy_encode (text : String) : decodeLossy (encode text) = text := by
  rw [encode, decodeLossy_encodeChars, String.ofList_toList]

@[simp]
theorem decode?_encode (text : String) : decode? (encode text) = some text := by
  rw [decode?, encode, pieces_encodeChars, List.mapM_map]
  have characters : text.toList.mapM (Piece.strict? ∘ Piece.character) = some text.toList :=
    List.mapM_pure.trans (congrArg some (List.map_id _))
  rw [characters, Option.map_some, String.ofList_toList]

/-! ### Decoding of well-formed bytes

A first piece that is a character is read from the encoding of it, whichever its length.
-/

theorem ofNat_eq_of_toNat {b : UInt8} {n : Nat} (value : n = b.toNat) : UInt8.ofNat n = b := by
  rw [value, UInt8.ofNat_toNat]

theorem encodeChar_one {lead : UInt8} (small : lead.toNat < 0x80) :
    String.utf8EncodeChar (Char.ofNat lead.toNat) = [lead] := by
  have value : (Char.ofNat lead.toNat).val.toNat = lead.toNat :=
    toNat_charOfNat (.inl (by omega))
  rw [String.utf8EncodeChar, value, if_pos (by omega), UInt8.ofNat_toNat]

theorem encodeChar_two {lead second : UInt8} (least : 0xC2 ≤ lead.toNat)
    (most : lead.toNat ≤ 0xDF) (continues : isContinuation second = true) :
    String.utf8EncodeChar (Char.ofNat (lead.toNat % 32 * 64 + low6 second)) = [lead, second] := by
  have bounds := isContinuation_iff.1 continues
  simp only [low6]
  generalize whole : lead.toNat % 32 * 64 + second.toNat % 64 = n
  have value : (Char.ofNat n).val.toNat = n := toNat_charOfNat (.inl (by omega))
  rw [String.utf8EncodeChar, value, if_neg (by omega), if_pos (by omega),
    ofNat_eq_of_toNat (b := lead) (by omega), ofNat_eq_of_toNat (b := second) (by omega)]

theorem encodeChar_three {lead second third : UInt8} (opens : opensThree lead second = true)
    (continues : isContinuation third = true) :
    String.utf8EncodeChar
        (Char.ofNat ((lead.toNat % 16 * 64 + low6 second) * 64 + low6 third)) =
      [lead, second, third] := by
  have bounds := opensThree_iff.1 opens
  have last := isContinuation_iff.1 continues
  simp only [low6]
  generalize whole : (lead.toNat % 16 * 64 + second.toNat % 64) * 64 + third.toNat % 64 = n
  have value : (Char.ofNat n).val.toNat = n :=
    toNat_charOfNat (by unfold Nat.isValidChar; omega)
  rw [String.utf8EncodeChar, value, if_neg (by omega), if_neg (by omega), if_pos (by omega),
    ofNat_eq_of_toNat (b := lead) (by omega), ofNat_eq_of_toNat (b := second) (by omega),
    ofNat_eq_of_toNat (b := third) (by omega)]

theorem encodeChar_four {lead second third fourth : UInt8} (opens : opensFour lead second = true)
    (continues : isContinuation third = true) (ends : isContinuation fourth = true) :
    String.utf8EncodeChar (Char.ofNat
        (((lead.toNat % 8 * 64 + low6 second) * 64 + low6 third) * 64 + low6 fourth)) =
      [lead, second, third, fourth] := by
  have bounds := opensFour_iff.1 opens
  have next := isContinuation_iff.1 continues
  have last := isContinuation_iff.1 ends
  simp only [low6]
  generalize whole : ((lead.toNat % 8 * 64 + second.toNat % 64) * 64 + third.toNat % 64) * 64 +
    fourth.toNat % 64 = n
  have value : (Char.ofNat n).val.toNat = n :=
    toNat_charOfNat (by unfold Nat.isValidChar; omega)
  rw [String.utf8EncodeChar, value, if_neg (by omega), if_neg (by omega), if_neg (by omega),
    ofNat_eq_of_toNat (b := lead) (by omega), ofNat_eq_of_toNat (b := second) (by omega),
    ofNat_eq_of_toNat (b := third) (by omega), ofNat_eq_of_toNat (b := fourth) (by omega)]

theorem encodeChar_of_firstPiece {lead : UInt8} {rest others : Bytes} {c : Char}
    (read : firstPiece lead rest = (.character c, others)) :
    String.utf8EncodeChar c ++ others = lead :: rest := by
  simp only [firstPiece, character] at read
  -- The branches that are left are those of the four lengths, in their order.
  split at read
  case isTrue ascii =>
    cases read
    rw [encodeChar_one (UInt8.lt_iff_toNat_lt.1 ascii), List.singleton_append]
  split at read
  case h_1 => cases read
  split at read
  case isTrue two =>
    simp only [Bool.and_eq_true, decide_eq_true_eq, UInt8.le_iff_toNat_le] at two
    split at read
    case isTrue continues =>
      cases read
      rw [encodeChar_two two.1 two.2 continues]
      rfl
    case isFalse => cases read
  split at read
  case isTrue three =>
    split at read
    case h_1 => cases read
    split at read
    case isTrue continues =>
      cases read
      rw [encodeChar_three three continues]
      rfl
    case isFalse => cases read
  split at read
  case isTrue four =>
    split at read
    case h_1 => cases read
    split at read
    case isTrue continues =>
      split at read
      case h_1 => cases read
      split at read
      case isTrue ends =>
        cases read
        rw [encodeChar_four four continues ends]
        rfl
      case isFalse => cases read
    case isFalse => cases read
  case isFalse => cases read

theorem encodeChars_of_mapM {bytes : Bytes} {text : List Char}
    (read : (pieces bytes).mapM Piece.strict? = some text) : encodeChars text = bytes := by
  induction bytes using pieces.induct generalizing text with
  | case1 =>
    rw [pieces, List.mapM_nil] at read
    cases read
    rfl
  | case2 lead rest ih =>
    rw [pieces, List.mapM_cons] at read
    obtain ⟨c, first, read⟩ := Option.bind_eq_some_iff.1 read
    obtain ⟨others, later, ⟨⟩⟩ := Option.bind_eq_some_iff.1 read
    have shape : firstPiece lead rest = (.character c, (firstPiece lead rest).2) := by
      cases piece : (firstPiece lead rest).1 with
      | broken => rw [piece] at first; cases first
      | character d =>
        rw [piece] at first
        cases first
        rw [← piece]
    rw [encodeChars_cons, ih later, encodeChar_of_firstPiece shape]

-- Strict decoding is the inverse of encoding.
theorem decode?_eq_some_iff {bytes : Bytes} {text : String} :
    decode? bytes = some text ↔ encode text = bytes := by
  constructor
  · intro read
    obtain ⟨characters, strict, rfl⟩ := Option.map_eq_some_iff.1 read
    rw [encode, String.toList_ofList, encodeChars_of_mapM strict]
  · rintro rfl
    exact decode?_encode text

/-! ### Ill-formed runs -/

theorem exists_broken_of_mapM {pieces : List Piece} (failed : pieces.mapM Piece.strict? = none) :
    ∃ bytes, .broken bytes ∈ pieces := by
  induction pieces with
  | nil => simp at failed
  | cons piece pieces ih =>
    cases piece with
    | broken bytes => exact ⟨bytes, List.mem_cons_self⟩
    | character c =>
      obtain ⟨bytes, later⟩ := ih (by
        cases rest : pieces.mapM Piece.strict? with
        | none => rfl
        | some others => simp [List.mapM_cons, Piece.strict?, rest] at failed)
      exact ⟨bytes, List.mem_cons_of_mem _ later⟩

-- Bytes that are no text leave a replacement character.
theorem replacement_mem_decodeLossy {bytes : Bytes} (broken : decode? bytes = none) :
    '\uFFFD' ∈ (decodeLossy bytes).toList := by
  obtain ⟨run, member⟩ := exists_broken_of_mapM (Option.map_eq_none_iff.1 broken)
  rw [decodeLossy, String.toList_ofList]
  exact List.mem_map.2 ⟨.broken run, member, rfl⟩

/-! ### Bytes below 128 -/

-- All bytes of a longer sequence are beyond 127.
theorem eq_of_mem_encodeChar {b : UInt8} (ascii : b < 0x80) {c : Char}
    (found : b ∈ String.utf8EncodeChar c) : c = Char.ofNat b.toNat := by
  have valid : c.val.toNat < 0xD800 ∨ 0xDFFF < c.val.toNat ∧ c.val.toNat < 0x110000 := c.valid
  have same : Char.ofNat c.val.toNat = c := Char.ofNat_toNat c
  have small : b.toNat < 128 := UInt8.lt_iff_toNat_lt.1 ascii
  unfold String.utf8EncodeChar at found
  generalize c.val.toNat = n at *
  simp only [] at found
  have value : n = b.toNat := by
    split at found
    · simp [← UInt8.toNat_inj] at found; omega
    · split at found
      · simp [← UInt8.toNat_inj] at found; omega
      · split at found
        · simp [← UInt8.toNat_inj] at found; omega
        · simp [← UInt8.toNat_inj] at found; omega
  rw [← same, value]

theorem encodeChar_of_ascii {b : UInt8} (ascii : b < 0x80) :
    String.utf8EncodeChar (Char.ofNat b.toNat) = [b] :=
  encodeChar_one (UInt8.lt_iff_toNat_lt.1 ascii)

-- Such a byte is in the encoding of its character and of no other.
theorem mem_encodeChars_iff {b : UInt8} (ascii : b < 0x80) {text : List Char} :
    b ∈ encodeChars text ↔ Char.ofNat b.toNat ∈ text := by
  constructor
  · intro found
    obtain ⟨c, member, found⟩ := List.mem_flatMap.1 found
    rwa [← eq_of_mem_encodeChar ascii found]
  · intro found
    refine List.mem_flatMap.2 ⟨_, found, ?_⟩
    rw [encodeChar_of_ascii ascii]
    exact List.mem_singleton_self b

theorem mem_of_lineFeed_mem_encodeChars {text : List Char} (found : 10 ∈ encodeChars text) :
    '\n' ∈ text :=
  (mem_encodeChars_iff (by decide)).1 found

theorem lineFeed_mem_encodeChars_iff {text : List Char} : 10 ∈ encodeChars text ↔ '\n' ∈ text :=
  mem_encodeChars_iff (by decide)

theorem encodeChars_injective {first second : List Char}
    (same : encodeChars first = encodeChars second) : first = second := by
  have decoded := congrArg decodeLossy same
  rw [decodeLossy_encodeChars, decodeLossy_encodeChars] at decoded
  exact String.ofList_injective decoded

theorem splitOnP_append {p : UInt8 → Bool} {piece : Bytes} (whole : ∀ b ∈ piece, p b = false)
    (rest : Bytes) : (piece ++ rest).splitOnP p = (rest.splitOnP p).modifyHead (piece ++ ·) := by
  induction piece with
  | nil => exact (congrFun List.modifyHead_id (rest.splitOnP p)).symm
  | cons b piece ih =>
    obtain ⟨first, others⟩ := List.forall_mem_cons.1 whole
    rw [List.cons_append, List.splitOnP_cons_eq_if_modifyHead, first, ih others,
      if_neg Bool.false_ne_true, List.modifyHead_modifyHead]
    rfl

-- Encoded text falls apart at such a byte as the text does at its character.
theorem splitOnP_encodeChars {b : UInt8} (ascii : b < 0x80) (text : List Char) :
    (encodeChars text).splitOnP (· == b) =
      (text.splitOn (Char.ofNat b.toNat)).map encodeChars := by
  rw [List.splitOn_eq_splitOnP]
  induction text with
  | nil => rfl
  | cons c text ih =>
    rw [encodeChars_cons, List.splitOnP_cons_eq_if_modifyHead]
    split
    case isTrue same =>
      rw [beq_iff_eq.1 same, encodeChar_of_ascii ascii, List.singleton_append,
        List.splitOnP_cons_eq_if_modifyHead, if_pos (beq_self_eq_true b), ih, List.map_cons]
      rfl
    case isFalse differs =>
      have whole : ∀ byte ∈ String.utf8EncodeChar c, (byte == b) = false := by
        intro byte member
        rw [beq_eq_false_iff_ne]
        rintro rfl
        exact differs (beq_iff_eq.2 (eq_of_mem_encodeChar ascii member))
      rw [splitOnP_append whole, ih]
      cases text.splitOnP (· == Char.ofNat b.toNat) <;> rfl

/-! ### A byte below 128 behind other bytes -/

theorem isContinuation_of_ascii {b : UInt8} (ascii : b < 0x80) : isContinuation b = false := by
  simp [isContinuation, UInt8.not_le.2 ascii]

theorem opensThree_of_ascii {b : UInt8} (ascii : b < 0x80) (lead : UInt8) :
    opensThree lead b = false := by
  rw [Bool.eq_false_iff, ne_eq, opensThree_iff]
  have := UInt8.lt_iff_toNat_lt.1 ascii
  simp at this
  omega

theorem opensFour_of_ascii {b : UInt8} (ascii : b < 0x80) (lead : UInt8) :
    opensFour lead b = false := by
  rw [Bool.eq_false_iff, ne_eq, opensFour_iff]
  have := UInt8.lt_iff_toNat_lt.1 ascii
  simp at this
  omega

theorem firstPiece_append {b : UInt8} (ascii : b < 0x80) (lead : UInt8) (rest : Bytes) :
    firstPiece lead (rest ++ [b]) = ((firstPiece lead rest).1, (firstPiece lead rest).2 ++ [b]) := by
  have continues := isContinuation_of_ascii ascii
  have three := opensThree_of_ascii ascii lead
  have four := opensFour_of_ascii ascii lead
  -- The byte decides only where the sequence is cut short, and then it does not continue it.
  rcases rest with _ | ⟨second, _ | ⟨third, _ | ⟨fourth, rest⟩⟩⟩
  · simp only [firstPiece, List.nil_append, continues, three, four, Bool.false_eq_true, if_false]
    split <;> simp
  · simp only [firstPiece, List.cons_append, List.nil_append, continues, Bool.false_eq_true,
      if_false]
    repeat' split
    all_goals rfl
  · simp only [firstPiece, List.cons_append, List.nil_append, continues, Bool.false_eq_true,
      if_false]
    repeat' split
    all_goals rfl
  · simp only [firstPiece, List.cons_append]
    repeat' split
    all_goals rfl

theorem pieces_append_ascii {b : UInt8} (ascii : b < 0x80) (bytes : Bytes) :
    pieces (bytes ++ [b]) = pieces bytes ++ [character b.toNat] := by
  fun_induction pieces bytes with
  | case1 =>
    have alone : firstPiece b [] = (character b.toNat, []) :=
      firstPiece_one (UInt8.lt_iff_toNat_lt.1 ascii) []
    simp [pieces, alone]
  | case2 lead rest ih =>
    rw [List.cons_append, pieces, firstPiece_append ascii, ih, List.cons_append]

-- A line feed is never part of a longer sequence.
theorem decodeLossy_append_lineFeed (bytes : Bytes) :
    decodeLossy (bytes ++ [10]) = decodeLossy bytes ++ "\n" := by
  rw [decodeLossy, pieces_append_ascii (by decide), List.map_append, String.ofList_append]
  rfl

end TunnelBroker.Text
