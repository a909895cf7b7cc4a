import TunnelBroker.Network.IpAddress
import TunnelBroker.Proofs.Text.Numeral
import Mathlib.Data.List.TakeDrop

/-!
Texts of addresses. Main statements: `Ipv6.isPrinted_chars`, which form the text has, and
`IpAddress.parse?_text`, an address is read back from it, IPv6 addresses with a run of zero groups
left out as well as those that map an IPv4 address.
-/

set_option autoImplicit false

namespace TunnelBroker

namespace Text

/-- No further character of the kind follows. -/
def Stops (p : Char → Bool) (rest : List Char) : Prop :=
  ∀ c, rest.head? = some c → p c = false

theorem span_of_stops {p : Char → Bool} {first rest : List Char} (all : ∀ c ∈ first, p c = true)
    (stops : Stops p rest) : (first ++ rest).span p = (first, rest) := by
  rw [List.span_eq_takeWhile_dropWhile, List.takeWhile_append_of_pos all,
    List.dropWhile_append_of_pos all]
  cases rest with
  | nil => simp
  | cons c rest =>
    have stop : p c = false := stops c rfl
    simp [stop]

end Text

/-! ### IPv4 -/

namespace Ipv4

theorem octet?_append (n : UInt8) {rest : List Char} (stops : Text.Stops Char.isDigit rest) :
    octet? (Nat.toDigits 10 n.toNat ++ rest) = some (n, rest) := by
  have bound := n.toNat_lt
  have digits : ∀ c ∈ Nat.toDigits 10 n.toNat, c.isDigit = true := fun c =>
    Nat.isDigit_of_mem_toDigits (by decide) (by decide)
  have length : (Nat.toDigits 10 n.toNat).length ≤ 3 :=
    (Nat.length_toDigits_le_iff (by decide) (by decide)).2 (by omega)
  have nonempty : (Nat.toDigits 10 n.toNat).isEmpty = false := by simp
  -- A leading zero is refused, unless it is the only digit.
  have zero : ((Nat.toDigits 10 n.toNat).head? == some '0' &&
      decide (1 < (Nat.toDigits 10 n.toNat).length)) = false := by
    by_cases positive : 0 < n.toNat
    · simp [Text.head_toDigits_ne_zero positive]
    · rw [Nat.eq_zero_of_not_pos positive]
      rfl
  have small : n.toNat ≤ 255 := by omega
  simp only [octet?, Text.span_of_stops digits stops, nonempty, zero, Nat.ofDigitChars_ten_toDigits]
  simp [small, length]

theorem stops_dot (rest : List Char) : Text.Stops Char.isDigit ('.' :: rest) := by
  rintro c ⟨⟩
  rfl

-- An address is read, if no digit follows.
theorem read?_chars (ip : Ipv4) {rest : List Char} (stops : Text.Stops Char.isDigit rest) :
    read? (ip.chars ++ rest) = some (ip, rest) := by
  have shape : ip.chars ++ rest = Nat.toDigits 10 ip.a.toNat ++ '.' ::
      (Nat.toDigits 10 ip.b.toNat ++ '.' :: (Nat.toDigits 10 ip.c.toNat ++ '.' ::
        (Nat.toDigits 10 ip.d.toNat ++ rest))) := by
    simp [chars]
  rw [shape, read?, octet?_append ip.a (stops_dot _)]
  show (octet? _).bind _ = _
  rw [octet?_append ip.b (stops_dot _)]
  show (octet? _).bind _ = _
  rw [octet?_append ip.c (stops_dot _)]
  show (octet? _).bind _ = _
  rw [octet?_append ip.d stops]
  rfl

theorem read?_chars_all (ip : Ipv4) : read? ip.chars = some (ip, []) := by
  have nothing : Text.Stops Char.isDigit [] := nofun
  simpa using ip.read?_chars nothing

theorem rest_of_octet? {text rest : List Char} {n : UInt8} (found : octet? text = some (n, rest)) :
    rest = text.dropWhile Char.isDigit := by
  simp only [octet?, List.span_eq_takeWhile_dropWhile] at found
  split at found
  · cases found
  · split at found
    · cases found
      rfl
    · cases found

theorem dottedOctet?_eq_none {text : List Char} (undotted : '.' ∉ text) :
    dottedOctet? text = none := by
  unfold dottedOctet?
  split
  · simp at undotted
  · rfl

-- Every group is tried as the beginning of an IPv4 address first, which needs a dot.
theorem read?_eq_none {text : List Char} (undotted : '.' ∉ text) : read? text = none := by
  cases first : octet? text with
  | none => simp [read?, first]
  | some found =>
    obtain ⟨n, rest⟩ := found
    have within : '.' ∉ rest := by
      rw [rest_of_octet? first]
      exact fun found => undotted ((List.dropWhile_sublist _).subset found)
    simp [read?, first, dottedOctet?_eq_none within]

theorem read?_colon (text : List Char) : read? (':' :: text) = none := rfl

theorem read?_letter (text : List Char) : read? ('f' :: text) = none := rfl

theorem groups_ofGroups (high low : UInt16) : (ofGroups high low).groups = [high, low] := by
  have join (n : UInt16) : (n / 256).toUInt8.toUInt16 * 256 + n.toUInt8.toUInt16 = n := by
    have bound := n.toNat_lt
    rw [← UInt16.toNat_inj]
    simp
    omega
  simp only [groups, ofGroups, join]

end Ipv4

/-! ### IPv6 -/

namespace Ipv6

/-! #### Groups -/

theorem isHexDigit_of_mem {n : Nat} : ∀ c ∈ Text.lowerHex n, isHexDigit c = true :=
  Text.forall_mem_toDigits (by decide) (by decide) n

theorem not_mem_lowerHex {c : Char} (other : isHexDigit c = false) (n : Nat) :
    c ∉ Text.lowerHex n := fun found =>
  Bool.false_ne_true (other.symm.trans (isHexDigit_of_mem c found))

theorem isHexDigit_dot : isHexDigit '.' = false := rfl

theorem group?_append (n : UInt16) {rest : List Char} (stops : Text.Stops isHexDigit rest) :
    group? (Text.lowerHex n.toNat ++ rest) = some (n, rest) := by
  have bound := n.toNat_lt
  have length : (Text.lowerHex n.toNat).length ≤ 4 :=
    (Nat.length_toDigits_le_iff (by decide) (by decide)).2 (by omega)
  have nonempty : (Text.lowerHex n.toNat).isEmpty = false := by simp [Text.lowerHex]
  have value : (Text.lowerHex n.toNat).foldl (fun value c => value * 16 + hexValue c) 0 = n.toNat :=
    Text.foldl_toDigits (by decide) (by decide) n.toNat
  simp only [group?, Text.span_of_stops isHexDigit_of_mem stops, nonempty, value]
  simp [length]

theorem group?_eq_none {text : List Char} (stops : Text.Stops isHexDigit text) :
    group? text = none := by
  have nothing : text.span isHexDigit = ([], text) :=
    Text.span_of_stops (List.forall_mem_nil _) stops
  simp only [group?, nothing]
  rfl

/-! #### Runs of groups -/

theorem isPrefixOf?_colon (text : List Char) : [':'].isPrefixOf? (':' :: text) = some text := rfl

/-- The text of groups behind another one. -/
def furtherChars (groups : List UInt16) : List Char :=
  groups.flatMap fun group => ':' :: Text.lowerHex group.toNat

theorem colonSeparated_cons (group : UInt16) (groups : List UInt16) :
    colonSeparated (group :: groups) = Text.lowerHex group.toNat ++ furtherChars groups := by
  induction groups generalizing group with
  | nil => simp [colonSeparated, furtherChars]
  | cons next groups ih =>
    have tail := ih next
    simp only [colonSeparated, furtherChars, List.map_cons, List.flatMap_cons] at tail ⊢
    rw [List.intercalate_cons_cons, tail]
    simp

/-- The text of groups ends here: nothing follows, or a double colon. -/
def IsEnd (rest : List Char) : Prop :=
  rest = [] ∨ ∃ more, rest = ':' :: ':' :: more

theorem IsEnd.stops {rest : List Char} (ends : IsEnd rest) : Text.Stops isHexDigit rest := by
  rcases ends with rfl | ⟨more, rfl⟩
  · exact nofun
  · rintro c ⟨⟩
    rfl

theorem stops_furtherChars {groups : List UInt16} {rest : List Char} (ends : IsEnd rest) :
    Text.Stops isHexDigit (furtherChars groups ++ rest) := by
  cases groups with
  | nil => exact ends.stops
  | cons group groups =>
    rintro c ⟨⟩
    rfl

theorem readGroups_of_isEnd {rest : List Char} (ends : IsEnd rest) (undotted : '.' ∉ rest)
    (slots : Nat) : readGroups slots true rest = ⟨[], false, rest⟩ := by
  cases slots with
  | zero => rfl
  | succ slots => simp [readGroups, Ipv4.read?_eq_none undotted, group?_eq_none ends.stops]

theorem readGroups_further_of_isEnd {rest : List Char} (ends : IsEnd rest) (undotted : '.' ∉ rest)
    (slots : Nat) : readGroups slots false rest = ⟨[], false, rest⟩ := by
  cases slots with
  | zero => rfl
  | succ slots =>
    rcases ends with rfl | ⟨more, rfl⟩
    · rfl
    · have behind : '.' ∉ ':' :: more := fun found => undotted (List.mem_cons_of_mem _ found)
      have stops : Text.Stops isHexDigit (':' :: more) := by
        rintro c ⟨⟩
        rfl
      simp [readGroups, isPrefixOf?_colon, Ipv4.read?_eq_none behind, group?_eq_none stops]

theorem not_mem_furtherChars {c : Char} (other : isHexDigit c = false) (noColon : c ≠ ':')
    (groups : List UInt16) : c ∉ furtherChars groups := by
  simp [furtherChars, not_mem_lowerHex other, noColon]

theorem readGroups_further {groups : List UInt16} {rest : List Char} (ends : IsEnd rest)
    (undotted : '.' ∉ rest) {slots : Nat} (fits : groups.length ≤ slots) :
    readGroups slots false (furtherChars groups ++ rest) = ⟨groups, false, rest⟩ := by
  induction groups generalizing slots with
  | nil => exact readGroups_further_of_isEnd ends undotted slots
  | cons group groups ih =>
    cases slots with
    | zero => simp at fits
    | succ slots =>
      have shape : furtherChars (group :: groups) ++ rest =
          ':' :: (Text.lowerHex group.toNat ++ (furtherChars groups ++ rest)) := by
        simp [furtherChars]
      have here : '.' ∉ Text.lowerHex group.toNat ++ (furtherChars groups ++ rest) := by
        simp [not_mem_lowerHex isHexDigit_dot, not_mem_furtherChars isHexDigit_dot, undotted]
      rw [shape]
      simp [readGroups, isPrefixOf?_colon, Ipv4.read?_eq_none here, group?_append group (stops_furtherChars ends),
        ih (Nat.le_of_succ_le_succ fits)]

-- Groups are read up to their end.
theorem readGroups_colonSeparated {groups : List UInt16} {rest : List Char} (ends : IsEnd rest)
    (undotted : '.' ∉ rest) {slots : Nat} (fits : groups.length ≤ slots) :
    readGroups slots true (colonSeparated groups ++ rest) = ⟨groups, false, rest⟩ := by
  cases groups with
  | nil => exact readGroups_of_isEnd ends undotted slots
  | cons group groups =>
    cases slots with
    | zero => simp at fits
    | succ slots =>
      have here : '.' ∉ Text.lowerHex group.toNat ++ (furtherChars groups ++ rest) := by
        simp [not_mem_lowerHex isHexDigit_dot, not_mem_furtherChars isHexDigit_dot, undotted]
      rw [colonSeparated_cons, List.append_assoc]
      simp [readGroups, Ipv4.read?_eq_none here, group?_append group (stops_furtherChars ends),
        readGroups_further ends undotted (Nat.le_of_succ_le_succ fits)]

/-! #### The run that is left out -/

/-- At a place in the groups there are as many zeros as this. -/
def IsRun (groups : List UInt16) (run : Nat × Nat) : Prop :=
  run.2 ≤ leadingZeros (groups.drop run.1)

theorem IsRun.within {groups : List UInt16} {start length : Nat}
    (run : IsRun groups (start, length)) (some : 0 < length) : start + length ≤ groups.length := by
  have bound := List.Sublist.length_le
    (List.takeWhile_sublist (l := groups.drop start) (· == (0 : UInt16)))
  have zeros : length ≤ (groups.drop start).length := Nat.le_trans run bound
  rw [List.length_drop] at zeros
  omega

/-- No longer run begins at one of the first `places` groups, and before this run none that is as
long. -/
structure IsLongest (groups : List UInt16) (places : Nat) (run : Nat × Nat) : Prop where
  isRun : IsRun groups run
  longest : ∀ other < places, leadingZeros (groups.drop other) ≤ run.2
  first : ∀ other < run.1, leadingZeros (groups.drop other) < run.2

theorem longestZeros_isLongest (groups : List UInt16) :
    IsLongest groups groups.length (longestZeros groups) := by
  unfold longestZeros
  induction groups.length with
  | zero => exact ⟨Nat.zero_le _, nofun, nofun⟩
  | succ places ih =>
    rw [List.range_succ, List.foldl_append, List.foldl_cons, List.foldl_nil]
    generalize (List.range places).foldl _ _ = best at ih ⊢
    dsimp only
    split
    · next longer =>
      refine ⟨Nat.le_refl _, fun other earlier => ?_, fun other earlier => ?_⟩
      · rcases Nat.lt_succ_iff_lt_or_eq.1 earlier with earlier | rfl
        · exact Nat.le_trans (ih.longest other earlier) (Nat.le_of_lt longer)
        · exact Nat.le_refl _
      · exact Nat.lt_of_le_of_lt (ih.longest other earlier) longer
    · next shorter =>
      refine ⟨ih.isRun, fun other earlier => ?_, ih.first⟩
      rcases Nat.lt_succ_iff_lt_or_eq.1 earlier with earlier | rfl
      · exact ih.longest other earlier
      · exact Nat.not_lt.1 shorter

theorem take_of_le_leadingZeros {groups : List UInt16} {length : Nat}
    (zeros : length ≤ leadingZeros groups) : groups.take length = List.replicate length 0 := by
  obtain ⟨others, same⟩ := List.takeWhile_prefix (l := groups) (· == (0 : UInt16))
  have within : groups.take length = (groups.takeWhile (· == 0)).take length := by
    conv => lhs; rw [← same]
    exact List.take_append_of_le_length zeros
  rw [within, List.eq_replicate_iff]
  constructor
  · rw [List.length_take]
    exact Nat.min_eq_left zeros
  · intro group found
    have zero := List.all_eq_true.1 List.all_takeWhile group (List.mem_of_mem_take found)
    simpa using zero

-- What is left out are zeros.
theorem eq_around_run {groups : List UInt16} {start length : Nat}
    (run : IsRun groups (start, length)) :
    groups.take start ++ List.replicate length 0 ++ groups.drop (start + length) = groups := by
  rw [← take_of_le_leadingZeros run, ← List.drop_drop, List.append_assoc, List.take_append_drop,
    List.take_append_drop]

/-! #### Addresses -/

theorem readAll?_colonSeparated {groups : List UInt16} (eight : groups.length = 8) :
    readAll? (colonSeparated groups) = some (groups, []) := by
  have head := readGroups_colonSeparated (.inl rfl) (List.not_mem_nil) (Nat.le_of_eq eight)
  rw [List.append_nil] at head
  simp [readAll?, head, eight]

theorem not_mem_colonSeparated {c : Char} (other : isHexDigit c = false) (noColon : c ≠ ':')
    (groups : List UInt16) : c ∉ colonSeparated groups := by
  cases groups with
  | nil => exact nofun
  | cons group groups =>
    simp [colonSeparated_cons, not_mem_lowerHex other, not_mem_furtherChars other noColon]

-- A double colon is read as the zeros that are missing.
theorem readAll?_doubleColon {head tail : List UInt16} (short : head.length + tail.length < 7) :
    readAll? (colonSeparated head ++ "::".toList ++ colonSeparated tail) =
      some (head ++ List.replicate (8 - head.length - tail.length) 0 ++ tail, []) := by
  have undotted : '.' ∉ ':' :: ':' :: colonSeparated tail := by
    simp [not_mem_colonSeparated isHexDigit_dot]
  have first := readGroups_colonSeparated (.inr ⟨colonSeparated tail, rfl⟩) undotted
    (show head.length ≤ 8 by omega)
  have second := readGroups_colonSeparated (.inl rfl) List.not_mem_nil
    (show tail.length ≤ 7 - head.length by omega)
  rw [List.append_nil] at second
  have shape : colonSeparated head ++ "::".toList ++ colonSeparated tail =
      colonSeparated head ++ ':' :: ':' :: colonSeparated tail := by
    simp
  have notAll : head.length ≠ 8 := by omega
  rw [shape]
  simp [readAll?, first, second, notAll]

theorem readAll?_mapped (high low : UInt16) :
    readAll? ("::ffff:".toList ++ (Ipv4.ofGroups high low).chars) =
      some ([0, 0, 0, 0, 0, 0xFFFF, high, low], []) := by
  let ip := Ipv4.ofGroups high low
  let mark := 'f' :: 'f' :: 'f' :: 'f' :: ':' :: ip.chars
  have colon (text : List Char) : Text.Stops isHexDigit (':' :: text) := by
    rintro c ⟨⟩
    rfl
  have head : readGroups 8 true (':' :: ':' :: mark) = ⟨[], false, ':' :: ':' :: mark⟩ := by
    simp [readGroups, Ipv4.read?_colon, group?_eq_none (colon (':' :: mark))]
  have last : readGroups 6 false (':' :: ip.chars) = ⟨[high, low], true, []⟩ := by
    simp [readGroups, isPrefixOf?_colon, ip, Ipv4.read?_chars_all, Ipv4.groups_ofGroups]
  have first : group? mark = some (0xFFFF, ':' :: ip.chars) :=
    group?_append 0xFFFF (colon ip.chars)
  have tail : readGroups 7 true mark = ⟨[0xFFFF, high, low], true, []⟩ := by
    unfold readGroups
    simp [show Ipv4.read? mark = none from Ipv4.read?_letter _, first, last]
  show readAll? (':' :: ':' :: mark) = _
  simp [readAll?, head, tail, List.replicate]

-- Addresses are read back.
theorem readAll?_chars (ip : Ipv6) : readAll? ip.chars = some (ip.groups, []) := by
  unfold chars
  split
  · next high low groups =>
    rw [groups]
    exact readAll?_mapped high low
  · have eight := ip.eight
    -- Which run of zeros is left out does not matter, only that it is one.
    have run := (longestZeros_isLongest ip.groups).isRun
    generalize longestZeros ip.groups = found at run
    obtain ⟨start, length⟩ := found
    dsimp only
    split
    · next some =>
      have within := run.within (Nat.lt_of_succ_lt some)
      rw [eight] at within
      have before : (ip.groups.take start).length = start := by
        rw [List.length_take, eight]
        omega
      have behind : (ip.groups.drop (start + length)).length = 8 - (start + length) := by
        rw [List.length_drop, eight]
      rw [readAll?_doubleColon (by omega), before, behind,
        show 8 - start - (8 - (start + length)) = length by omega, eq_around_run run]
    · exact readAll?_colonSeparated eight

theorem read?_chars (ip : Ipv6) : Ipv4.read? ip.chars = none := by
  unfold chars
  split
  · exact Ipv4.read?_colon _
  · dsimp only
    split
    · apply Ipv4.read?_eq_none
      simp [not_mem_colonSeparated isHexDigit_dot]
    · exact Ipv4.read?_eq_none (not_mem_colonSeparated isHexDigit_dot (by decide) _)

/-! #### The form of an address -/

/-- The groups hold an IPv4 address. -/
def IsMapped (groups : List UInt16) : Prop :=
  ∃ high low, groups = [0, 0, 0, 0, 0, 0xFFFF, high, low]

/-- How groups are written: with the IPv4 address in dotted form if they hold one, and else without
the first of the longest runs of zeros, if that has more than one. -/
inductive IsPrinted (groups : List UInt16) : List Char → Prop where
  | mapped {high low : UInt16} (holds : groups = [0, 0, 0, 0, 0, 0xFFFF, high, low]) :
    IsPrinted groups ("::ffff:".toList ++ (Ipv4.ofGroups high low).chars)
  | shortened {before after : List UInt16} {length : Nat} (unmapped : ¬ IsMapped groups)
    (whole : groups = before ++ List.replicate length 0 ++ after) (some : 1 < length)
    (longest : IsLongest groups groups.length (before.length, length)) :
    IsPrinted groups (colonSeparated before ++ "::".toList ++ colonSeparated after)
  | full (unmapped : ¬ IsMapped groups)
    (scattered : ∀ start < groups.length, leadingZeros (groups.drop start) ≤ 1) :
    IsPrinted groups (colonSeparated groups)

theorem isPrinted_chars (ip : Ipv6) : IsPrinted ip.groups ip.chars := by
  unfold chars
  split
  · next holds => exact .mapped holds
  · next others =>
    have unmapped : ¬ IsMapped ip.groups := fun ⟨high, low, holds⟩ => others high low holds
    have longest := longestZeros_isLongest ip.groups
    generalize longestZeros ip.groups = found at longest
    obtain ⟨start, length⟩ := found
    dsimp only
    split
    · next some =>
      have within := longest.isRun.within (Nat.lt_of_succ_lt some)
      have before : (ip.groups.take start).length = start := by
        rw [List.length_take]
        omega
      exact .shortened unmapped (eq_around_run longest.isRun).symm some (before.symm ▸ longest)
    · next short =>
      exact .full unmapped fun start earlier =>
        Nat.le_trans (longest.longest start earlier) (Nat.not_lt.1 short)

end Ipv6

namespace IpAddress

-- Every address is read back from its text.
@[simp]
theorem parse?_text (ip : IpAddress) : parse? ip.text = some ip := by
  rw [parse?, text, String.toList_ofList]
  cases ip with
  | v4 address =>
    have whole : Ipv4.read? address.chars = some (address, []) := address.read?_chars_all
    simp only [chars, ofChars?, whole]
    rfl
  | v6 address =>
    simp only [chars, ofChars?, address.read?_chars, address.readAll?_chars, Ipv6.ofGroups?,
      address.eight, dite_true, Option.map_some]

end IpAddress

/-! ### The characters of an address -/

theorem Ipv4.not_mem_chars {c : Char} (other : c.isDigit = false) (noDot : c ≠ '.') (ip : Ipv4) :
    c ∉ ip.chars := by
  simp [chars, Text.not_mem_toDigits other, noDot]

theorem Ipv6.isDigit_of_isHexDigit {c : Char} (other : isHexDigit c = false) :
    c.isDigit = false := by
  simp only [isHexDigit, Bool.or_eq_false_iff] at other
  exact other.1.1

theorem Ipv6.not_mem_chars {c : Char} (other : isHexDigit c = false) (noDot : c ≠ '.')
    (noColon : c ≠ ':') (ip : Ipv6) : c ∉ ip.chars := by
  have noDigit := isDigit_of_isHexDigit other
  unfold chars
  split
  · have noLetter : c ≠ 'f' := fun same => absurd (same ▸ other) (by decide)
    simp [Ipv4.not_mem_chars noDigit noDot, noColon, noLetter]
  · dsimp only
    split
    · simp [not_mem_colonSeparated other noColon, noColon]
    · exact not_mem_colonSeparated other noColon _

theorem SocketAddress.not_mem_chars {c : Char} (other : Ipv6.isHexDigit c = false)
    (noMark : c ∉ ['.', ':', '[', ']']) (address : SocketAddress) : c ∉ address.chars := by
  obtain ⟨ip, port⟩ := address
  have noDigit := Ipv6.isDigit_of_isHexDigit other
  have digits := Text.not_mem_toDigits noDigit port.toNat
  simp only [List.mem_cons, List.not_mem_nil, or_false, not_or] at noMark
  obtain ⟨noDot, noColon, noOpening, noClosing⟩ := noMark
  cases ip with
  | v4 ip => simp [chars, digits, noColon, ip.not_mem_chars noDigit noDot]
  | v6 ip =>
    simp [chars, digits, noColon, noOpening, noClosing, ip.not_mem_chars other noDot noColon]

end TunnelBroker
