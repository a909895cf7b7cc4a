import TunnelBroker.Encoding.Json.Record
import TunnelBroker.Proofs.Table

/-!
JSON documents are read back from their text. What is written for a document is read as its
tree, whatever follows it.
-/

set_option autoImplicit false

namespace TunnelBroker.Json

/-! ### Strings -/

def addUnit (c : Char) (found : List Nat × List Char) : List Nat × List Char :=
  (c.toNat :: found.1, found.2)

theorem readUnits_simple {c letter : Char} (escaped : simpleEscape? letter = some c)
    (notUnit : letter ≠ 'u') (rest : List Char) :
    readUnits ('\\' :: letter :: rest) = (readUnits rest).map (addUnit c) := by
  rw [readUnits.eq_3 _ _ fun _ _ _ _ _ unit => absurd unit notUnit, escaped]
  cases readUnits rest <;> rfl

theorem readUnits_plain {c : Char} (quote : c ≠ '"') (backslash : c ≠ '\\') (printable : ¬ c < ' ')
    (rest : List Char) : readUnits (c :: rest) = (readUnits rest).map (addUnit c) := by
  rw [readUnits.eq_4 _ _ (absurd · quote) (fun _ _ _ _ _ same => absurd same backslash)
    fun _ _ same => absurd same backslash, if_neg (not_or.2 ⟨printable, backslash⟩)]
  cases readUnits rest <;> rfl

theorem hexUnit?_control {n : Nat} (control : n < 32) :
    hexUnit? '0' '0' (Nat.digitChar (n / 16)) (Nat.digitChar (n % 16)) = some n := by
  have table : ∀ n < 32,
      hexUnit? '0' '0' (Nat.digitChar (n / 16)) (Nat.digitChar (n % 16)) = some n := by decide
  exact table n control

theorem readUnits_control {c : Char} (control : c < ' ') (rest : List Char) :
    readUnits ('\\' :: 'u' :: '0' :: '0' :: Nat.digitChar (c.toNat / 16) ::
        Nat.digitChar (c.toNat % 16) :: rest) =
      (readUnits rest).map (addUnit c) := by
  have small : c.toNat < 32 := control
  rw [readUnits.eq_2, hexUnit?_control small]
  cases readUnits rest <;> rfl

theorem readUnits_escape (c : Char) (rest : List Char) :
    readUnits (escape c ++ rest) = (readUnits rest).map (addUnit c) := by
  unfold escape
  -- Seven characters are escaped by letters of their own.
  iterate 7
    split
    · next same =>
      subst same
      exact readUnits_simple rfl (by decide) rest
  split
  · next control => exact readUnits_control control rest
  · next quote backslash _ _ _ _ _ printable => exact readUnits_plain quote backslash printable rest

theorem readUnits_escaped (text rest : List Char) :
    readUnits (text.flatMap escape ++ '"' :: rest) = some (text.map Char.toNat, rest) := by
  induction text with
  | nil => rfl
  | cons c text ih =>
    rw [List.flatMap_cons, List.append_assoc, readUnits_escape, ih]
    rfl

theorem joinUnits_map_toNat (text : List Char) : joinUnits (text.map Char.toNat) = some text := by
  induction text with
  | nil => rfl
  | cons c text ih =>
    have valid : c.toNat < 0xD800 ∨ 0xDFFF < c.toNat ∧ c.toNat < 0x110000 := c.valid
    -- A character is no half of a surrogate pair.
    have notHigh : isHighSurrogate c.toNat = false := by
      simp [isHighSurrogate]
      omega
    have notLow : isLowSurrogate c.toNat = false := by
      simp [isLowSurrogate]
      omega
    rw [List.map_cons]
    unfold joinUnits
    simp [notHigh, notLow, ih]

theorem readString_escaped (text : String) (rest : List Char) :
    readString (text.toList.flatMap escape ++ '"' :: rest) = some (some text, rest) := by
  simp [readString, readUnits_escaped, joinUnits_map_toNat]

/-! ### Space -/

theorem skipSpace_newLine (depth : Nat) (text : List Char) :
    skipSpace (newLine depth ++ text) = skipSpace text := by
  have spaces : ∀ c ∈ newLine depth, isSpace c = true := by
    simp [newLine, isSpace]
  exact List.dropWhile_append_of_pos spaces

theorem skipSpace_cons {c : Char} (visible : isSpace c = false) (text : List Char) :
    skipSpace (c :: text) = c :: text := by
  simp [skipSpace, visible]

/-! ### Values -/

mutual

def reading : Json → Reading
  | null => .null
  | string text => .string (some text)
  | object members => .object (readings members) true

def readings : List (String × Json) → List (Option String × Reading)
  | [] => []
  | (key, value) :: members => (some key, value.reading) :: readings members

end

theorem readValue_null (fuel : Nat) {text rest : List Char}
    (same : skipSpace text = 'n' :: 'u' :: 'l' :: 'l' :: rest) :
    readValue (fuel + 1) text = (.null, rest) := by
  simp only [readValue, same]

theorem readValue_string (fuel : Nat) {text rest : List Char} (value : String)
    (same : skipSpace text = quote value ++ rest) :
    readValue (fuel + 1) text = (.string (some value), rest) := by
  have shape : quote value ++ rest = '"' :: (value.toList.flatMap escape ++ '"' :: rest) := by
    simp [quote]
  simp only [readValue, same.trans shape, readString_escaped]

theorem readValue_emptyObject (fuel : Nat) {text rest : List Char}
    (same : skipSpace text = '{' :: '}' :: rest) :
    readValue (fuel + 1) text = (.object [] true, rest) := by
  have closed : skipSpace ('}' :: rest) = '}' :: rest := skipSpace_cons rfl rest
  simp only [readValue, same, closed]

theorem readValue_object (fuel : Nat) {text inside more rest : List Char}
    {members : List (Option String × Reading)} {closed : Bool}
    (same : skipSpace text = '{' :: inside) (first : skipSpace inside = '"' :: more)
    (members_eq : readMembers fuel ('"' :: more) = (members, closed, rest)) :
    readValue (fuel + 1) text = (.object members closed, rest) := by
  simp only [readValue, same, first]
  show (Reading.object (readMembers fuel ('"' :: more)).1 (readMembers fuel ('"' :: more)).2.1,
    (readMembers fuel ('"' :: more)).2.2) = _
  rw [members_eq]

theorem readMembers_last (fuel : Nat) {text behind rest : List Char} (key : String)
    {value : Reading} (same : skipSpace text = quote key ++ ':' :: behind)
    {after : List Char} (value_eq : readValue fuel behind = (value, after))
    (closes : skipSpace after = '}' :: rest) :
    readMembers (fuel + 1) text = ([(some key, value)], true, rest) := by
  have shape : quote key ++ ':' :: behind =
      '"' :: (key.toList.flatMap escape ++ '"' :: ':' :: behind) := by
    simp [quote]
  have colon : skipSpace (':' :: behind) = ':' :: behind := skipSpace_cons rfl behind
  simp only [readMembers, same.trans shape, readString_escaped, colon, value_eq, closes]

theorem readMembers_cons (fuel : Nat) {text behind others rest : List Char} (key : String)
    {value : Reading} (same : skipSpace text = quote key ++ ':' :: behind)
    {after : List Char} (value_eq : readValue fuel behind = (value, after))
    (continues : skipSpace after = ',' :: others) {members : List (Option String × Reading)}
    {closed : Bool} (members_eq : readMembers fuel others = (members, closed, rest)) :
    readMembers (fuel + 1) text = ((some key, value) :: members, closed, rest) := by
  have shape : quote key ++ ':' :: behind =
      '"' :: (key.toList.flatMap escape ++ '"' :: ':' :: behind) := by
    simp [quote]
  have colon : skipSpace (':' :: behind) = ':' :: behind := skipSpace_cons rfl behind
  simp only [readMembers, same.trans shape, readString_escaped, colon, value_eq, continues,
    members_eq]

/-! ### Documents -/

theorem exists_prettyChars_eq_cons (json : Json) (depth : Nat) :
    ∃ c more, json.prettyChars depth = c :: more ∧ isSpace c = false := by
  cases json with
  | null => exact ⟨_, _, rfl, rfl⟩
  | string text => exact ⟨_, _, rfl, rfl⟩
  | object members =>
    cases members with
    | nil => exact ⟨_, _, rfl, rfl⟩
    | cons member members => exact ⟨'{', _, by simp only [prettyChars, List.cons_append]; rfl, rfl⟩

theorem skipSpace_prettyChars (json : Json) (depth : Nat) (rest : List Char) :
    skipSpace (json.prettyChars depth ++ rest) = json.prettyChars depth ++ rest := by
  obtain ⟨c, more, same, visible⟩ := json.exists_prettyChars_eq_cons depth
  rw [same]
  exact skipSpace_cons visible _

theorem exists_prettyMembers_eq_cons (depth : Nat) (member : String × Json)
    (members : List (String × Json)) :
    ∃ more, prettyMembers depth (member :: members) = '"' :: more := by
  obtain ⟨key, value⟩ := member
  cases members with
  | nil => exact ⟨_, by simp only [prettyMembers, quote, List.cons_append]; rfl⟩
  | cons next members => exact ⟨_, by simp only [prettyMembers, quote, List.cons_append]; rfl⟩

/-- With this much fuel, documents up to this length are read as their trees. -/
def ReadsValues (fuel : Nat) : Prop :=
  ∀ (json : Json) (depth : Nat) (text rest : List Char),
    skipSpace text = json.prettyChars depth ++ rest →
    (json.prettyChars depth).length ≤ fuel → readValue (fuel + 1) text = (json.reading, rest)

def ReadsMembers (fuel : Nat) : Prop :=
  ∀ (member : String × Json) (members : List (String × Json)) (depth outer : Nat)
    (text rest : List Char),
    skipSpace text = prettyMembers depth (member :: members) ++ (newLine outer ++ '}' :: rest) →
    (prettyMembers depth (member :: members)).length ≤ fuel →
    readMembers (fuel + 1) text = (readings (member :: members), true, rest)

theorem ReadsMembers.values {fuel : Nat} (reads : ReadsMembers fuel) : ReadsValues (fuel + 1) := by
  intro json depth text rest same enough
  cases json with
  | null => exact readValue_null _ same
  | string value => exact readValue_string _ value same
  | object members =>
    cases members with
    | nil => exact readValue_emptyObject _ same
    | cons member members =>
      let inner := prettyMembers (depth + 1) (member :: members)
      have shape : (object (member :: members)).prettyChars depth ++ rest =
          '{' :: (newLine (depth + 1) ++ (inner ++ (newLine depth ++ '}' :: rest))) := by
        simp [prettyChars, inner]
      have shorter : inner.length < ((object (member :: members)).prettyChars depth).length := by
        simp [prettyChars, inner]
        omega
      obtain ⟨more, begins⟩ := exists_prettyMembers_eq_cons (depth + 1) member members
      have visible : skipSpace (inner ++ (newLine depth ++ '}' :: rest)) =
          '"' :: (more ++ (newLine depth ++ '}' :: rest)) := by
        rw [show inner = '"' :: more from begins]
        exact skipSpace_cons rfl _
      refine readValue_object _ (same.trans shape) ((skipSpace_newLine ..).trans visible) ?_
      apply reads member members (depth + 1) depth
      · rw [begins]
        exact skipSpace_cons rfl _
      · show inner.length ≤ fuel
        omega

theorem ReadsMembers.succ {fuel : Nat} (values : ReadsValues fuel) (reads : ReadsMembers fuel) :
    ReadsMembers (fuel + 1) := by
  intro (key, value) members depth outer text rest same enough
  cases members with
  | nil =>
    have shape : prettyMembers depth [(key, value)] ++ (newLine outer ++ '}' :: rest) =
        quote key ++ ':' :: ' ' :: (value.prettyChars depth ++ (newLine outer ++ '}' :: rest)) := by
      simp [prettyMembers]
    have shorter : (value.prettyChars depth).length < (prettyMembers depth [(key, value)]).length := by
      simp [prettyMembers]
      omega
    have closes : skipSpace (newLine outer ++ '}' :: rest) = '}' :: rest :=
      (skipSpace_newLine ..).trans (skipSpace_cons rfl rest)
    exact readMembers_last _ key (same.trans shape)
      (values value depth _ _ (value.skipSpace_prettyChars depth _) (by omega)) closes
  | cons next others =>
    let behind := prettyMembers depth (next :: others) ++ (newLine outer ++ '}' :: rest)
    have shape : prettyMembers depth ((key, value) :: next :: others) ++
        (newLine outer ++ '}' :: rest) = quote key ++ ':' :: ' ' ::
          (value.prettyChars depth ++ ',' :: (newLine depth ++ behind)) := by
      simp [prettyMembers, behind]
    have shorter : (value.prettyChars depth).length +
        (prettyMembers depth (next :: others)).length <
          (prettyMembers depth ((key, value) :: next :: others)).length := by
      simp [prettyMembers]
      omega
    have comma : skipSpace (',' :: (newLine depth ++ behind)) = ',' :: (newLine depth ++ behind) :=
      skipSpace_cons rfl _
    have visible : skipSpace (newLine depth ++ behind) = behind := by
      obtain ⟨more, begins⟩ := exists_prettyMembers_eq_cons depth next others
      rw [skipSpace_newLine, show behind = '"' :: more ++ _ from congrArg (· ++ _) begins]
      exact skipSpace_cons rfl _
    exact readMembers_cons _ key (same.trans shape)
      (values value depth _ _ (value.skipSpace_prettyChars depth _) (by omega)) comma
      (reads next others depth outer _ rest visible (by omega))

-- Values and members are read by each other, so the induction on fuel carries both.
theorem reads (fuel : Nat) : ReadsValues fuel ∧ ReadsMembers fuel := by
  induction fuel with
  | zero =>
    -- No document and no member is written without a character.
    constructor
    · intro json depth text rest same enough
      obtain ⟨c, more, begins, _⟩ := json.exists_prettyChars_eq_cons depth
      simp [begins] at enough
    · intro member members depth outer text rest same enough
      obtain ⟨more, begins⟩ := exists_prettyMembers_eq_cons depth member members
      simp [begins] at enough
  | succ fuel ih => exact ⟨ih.2.values, ih.2.succ ih.1⟩

theorem read_prettyChars (json : Json) : read (json.prettyChars 0) = (json.reading, []) := by
  have same : skipSpace (json.prettyChars 0) = json.prettyChars 0 ++ [] := by
    simpa using json.skipSpace_prettyChars 0 []
  exact (reads _).1 json 0 _ [] same (by omega)

-- What is decoded of a document's text is what its tree holds.
theorem decode_pretty {α : Type} {decodeTree : Reading → Except Fault α} {json : Json} {value : α}
    (held : decodeTree json.reading = .ok value) : decode decodeTree json.pretty = .ok value := by
  rw [decode, pretty, String.toList_ofList, read_prettyChars]
  simp only [held]
  rfl

/-! ### Records -/

namespace Reading

def fieldMembers (fields : List (Field × Reading)) : List (Option String × Reading) :=
  fields.map fun (field, value) => (some field.name, value)

def fieldValues (fields : List (Field × Reading)) : List (String × Reading) :=
  fields.map fun (field, value) => (field.name, value)

theorem find?_of_mem {fields : List Field} (distinct : (fields.map Field.name).Nodup)
    {field : Field} (member : field ∈ fields) :
    fields.find? (·.name = field.name) = some field := by
  induction fields with
  | nil => exact nomatch member
  | cons first fields ih =>
    have ⟨fresh, others⟩ := List.nodup_cons.1 distinct
    rcases List.mem_cons.1 member with rfl | later
    · exact List.find?_cons_of_pos (by simp)
    · have differ : first.name ≠ field.name := fun same =>
        fresh (same ▸ List.mem_map_of_mem later)
      rw [List.find?_cons_of_neg (by simpa using differ)]
      exact ih others later

theorem checkMembers_fieldMembers {all : List Field} (distinct : (all.map Field.name).Nodup)
    {fields : List (Field × Reading)}
    (right : ∀ entry ∈ fields, entry.1 ∈ all ∧ entry.1.fault? entry.2 = none) (seen : List String)
    (fresh : (fields.map (·.1.name)).Nodup) (unseen : ∀ entry ∈ fields, entry.1.name ∉ seen) :
    checkMembers all seen (fieldMembers fields) = .ok (fieldValues fields) := by
  induction fields generalizing seen with
  | nil => rfl
  | cons entry fields ih =>
    obtain ⟨field, value⟩ := entry
    have ⟨⟨member, faultless⟩, rightOthers⟩ := List.forall_mem_cons.1 right
    have ⟨notSeen, unseenOthers⟩ := List.forall_mem_cons.1 unseen
    have ⟨differ, freshOthers⟩ := List.nodup_cons.1 fresh
    have later : ∀ entry ∈ fields, entry.1.name ∉ field.name :: seen := by
      intro entry found again
      rcases List.mem_cons.1 again with same | again
      · exact differ (List.mem_map.2 ⟨entry, found, same⟩)
      · exact unseenOthers entry found again
    have rest := ih rightOthers (field.name :: seen) freshOthers later
    show checkMembers all seen ((some field.name, value) :: fieldMembers fields) = _
    simp only [checkMembers, find?_of_mem distinct member, if_neg notSeen,
      show field.fault? value = none from faultless, rest]
    rfl

theorem missing?_fieldValues (fields : List (Field × Reading)) :
    missing? (fields.map Prod.fst) (fieldValues fields) = none := by
  have there : ∀ field ∈ fields.map Prod.fst,
      (fieldValues fields).any (·.1 = field.name) = true := by
    intro field found
    obtain ⟨entry, member, rfl⟩ := List.mem_map.1 found
    rw [List.any_eq_true]
    exact ⟨_, List.mem_map_of_mem member, by simp⟩
  rw [missing?, List.find?_eq_none.2, Option.map_none]
  intro field found
  simp [there field found]

-- A record whose fields are all there and right is read as they are.
theorem record_fieldMembers {fields : List (Field × Reading)}
    (distinct : ((fields.map Prod.fst).map Field.name).Nodup)
    (right : ∀ entry ∈ fields, entry.1.fault? entry.2 = none) :
    record (fields.map Prod.fst) (object (fieldMembers fields) true) = .ok (fieldValues fields) := by
  have fresh : (fields.map (·.1.name)).Nodup := by
    rwa [List.map_map] at distinct
  have checked := checkMembers_fieldMembers distinct
    (fun entry found => ⟨List.mem_map_of_mem found, right entry found⟩) [] fresh
    (fun _ _ => List.not_mem_nil)
  rw [record, checked]
  simp only [bind, Except.bind, missing?_fieldValues, if_true]
  rfl

/-! ### Tables -/

theorem mapM_readings {α : Type} {toJson : α → Json} {entries : List (String × α)}
    {read : Option String × Reading → Except Fault (String × α)}
    (right : ∀ entry ∈ entries, read (some entry.1, (toJson entry.2).reading) = .ok entry) :
    (readings (entries.map fun entry => (entry.1, toJson entry.2))).mapM read = .ok entries := by
  induction entries with
  | nil => rfl
  | cons entry entries ih =>
    have ⟨first, others⟩ := List.forall_mem_cons.1 right
    simp only [List.map_cons, readings, List.mapM_cons, first, ih others]
    rfl

-- A table is read back from the object of its entries.
theorem table_readings {α : Type} {read : Reading → Except Fault α} {toJson : α → Json}
    (items : Table α) (right : ∀ entry ∈ items.entries, read (toJson entry.2).reading = .ok entry.2) :
    table read (Json.object (items.entries.map fun entry => (entry.1, toJson entry.2))).reading =
      .ok items := by
  rw [reading, table, mapM_readings]
  · exact congrArg Except.ok items.ofList_entries
  · intro entry found
    simp only [right entry found]
    rfl

end Reading

end TunnelBroker.Json
