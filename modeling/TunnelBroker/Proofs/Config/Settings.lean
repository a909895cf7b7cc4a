import TunnelBroker.Config.Settings
import TunnelBroker.Proofs.Path
import TunnelBroker.Proofs.Text.Utf8

/-!
The check of settings. Main statement: what passes it are the settings whose paths are plain
text without a part that leads up, whose region is a short word of small letters and digits,
and whose timeouts are within an hour once they are cut to 64 bits of milliseconds.
-/

set_option autoImplicit false

namespace TunnelBroker

/-! ### Paths -/

/-- What a path in settings has to be. -/
structure Path.IsPlain (path : Path) : Prop where
  text : ∃ text, path = ofText text
  noNul : 0 ∉ path.bytes
  staysBelow : dotDot ∉ path.names

namespace Settings

theorem pathFault?_eq_none_iff {path : Path} : pathFault? path = none ↔ path.IsPlain := by
  have plain : path.IsPlain ↔
      (∃ text, path = .ofText text) ∧ 0 ∉ path.bytes ∧ Path.dotDot ∉ path.names :=
    ⟨fun ⟨text, noNul, staysBelow⟩ => ⟨text, noNul, staysBelow⟩,
      fun ⟨text, noNul, staysBelow⟩ => ⟨text, noNul, staysBelow⟩⟩
  have faultless : path.fault?.map Fault.badPath = none ↔ path.fault? = none :=
    Option.map_eq_none_iff
  rw [plain, Path.dotDot_mem_names_iff, ← Path.fault?_eq_none_iff, ← faultless, pathFault?]
  cases decoded : Text.decode? path.bytes with
  | none =>
    constructor
    · rintro ⟨⟩
    · rintro ⟨⟨text, rfl⟩, -⟩
      have read : Text.decode? (Path.ofText text).bytes = some text := Text.decode?_encode text
      rw [read] at decoded
      cases decoded
  | some text =>
    have same : path = .ofText text :=
      congrArg Path.mk (Text.decode?_eq_some_iff.1 decoded).symm
    exact (and_iff_right ⟨text, same⟩).symm

/-! ### Regions -/

/-- What a region has to be: one to eight small letters and digits. -/
structure IsRegion (region : String) : Prop where
  nonempty : 1 ≤ region.length
  short : region.length ≤ 8
  alphabet : ∀ c ∈ region.toList, 'a' ≤ c ∧ c ≤ 'z' ∨ '0' ≤ c ∧ c ≤ '9'

theorem isLowerOrDigit_iff {c : Char} :
    Slug.isLowerOrDigit c = true ↔ 'a' ≤ c ∧ c ≤ 'z' ∨ '0' ≤ c ∧ c ≤ '9' := by
  simp [Slug.isLowerOrDigit]

theorem ascii_of_isLowerOrDigit {c : Char} (allowed : Slug.isLowerOrDigit c = true) :
    c.toNat < 128 := by
  simp only [isLowerOrDigit_iff, Char.le_def, UInt32.le_iff_toNat_le] at allowed
  have upper : 'z'.val.toNat = 122 ∧ '9'.val.toNat = 57 := by decide
  have value : c.toNat = c.val.toNat := rfl
  omega

-- The length is checked in bytes, which are as many as the characters of a region.
theorem regionFault?_eq_none_iff {region : String} :
    regionFault? region = none ↔ IsRegion region := by
  have alphabet : region.toList.all Slug.isLowerOrDigit = true ↔
      ∀ c ∈ region.toList, 'a' ≤ c ∧ c ≤ 'z' ∨ '0' ≤ c ∧ c ≤ '9' := by
    simp only [List.all_eq_true, isLowerOrDigit_iff]
  have nonempty : region.isEmpty = false ↔ 1 ≤ region.length := by
    rw [Bool.eq_false_iff, ne_eq, String.isEmpty_iff, ← String.length_eq_zero_iff]
    omega
  have bytes (allowed : region.toList.all Slug.isLowerOrDigit = true) :
      region.utf8ByteSize = region.length :=
    Text.utf8ByteSize_of_ascii fun c found =>
      ascii_of_isLowerOrDigit (List.all_eq_true.1 allowed c found)
  rw [regionFault?]
  constructor
  · intro faultless
    split at faultless
    case isTrue => cases faultless
    case isFalse length =>
      split at faultless
      case isTrue allowed =>
        simp only [Bool.or_eq_true, decide_eq_true_eq, not_or, Bool.not_eq_true] at length
        rw [bytes allowed] at length
        exact ⟨nonempty.1 length.1, Nat.not_lt.1 length.2, alphabet.1 allowed⟩
      case isFalse => cases faultless
  · rintro ⟨filled, short, allowed⟩
    rw [← alphabet] at allowed
    have fits : ¬ (region.isEmpty || decide (8 < region.utf8ByteSize)) = true := by
      rw [nonempty.2 filled, bytes allowed, Bool.false_or, decide_eq_true_eq]
      omega
    rw [if_neg fits, if_pos allowed]

/-! ### Timeouts -/

/-- The number of milliseconds that a timeout is checked by: those that 64 bits keep. -/
def keptMilliseconds (timeout : Duration) : Nat :=
  timeout.milliseconds % 18446744073709551616

theorem timeoutFault?_eq_none_iff {name : String} {timeout : Duration} :
    timeoutFault? name timeout = none ↔
      1 ≤ keptMilliseconds timeout ∧ keptMilliseconds timeout ≤ 3600000 := by
  have kept : (UInt64.ofNat timeout.milliseconds).toNat = keptMilliseconds timeout :=
    UInt64.toNat_ofNat'
  have none : (0 : UInt64).toNat = 0 := rfl
  have hour : longestTimeout.toNat = 3600000 := rfl
  simp only [timeoutFault?, ← UInt64.toNat_inj, UInt64.lt_iff_toNat_lt, kept, none, hour]
  split
  case isTrue zero => simp [zero]
  case isFalse positive =>
    split
    case isTrue long => simp [Nat.not_le.2 long]
    case isFalse short => exact iff_of_true rfl ⟨Nat.pos_of_ne_zero positive, Nat.not_lt.1 short⟩

/-! ### The whole check -/

def timeouts (settings : Settings) : List Duration :=
  settings.spawnTimeout :: settings.dialTimeout.toList

/-- What settings have to be, where `fits` says which timeouts will do. -/
structure IsSound (settings : Settings) (fits : Duration → Prop) : Prop where
  socket : settings.socket.IsPlain
  stateDirectory : settings.stateDirectory.IsPlain
  region : IsRegion settings.region
  timeouts : ∀ timeout ∈ settings.timeouts, fits timeout

/-- A timeout of at least one millisecond and of no more than an hour of them. -/
def IsWithinHour (timeout : Duration) : Prop :=
  1 ≤ timeout.milliseconds ∧ timeout.milliseconds ≤ 3600000

def LooksWithinHour (timeout : Duration) : Prop :=
  1 ≤ keptMilliseconds timeout ∧ keptMilliseconds timeout ≤ 3600000

instance (timeout : Duration) : Decidable (LooksWithinHour timeout) :=
  inferInstanceAs (Decidable (_ ∧ _))

theorem fault?_eq_none_iff {settings : Settings} :
    settings.fault? = none ↔ settings.IsSound LooksWithinHour := by
  have dial : settings.dialTimeout.bind (timeoutFault? "default_dial_timeout_ms") = none ↔
      ∀ timeout ∈ settings.dialTimeout.toList, LooksWithinHour timeout := by
    cases settings.dialTimeout with
    | none => simp
    | some timeout => simp [timeoutFault?_eq_none_iff, LooksWithinHour]
  simp only [fault?, Option.or_eq_none_iff, pathFault?_eq_none_iff, regionFault?_eq_none_iff,
    timeoutFault?_eq_none_iff, dial]
  constructor
  · rintro ⟨socket, stateDirectory, region, spawn, dials⟩
    exact ⟨socket, stateDirectory, region, List.forall_mem_cons.2 ⟨spawn, dials⟩⟩
  · rintro ⟨socket, stateDirectory, region, timeouts⟩
    exact ⟨socket, stateDirectory, region, List.forall_mem_cons.1 timeouts⟩

theorem isWithinHour_iff {timeout : Duration} :
    IsWithinHour timeout ↔
      LooksWithinHour timeout ∧ timeout.milliseconds < 18446744073709551616 := by
  unfold IsWithinHour LooksWithinHour keptMilliseconds
  omega

theorem validate_eq_ok_iff {settings : Settings} :
    settings.validate = .ok () ↔ settings.fault? = none := by
  rw [validate]
  cases settings.fault? <;> simp

/--
Settings pass their check exactly if they are sound as far as the check sees their timeouts;
those that are sound indeed are the ones that pass with timeouts that fit in 64 bits of
milliseconds. A longer one is cut, and passes if what is left of it is within an hour.
-/
theorem validate_up_to_cut (settings : Settings) :
    (settings.validate = .ok () ↔ settings.IsSound LooksWithinHour) ∧
      (settings.IsSound IsWithinHour ↔ settings.validate = .ok () ∧
        ∀ timeout ∈ settings.timeouts, timeout.milliseconds < 18446744073709551616) := by
  have passes : settings.validate = .ok () ↔ settings.IsSound LooksWithinHour :=
    validate_eq_ok_iff.trans fault?_eq_none_iff
  refine ⟨passes, ?_⟩
  rw [passes]
  constructor
  · rintro ⟨socket, stateDirectory, region, timeouts⟩
    exact ⟨⟨socket, stateDirectory, region, fun timeout found =>
      (isWithinHour_iff.1 (timeouts timeout found)).1⟩, fun timeout found =>
      (isWithinHour_iff.1 (timeouts timeout found)).2⟩
  · rintro ⟨⟨socket, stateDirectory, region, timeouts⟩, fit⟩
    exact ⟨socket, stateDirectory, region, fun timeout found =>
      isWithinHour_iff.2 ⟨timeouts timeout found, fit timeout found⟩⟩

/-- Settings with a timeout of 584 million years, of which one second is left. -/
def endless : Settings where
  socket := .ofText "/run/broker/agent.sock"
  stateDirectory := .ofText "/var/lib/broker"
  region := "iad"
  spawnTimeout := ⟨18446744073709552616 * 1000000, by decide⟩
  dialTimeout := none

theorem endless_passes :
    endless.validate = .ok () ∧ ¬ endless.IsSound IsWithinHour := by
  have letters : endless.region.toList.all Slug.isLowerOrDigit = true := by decide
  constructor
  · exact (validate_up_to_cut endless).1.2 {
      socket := ⟨⟨_, rfl⟩, by decide, by decide⟩
      stateDirectory := ⟨⟨_, rfl⟩, by decide, by decide⟩
      region := ⟨by decide, by decide, fun c member =>
        isLowerOrDigit_iff.1 (List.all_eq_true.1 letters c member)⟩
      timeouts := by decide }
  · intro sound
    have fits := ((validate_up_to_cut endless).2.1 sound).2 endless.spawnTimeout
      List.mem_cons_self
    exact absurd fits (by decide)

end Settings

end TunnelBroker
