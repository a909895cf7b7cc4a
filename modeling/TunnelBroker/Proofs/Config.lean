import TunnelBroker.Directory.Configured
import TunnelBroker.Proofs.Key
import TunnelBroker.Proofs.Table

/-!
Configurations that pass their check. The addresses and the endpoint of an organization are
then what they have to be when a peer is registered. Main statement: a registration comes to
what reading the gateway's key comes to, and that goes well exactly if the text is the base64
of a key.
-/

set_option autoImplicit false

namespace TunnelBroker

namespace Membership

/-- The text that is given for the gateway's key is that of a key. -/
def HasKey (membership : Membership) : Prop :=
  ∃ key : PublicKey, key.toBase64 = membership.gatewayKey

theorem fault?_of_validate {membership : Membership} (valid : membership.validate = .ok ()) :
    membership.fault? = none := by
  unfold validate at valid
  split at valid
  · cases valid
  · assumption

theorem faults_eq_none {membership : Membership} (faultless : membership.fault? = none) :
    endpointFault? membership.endpoint = none ∧ keyFault? membership.gatewayKey = none ∧
      addressFault? membership.address = none ∧ membership.dns.bind addressFault? = none := by
  unfold fault? at faultless
  split at faultless
  · cases faultless
  · simpa only [Option.or_eq_none_iff] using faultless

theorem nonempty_of_endpointFault? {endpoint : String}
    (faultless : endpointFault? endpoint = none) : endpoint.isEmpty = false := by
  cases empty : endpoint.isEmpty with
  | false => rfl
  | true =>
    rw [String.isEmpty_iff.1 empty] at faultless
    exact nomatch faultless

theorem isAlphanum_iff {c : Char} :
    c.isAlphanum = true ↔ ((65 ≤ c.toNat ∧ c.toNat ≤ 90) ∨ (97 ≤ c.toNat ∧ c.toNat ≤ 122)) ∨
      (48 ≤ c.toNat ∧ c.toNat ≤ 57) := by
  have spelled : c.isAlphanum = (decide (65 ≤ c.toNat ∧ c.toNat ≤ 90) ||
      (decide (97 ≤ c.toNat) && decide (c.toNat ≤ 122)) ||
      (decide (48 ≤ c.toNat) && decide (c.toNat ≤ 57))) := rfl
  rw [spelled]
  simp only [Bool.or_eq_true, Bool.and_eq_true, decide_eq_true_eq]

theorem isBlank_of_isKeyChar {c : Char} (allowed : isKeyChar c = true) :
    Text.isBlank c = false := by
  have range : 43 ≤ c.toNat ∧ c.toNat ≤ 122 := by
    simp only [isKeyChar, Bool.or_eq_true, beq_iff_eq, isAlphanum_iff] at allowed
    rcases allowed with ((letterOrDigit | rfl) | rfl) | rfl
    · omega
    · decide
    · decide
    · decide
  simp [Text.isBlank]
  omega

theorem solid_of_keyFault? {key : String} (faultless : keyFault? key = none) :
    Text.IsSolid key := by
  unfold keyFault? at faultless
  split at faultless
  · cases faultless
  · split at faultless
    · cases faultless
    · split at faultless
      · next allowed =>
        exact fun c found => isBlank_of_isKeyChar (List.all_eq_true.1 allowed c found)
      · cases faultless

theorem exists_of_addressFault? {text : String} (faultless : addressFault? text = none) :
    ∃ ip, IpAddress.parse? text = some ip := by
  unfold addressFault? at faultless
  split at faultless
  · next readable => exact Option.isSome_iff_exists.1 readable
  · cases faultless

-- The key is read exactly if its text is that of a key.
theorem hasKey_iff {membership : Membership} (faultless : membership.fault? = none) :
    membership.HasKey ↔ ∃ key, PublicKey.ofBase64 membership.gatewayKey = .ok key := by
  constructor
  · rintro ⟨key, same⟩
    exact ⟨key, same ▸ key.ofBase64_toBase64⟩
  · rintro ⟨key, read⟩
    have solid := solid_of_keyFault? (faults_eq_none faultless).2.1
    exact ⟨key, PublicKey.toBase64_of_ofBase64 solid read⟩

end Membership

namespace Config

variable {config : Config} {slug : String} {membership : Membership}

theorem faultless_of_validate (valid : config.validate = .ok ())
    (member : config.memberships.get? slug = some membership) : membership.fault? = none := by
  obtain ⟨_, -, listed⟩ := bind_eq_ok valid
  split at listed
  · cases listed
  · next none =>
    have passed := List.findSome?_eq_none_iff.1 none _ (Table.mem_of_get? member)
    unfold membershipFailure? at passed
    split at passed
    · cases passed
    · next checked =>
      obtain ⟨_, -, valid⟩ := bind_eq_ok checked
      exact Membership.fault?_of_validate valid

-- The directory lists an organization under each slug of the configuration, and no others.
theorem find_organizations (config : Config) (slug : String) :
    config.organizations.find? (·.slug = slug) =
      (config.memberships.get? slug).map fun membership =>
        ⟨membership.id, slug, membership.name.getD slug⟩ := by
  rw [organizations, List.find?_map, Table.get?, Entries.find?_eq, Option.map_map]
  change Option.map _ (config.memberships.entries.find? (·.1 = slug)) = _
  cases found : config.memberships.entries.find? (·.1 = slug) with
  | none => rfl
  | some entry =>
    obtain ⟨name, membership⟩ := entry
    have same : name = slug := by simpa using List.find?_some found
    rw [same]
    rfl

theorem readAddress_of_parse? {text : String} {ip : IpAddress}
    (readable : IpAddress.parse? text = some ip) (field slug : String) :
    readAddress field slug text = .ok ip := by
  rw [readAddress, readable]

theorem exists_dns (faultless : membership.dns.bind Membership.addressFault? = none)
    (slug : String) : ∃ dns, membership.dns.mapM (readAddress "dns" slug) = .ok dns := by
  cases given : membership.dns with
  | none => exact ⟨none, rfl⟩
  | some text =>
    rw [given] at faultless
    obtain ⟨ip, readable⟩ := Membership.exists_of_addressFault? faultless
    refine ⟨some ip, ?_⟩
    show (readAddress "dns" slug text).map some = _
    rw [readAddress_of_parse? readable]
    rfl

/-- Of what the check has passed only the gateway's key can be refused later. -/
theorem register_of_faultless (member : config.memberships.get? slug = some membership)
    (faultless : membership.fault? = none) :
    ∃ address dns, IpAddress.parse? membership.address = some address ∧
      config.register slug = (PublicKey.ofBase64 membership.gatewayKey).map fun key =>
        ⟨address, membership.endpoint, key, dns⟩ := by
  obtain ⟨-, -, addressed, named⟩ := Membership.faults_eq_none faultless
  obtain ⟨address, readable⟩ := Membership.exists_of_addressFault? addressed
  obtain ⟨dns, resolved⟩ := exists_dns named slug
  refine ⟨address, dns, readable, ?_⟩
  simp only [register, member, readAddress_of_parse? readable, resolved]
  cases PublicKey.ofBase64 membership.gatewayKey <;> rfl

end Config

end TunnelBroker
