import TunnelBroker.Proofs.Config
import TunnelBroker.Proofs.Text.Order

/-!
The directory that answers from the configuration. Main statement: in whichever order the
organizations of a configuration are gone through, the listing is the same, in ascending order
of the bytes of their slugs; it has each of them once, and what is found in it can be
registered.
-/

set_option autoImplicit false

namespace TunnelBroker

variable {config : Config} {slug : String} {membership : Membership} {failure : Failure}

/-! ### Registering -/

/-- A registration is what the configuration has for an organization. -/
structure Membership.Grants (membership : Membership) (registration : Registration) : Prop where
  address : IpAddress.parse? membership.address = some registration.address
  endpoint : registration.endpoint = membership.endpoint
  gatewayKey : PublicKey.ofBase64 membership.gatewayKey = .ok registration.gatewayKey
  dns : membership.dns.map IpAddress.parse? = registration.dns.map some

/-- A failure that is not about an organization that there is none of. -/
def Failure.KnowsOrganization : Failure → Prop
  | .organizationNotFound _ => False
  | _ => True

namespace Config

theorem readAddress_eq_ok_iff {field slug text : String} {ip : IpAddress} :
    readAddress field slug text = .ok ip ↔ IpAddress.parse? text = some ip := by
  unfold readAddress
  cases IpAddress.parse? text <;> simp

theorem knowsOrganization_of_readAddress {field text : String}
    (refused : readAddress field slug text = .error failure) : failure.KnowsOrganization := by
  unfold readAddress at refused
  cases parsed : IpAddress.parse? text with
  | some ip => rw [parsed] at refused; cases refused
  | none =>
    rw [parsed] at refused
    cases refused
    trivial

theorem knowsOrganization_of_ofBase64 {text : String}
    (refused : PublicKey.ofBase64 text = .error failure) : failure.KnowsOrganization := by
  unfold PublicKey.ofBase64 at refused
  cases read : Key.read text.toList with
  | ok key => rw [read] at refused; cases refused
  | error fault =>
    rw [read] at refused
    cases refused
    trivial

theorem readDns_eq_ok_iff {dns : Option String} {ips : Option IpAddress} :
    dns.mapM (readAddress "dns" slug) = .ok ips ↔ dns.map IpAddress.parse? = ips.map some := by
  cases dns with
  | none =>
    have nothing : (none : Option String).mapM (readAddress "dns" slug) = .ok none := rfl
    rw [nothing]
    cases ips <;> simp
  | some text =>
    have one : (some text).mapM (readAddress "dns" slug) =
        (readAddress "dns" slug text).map some := rfl
    rw [one]
    constructor
    · intro read
      obtain ⟨ip, only, rfl⟩ := map_eq_ok read
      exact congrArg some (readAddress_eq_ok_iff.1 only)
    · intro given
      obtain ⟨ip, rfl, parsed⟩ := Option.map_eq_some_iff.1 given.symm
      rw [readAddress_eq_ok_iff.2 parsed.symm]
      rfl

theorem knowsOrganization_of_readDns {dns : Option String}
    (refused : dns.mapM (readAddress "dns" slug) = .error failure) :
    failure.KnowsOrganization := by
  cases dns with
  | none => cases refused
  | some text => exact knowsOrganization_of_readAddress (map_eq_error refused)

theorem register_eq (member : config.memberships.get? slug = some membership) :
    config.register slug =
      (readAddress "peer_ip" slug membership.address).bind fun address =>
        (membership.dns.mapM (readAddress "dns" slug)).bind fun dns =>
          (PublicKey.ofBase64 membership.gatewayKey).map fun key =>
            ⟨address, membership.endpoint, key, dns⟩ := by
  simp only [register, member]
  rfl

theorem register_eq_ok_iff (member : config.memberships.get? slug = some membership)
    {registration : Registration} :
    config.register slug = .ok registration ↔ membership.Grants registration := by
  rw [register_eq member]
  constructor
  · intro granted
    obtain ⟨address, addressed, granted⟩ := bind_eq_ok granted
    obtain ⟨dns, named, granted⟩ := bind_eq_ok granted
    obtain ⟨key, read, rfl⟩ := map_eq_ok granted
    exact ⟨readAddress_eq_ok_iff.1 addressed, rfl, read, readDns_eq_ok_iff.1 named⟩
  · rintro ⟨address, endpoint, gatewayKey, dns⟩
    rw [readAddress_eq_ok_iff.2 address, readDns_eq_ok_iff.2 dns, gatewayKey, ← endpoint]
    rfl

theorem knowsOrganization_of_register (member : config.memberships.get? slug = some membership)
    (refused : config.register slug = .error failure) : failure.KnowsOrganization := by
  rw [register_eq member] at refused
  rcases bind_eq_error refused with addressed | ⟨_, -, refused⟩
  · exact knowsOrganization_of_readAddress addressed
  rcases bind_eq_error refused with named | ⟨_, -, refused⟩
  · exact knowsOrganization_of_readDns named
  · exact knowsOrganization_of_ofBase64 (map_eq_error refused)

/-! ### Listing -/

/-- The organization that is listed for an entry of the configuration. -/
def describe (slug : String) (membership : Membership) : Organization where
  id := membership.id
  slug := slug
  name := membership.name.getD slug

/-- Whether the slug of the first organization is at most that of the second, byte by byte. -/
def bySlug (first second : Organization) : Bool :=
  decide (Text.encode first.slug ≤ Text.encode second.slug)

/-- The listing that is made of the configured organizations when they are gone through in
the given order. -/
def listing (order : List (String × Membership)) : List Organization :=
  (order.map fun entry => describe entry.1 entry.2).mergeSort bySlug

theorem bySlug_iff {first second : Organization} :
    bySlug first second = true ↔ first.slug ≤ second.slug := by
  rw [bySlug, decide_eq_true_eq, Text.encode_le_iff]

theorem organizations_ascending (config : Config) :
    config.organizations.Pairwise fun first second => first.slug < second.slug :=
  List.pairwise_map.2 config.memberships.ascending

-- One organization is listed for each slug of the configuration, and no others.
theorem filter_organizations (config : Config) (slug : String) :
    config.organizations.filter (·.slug = slug) =
      ((config.memberships.get? slug).map (describe slug)).toList := by
  have entries := Entries.filter_eq config.memberships.ascending slug
  rw [organizations, List.filter_map]
  change (config.memberships.entries.filter (·.1 = slug)).map _ = _
  rw [entries, Table.get?]
  cases Entries.find? slug config.memberships.entries <;> rfl

theorem eq_of_slug_eq {first second : Organization} (member : first ∈ config.organizations)
    (other : second ∈ config.organizations) (same : first.slug = second.slug) :
    first = second := by
  have listed : ∀ organization ∈ config.organizations, organization.slug = second.slug →
      organization ∈ ((config.memberships.get? second.slug).map (describe second.slug)).toList := by
    intro organization found alike
    rw [← filter_organizations]
    exact List.mem_filter.2 ⟨found, decide_eq_true alike⟩
  have one := listed first member same
  have two := listed second other rfl
  rw [Option.mem_toList] at one two
  exact Option.some.inj (one.symm.trans two)

-- Both are in order and have the same organizations, none of them with the slug of another.
theorem listing_eq {order : List (String × Membership)}
    (same : order.Perm config.memberships.entries) : listing order = config.organizations := by
  have shuffled : (listing order).Perm config.organizations :=
    (List.mergeSort_perm _ _).trans (same.map _)
  have sorted : (listing order).Pairwise fun first second => bySlug first second = true := by
    refine List.pairwise_mergeSort ?_ ?_ _
    · intro first second third before behind
      rw [bySlug_iff] at *
      exact String.le_trans before behind
    · intro first second
      rw [Bool.or_eq_true, bySlug_iff, bySlug_iff]
      exact String.le_total ..
  have ascending : config.organizations.Pairwise fun first second =>
      bySlug first second = true :=
    config.organizations_ascending.imp fun less => bySlug_iff.2 (Std.le_of_lt less)
  refine List.Perm.eq_of_pairwise ?_ sorted ascending shuffled
  intro first second member other before behind
  rw [bySlug_iff] at before behind
  exact eq_of_slug_eq (shuffled.mem_iff.1 member) other (String.le_antisymm before behind)

/-- What a listing of the organizations of a configuration has to be. -/
structure IsListing (config : Config) (listed : List Organization) : Prop where
  ascending : listed.Pairwise fun first second =>
    Text.encode first.slug < Text.encode second.slug
  /-- What is listed under a slug is the organization that is configured for it, and no more. -/
  configured : ∀ slug, listed.filter (·.slug = slug) =
    ((config.memberships.get? slug).map (describe slug)).toList
  found : ∀ slug organization, Organization.find (.ok listed) slug = .ok organization ↔
    ∃ membership, config.memberships.get? slug = some membership ∧
      organization = describe slug membership
  /-- An organization that is found can be registered, as far as it is configured well. -/
  registered : ∀ slug organization, Organization.find (.ok listed) slug = .ok organization →
    ∃ membership, config.memberships.get? slug = some membership ∧
      (∀ failure, config.register organization.slug = .error failure →
        failure.KnowsOrganization) ∧
      ∀ registration, config.register organization.slug = .ok registration ↔
        membership.Grants registration

theorem find_eq_ok_iff {organization : Organization} :
    Organization.find (.ok config.organizations) slug = .ok organization ↔
      ∃ membership, config.memberships.get? slug = some membership ∧
        organization = describe slug membership := by
  rw [Organization.find, find_organizations]
  cases config.memberships.get? slug with
  | none => simp
  | some membership => simp [describe, eq_comm]

theorem organizations_isListing (config : Config) : config.IsListing config.organizations where
  ascending := config.organizations_ascending.imp Text.encode_lt_iff.2
  configured := config.filter_organizations
  found _ _ := find_eq_ok_iff
  registered := by
    intro slug organization found
    obtain ⟨membership, member, rfl⟩ := find_eq_ok_iff.1 found
    exact ⟨membership, member, fun _ refused => knowsOrganization_of_register member refused,
      fun _ => register_eq_ok_iff member⟩

/--
Whichever order the organizations of a configuration are gone through in, the listing is the
same: in ascending order of the bytes of the slugs, with one organization for each configured
slug, which is the one that is found for it, and whose registration is never refused for want
of the organization.
-/
theorem listing_in_any_order (config : Config) {order : List (String × Membership)}
    (same : order.Perm config.memberships.entries) :
    listing order = config.organizations ∧ config.IsListing (listing order) := by
  rw [listing_eq same]
  exact ⟨rfl, config.organizations_isListing⟩

/-- Two organizations, one of which has no name of its own. -/
def twoOrganizations : Config where
  settings := .default ⟨none, none⟩
  memberships := Table.ofList [
    ("personal", ⟨"org-2", none, "gw.example.com:51820",
      "abcdefghijklmnopqrstuvwxyzABCDEFGHIJKLMNOPQ=", "10.0.0.2", none⟩),
    ("acme", ⟨"org-1", some "Acme Corp", "gw.example.com:51820",
      "abcdefghijklmnopqrstuvwxyzABCDEFGHIJKLMNOPQ=", "fdaa:0:1:a7b::2", some "fdaa:0:1::3"⟩)]
  source := none

theorem listing_backwards :
    let order := twoOrganizations.memberships.entries.reverse
    order.Perm twoOrganizations.memberships.entries ∧
      order.map Prod.fst = ["personal", "acme"] ∧
      listing order = [⟨"org-1", "acme", "Acme Corp"⟩, ⟨"org-2", "personal", "personal"⟩] ∧
      twoOrganizations.IsListing (listing order) := by
  have same := List.reverse_perm twoOrganizations.memberships.entries
  have listed := listing_in_any_order twoOrganizations same
  exact ⟨same, by decide, listed.1.trans (by decide), listed.2⟩

end Config

end TunnelBroker
