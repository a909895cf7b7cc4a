import TunnelBroker.Proofs.Config
import TunnelBroker.Proofs.Registry.OneTunnel

/-!
Daemons that have only their configuration: it is their directory, peers are kept in memory,
and tunnels are opened on the host's own network. Main statement: in whatever state such a
daemon is, a tunnel can be established for an organization of a checked configuration exactly
if the text given for the gateway's key is that of a key.
-/

set_option autoImplicit false

namespace TunnelBroker

namespace Config

/-- What a daemon that has only its configuration may answer a call. Keys, names and the numbers
of sessions are whatever they are. -/
def Gives (config : Config) : (call : Daemon.Call) → call.Answer → Prop
  | .organizations, answer => answer = .ok config.organizations
  | .register organization _ _ _, answer => answer = config.register organization.slug
  | .savePeers _, answer => answer = .ok ()
  | .openTunnel tunnel, answer => answer.map (fun _ => ()) = tunnel.validate
  | _, _ => True

/-- The tunnels and the peers in a registry are where the configuration puts them. -/
structure Fits (config : Config) (registry : Registry) : Prop where
  tunnels : ∀ slug tunnel, registry.tunnels.get? slug = some tunnel →
    ∃ registration, config.register slug = .ok registration ∧
      tunnel.address = registration.address
  peers : ∀ slug peer, registry.peers.get? slug = some peer →
    ∃ registration, config.register slug = .ok registration ∧
      peer.address = registration.address ∧ peer.endpoint = registration.endpoint

inductive Settles (config : Config) (slug : String) (registry : Registry) :
    Except Failure Tunnel × Registry → Prop where
  | usable {registration : Registration} {tunnel : Tunnel} {after : Registry}
    (registered : config.register slug = .ok registration)
    (placed : tunnel.address = registration.address) (fits : config.Fits after) :
    Settles config slug registry (.ok tunnel, after)
  | refused {failure : Failure} (listed : config.memberships.get? slug ≠ none)
    (refused : config.register slug = .error failure) :
    Settles config slug registry (.error (Peers.registerFailure slug failure), registry)
  | unknown (unlisted : config.memberships.get? slug = none) :
    Settles config slug registry (.error (.organizationNotFound slug), registry)

variable {config : Config} {registry : Registry} {slug : String}

theorem Fits.initial (config : Config) : config.Fits (.initial ∅) :=
  ⟨fun _ _ found => (nomatch found), fun _ _ found => (nomatch found)⟩

theorem Fits.keep {registration : Registration} {peer : Peer} (fits : config.Fits registry)
    (registered : config.register slug = .ok registration)
    (placed : peer.address = registration.address) (reached : peer.endpoint = registration.endpoint) :
    config.Fits { registry with peers := registry.peers.insert slug peer } := by
  refine ⟨fits.tunnels, fun other found isThere => ?_⟩
  rw [Table.get?_insert] at isThere
  split at isThere
  · next same =>
    cases isThere
    exact same ▸ ⟨registration, registered, placed, reached⟩
  · exact fits.peers other found isThere

theorem Fits.enter {registration : Registration} {tunnel : Tunnel} (fits : config.Fits registry)
    (registered : config.register slug = .ok registration)
    (placed : tunnel.address = registration.address) :
    config.Fits { registry with tunnels := registry.tunnels.insert slug tunnel } := by
  refine ⟨fun other found isThere => ?_, fits.peers⟩
  rw [Table.get?_insert] at isThere
  split at isThere
  · next same =>
    cases isThere
    exact same ▸ ⟨registration, registered, placed⟩
  · exact fits.tunnels other found isThere

theorem Settles.fits {outcome : Except Failure Tunnel × Registry}
    (settles : config.Settles slug registry outcome) (fits : config.Fits registry) :
    config.Fits outcome.2 := by
  cases settles with
  | usable registered placed later => exact later
  | refused listed refused => exact fits
  | unknown unlisted => exact fits

theorem endpoint_of_register (valid : config.validate = .ok ()) {registration : Registration}
    (registered : config.register slug = .ok registration) :
    registration.endpoint.isEmpty = false := by
  cases member : config.memberships.get? slug with
  | none =>
    simp only [register, member] at registered
    cases registered
  | some membership =>
    have faultless := faultless_of_validate valid member
    obtain ⟨address, dns, -, same⟩ := register_of_faultless member faultless
    obtain ⟨key, -, rfl⟩ := map_eq_ok (same.symm.trans registered)
    exact Membership.nonempty_of_endpointFault? (Membership.faults_eq_none faultless).1

theorem validate_tunnelConfig {peer : Peer} (reachable : peer.endpoint.isEmpty = false) :
    peer.tunnelConfig.validate = .ok () := by
  have faultless : peer.tunnelConfig.fault? = none := by
    rw [TunnelConfig.fault?, show peer.tunnelConfig.endpoint = peer.endpoint from rfl, reachable]
    rfl
  rw [TunnelConfig.validate, faultless]

-- The tunnel of a peer that fits can be opened.
theorem connect_settles (valid : config.validate = .ok ()) {peers : Peers} {peer : Peer}
    {registration : Registration} (registered : config.register slug = .ok registration)
    (placed : peer.address = registration.address) (reached : peer.endpoint = registration.endpoint)
    (fits : config.Fits { registry with peers := peers }) (organization : Organization) :
    (registry.connect slug organization (.ok peer, peers)).Yields config.Gives
      (config.Settles slug registry) := by
  intro answer given
  have reachable : peer.endpoint.isEmpty = false :=
    reached ▸ endpoint_of_register valid registered
  obtain ⟨session, rfl, -⟩ := map_eq_ok (Eq.trans given (validate_tunnelConfig reachable))
  exact .usable registered placed (fits.enter registered placed)

theorem chooseName_yields (name : String) :
    (Peers.chooseName name).Yields config.Gives fun _ => True := by
  unfold Peers.chooseName
  split
  · exact fun _ _ => trivial
  · trivial

theorem enter_settles (valid : config.validate = .ok ()) (fits : config.Fits registry)
    (listed : config.memberships.get? slug ≠ none) {organization : Organization}
    (same : organization.slug = slug) (region : String) :
    (registry.enter region slug (.ok organization)).Yields config.Gives
      (config.Settles slug registry) := by
  show ((registry.peers.acquire organization "" "" region).bind _).Yields _ _
  subst same
  cases known : registry.peers.get? organization.slug with
  | some peer =>
    obtain ⟨registration, registered, placed, reached⟩ := fits.peers _ peer known
    rw [Peers.acquire_of_some known]
    exact connect_settles valid registered placed reached fits organization
  | none =>
    rw [Peers.acquire_of_none known, Interaction.bind_assoc]
    refine (chooseName_yields "").bind fun name _ key _ answer given => ?_
    have answered : answer = config.register organization.slug := given
    cases registered : config.register organization.slug with
    | error failure =>
      rw [answered, registered]
      exact .refused listed registered
    | ok registration =>
      rw [answered, registered]
      intro saved written
      cases written
      exact connect_settles valid registered rfl rfl (fits.keep registered rfl rfl) organization

/-- What establishing a tunnel comes to where everything fits. -/
theorem establish_settles (valid : config.validate = .ok ()) (fits : config.Fits registry)
    (region slug : String) :
    (registry.establish region slug).Yields config.Gives (config.Settles slug registry) := by
  cases known : registry.tunnels.get? slug with
  | some tunnel =>
    rw [Registry.establish_of_some known]
    obtain ⟨registration, registered, placed⟩ := fits.tunnels slug tunnel known
    exact .usable registered placed fits
  | none =>
    rw [Registry.establish_of_none known]
    rintro _ rfl
    have listed := config.find_organizations slug
    cases member : config.memberships.get? slug with
    | none =>
      rw [member] at listed
      simp only [Organization.find, listed]
      exact .unknown member
    | some membership =>
      rw [member] at listed
      have some : config.memberships.get? slug ≠ none := by simp [member]
      simp only [Organization.find, listed]
      exact enter_settles valid fits some rfl region

/-! ### Any number of requests -/

variable {ι : Type} {region : String} {requests : ι → Request}
  {answers : ι → Nat → Daemon.Answers}

theorem gives_react (configured : ∀ i n call, config.Gives call (answers i n call)) (i : ι)
    (call : Daemon.Call) (state : Floor ι × Nat) :
    config.Gives call (Floor.react answers i call state).1 := by
  cases call <;> first | trivial | exact configured i state.2 _

theorem serve_settles (valid : config.validate = .ok ())
    (configured : ∀ i n call, config.Gives call (answers i n call)) {floor : Floor ι}
    (fits : config.Fits floor.registry) {i : ι} (asked : requests i = .establish slug) :
    let outcome := floor.serve region requests answers i
    config.Settles slug floor.registry (outcome.1, outcome.2.registry) := by
  have settles := (establish_settles valid fits region slug).run (gives_react configured i) (floor, 1)
  have served : floor.serve region requests answers i = _ :=
    Floor.serve_of_work (by rw [asked])
  rw [served]
  exact settles

theorem fits_serve (valid : config.validate = .ok ())
    (configured : ∀ i n call, config.Gives call (answers i n call)) {floor : Floor ι}
    (fits : config.Fits floor.registry) (i : ι) :
    config.Fits (floor.serve region requests answers i).2.registry := by
  cases asked : requests i with
  | establish slug => exact (serve_settles valid configured fits asked).fits fits
  | tunnelFor slug =>
    have served : floor.serve region requests answers i = _ :=
      Floor.serve_of_work (by rw [asked])
    rw [served]
    exact fits

theorem fits_serveAll (valid : config.validate = .ok ())
    (configured : ∀ i n call, config.Gives call (answers i n call)) {floor : Floor ι}
    (fits : config.Fits floor.registry) (turns : List ι) :
    config.Fits (floor.serveAll region requests answers turns).2.registry := by
  induction turns using List.reverseRecOn with
  | nil => exact fits
  | append_singleton turns i ih =>
    rw [Floor.serveAll_concat]
    exact fits_serve valid configured ih i

theorem fits_run [DecidableEq ι] (valid : config.validate = .ok ())
    (configured : ∀ i n call, config.Gives call (answers i n call)) (schedule : List ι) :
    config.Fits
      ((Contention.initial region requests ∅).run answers schedule).floor.registry := by
  have ordered := (Contention.Ordered.initial region requests answers ∅).run schedule
  rw [ordered.registry_eq]
  exact fits_serveAll valid configured (Fits.initial config) _

theorem ofBase64_of_not_hasKey {membership : Membership} (faultless : membership.fault? = none)
    (keyless : ¬ membership.HasKey) : ∃ fault : Key.Fault,
      PublicKey.ofBase64 membership.gatewayKey = .error (.config (fault.message "public")) := by
  cases read : PublicKey.ofBase64 membership.gatewayKey with
  | ok key => exact absurd ((Membership.hasKey_iff faultless).2 ⟨key, read⟩) keyless
  | error failure =>
    unfold PublicKey.ofBase64 at read
    split at read
    · cases read
    · next fault _ => exact ⟨fault, (Except.error.inj read) ▸ rfl⟩

/--
Establishing a tunnel with a checked configuration, after any number of competing requests. If
the text given for the gateway's key is that of a key, there is a tunnel, and this machine has
the configured address in it. If not, the check has passed a configuration with which the
tunnel can never be established: the peer's registration is refused for its key.
-/
theorem establish_exactly_with_key [DecidableEq ι] (valid : config.validate = .ok ())
    {membership : Membership} (member : config.memberships.get? slug = some membership)
    (region : String) (requests : ι → Request)
    (configured : ∀ i n call, config.Gives call (answers i n call)) (schedule : List ι) (i : ι)
    (asked : requests i = .establish slug) :
    let floor := ((Contention.initial region requests ∅).run answers schedule).floor
    let outcome := floor.serve region requests answers i
    (membership.HasKey → ∃ tunnel, outcome.1 = .ok tunnel ∧
      IpAddress.parse? membership.address = some tunnel.address) ∧
    (¬ membership.HasKey → outcome.2.registry = floor.registry ∧ ∃ fault : Key.Fault,
      outcome.1 =
        .error (Peers.registerFailure slug (.config (fault.message "public")))) := by
  intro floor outcome
  have faultless := faultless_of_validate valid member
  obtain ⟨address, dns, readable, register⟩ := register_of_faultless member faultless
  have settles : config.Settles slug floor.registry (outcome.1, outcome.2.registry) :=
    serve_settles valid configured (fits_run valid configured schedule) asked
  constructor
  · intro keyed
    obtain ⟨key, read⟩ := (Membership.hasKey_iff faultless).1 keyed
    rw [read] at register
    generalize outcome.1 = result, outcome.2.registry = after at settles
    cases settles with
    | usable registered placed fits =>
      cases register.symm.trans registered
      exact ⟨_, rfl, placed ▸ readable⟩
    | refused listed refused => cases register.symm.trans refused
    | unknown unlisted => cases unlisted.symm.trans member
  · intro keyless
    obtain ⟨fault, unread⟩ := ofBase64_of_not_hasKey faultless keyless
    rw [unread] at register
    generalize outcome.1 = result, outcome.2.registry = after at settles
    cases settles with
    | usable registered placed fits => cases register.symm.trans registered
    | refused listed refused =>
      cases register.symm.trans refused
      exact ⟨rfl, fault, rfl⟩
    | unknown unlisted => cases unlisted.symm.trans member

/-! ### Keys that are none -/

/-- The answers that the configuration itself gives. -/
def respond (config : Config) : Daemon.Answers
  | .organizations => .ok config.organizations
  | .register organization _ _ _ => config.register organization.slug
  | .savePeers _ => .ok ()
  | .openTunnel tunnel => tunnel.validate.map fun _ => 0
  | call => Daemon.obliging call

theorem gives_respond (config : Config) (call : Daemon.Call) :
    config.Gives call (config.respond call) := by
  cases call with
  | openTunnel tunnel =>
    show (tunnel.validate.map _).map _ = tunnel.validate
    cases tunnel.validate <;> rfl
  | organizations => rfl
  | register organization region name key => rfl
  | savePeers peers => rfl
  | _ => trivial

def plainSettings : Settings where
  socket := .ofText "/run/agent.sock"
  stateDirectory := .ofText "/var/lib/agent"
  region := "iad"
  spawnTimeout := .ofMilliseconds 5000
  dialTimeout := none

def acmeWith (key : String) : Membership :=
  ⟨"1", none, "gw.example.com:51820", key, "10.0.0.2", none⟩

def configWith (key : String) : Config :=
  ⟨plainSettings, .ofList [("acme", acmeWith key)], none⟩

theorem validate_plainSettings : plainSettings.validate = .ok () := by
  have path (text : String) :
      Settings.pathFault? (.ofText text) = (Path.ofText text).fault?.map .badPath := by
    rw [Settings.pathFault?, show (Path.ofText text).bytes = Text.encode text from rfl,
      Text.decode?_encode]
  have faultless : plainSettings.fault? = none := by
    rw [Settings.fault?, plainSettings, path, path]
    decide +kernel
  rw [Settings.validate, faultless]

theorem validate_configWith {key : String} (allowed : Membership.keyFault? key = none) :
    (configWith key).validate = .ok () := by
  have endpoint : Membership.endpointFault? "gw.example.com:51820" = none := by decide +kernel
  have address : Membership.addressFault? "10.0.0.2" = none := by decide +kernel
  have slug : Slug.check "acme" = .ok () := by decide +kernel
  have membership : (acmeWith key).validate = .ok () := by
    simp [Membership.validate, Membership.fault?, acmeWith, endpoint, address, allowed]
  have named : membershipFailure? "acme" (acmeWith key) = none := by
    rw [membershipFailure?, slug, membership]
    rfl
  have listed : (configWith key).memberships.entries = [("acme", acmeWith key)] := rfl
  rw [validate, listed, List.findSome?_cons, named]
  show plainSettings.validate.bind _ = _
  rw [validate_plainSettings]
  rfl

def establishWith (key : String) : Except Failure Tunnel :=
  let floor := ((Contention.initial "iad" (fun _ : Bool => .establish "acme") ∅).run
    (fun _ _ => (configWith key).respond) [true, false, true, true, false, true]).floor
  (floor.serve "iad" (fun _ => .establish "acme") (fun _ _ => (configWith key).respond) true).1

-- A key of 31 bytes, and one with bits behind the last byte, pass the check.
theorem unreadable_keys_pass :
    ((configWith "abcdefghijklmnopqrstuvwxyzABCDEFGHIJKLMNOPQ=").validate = .ok () ∧
      ∃ tunnel, establishWith "abcdefghijklmnopqrstuvwxyzABCDEFGHIJKLMNOPQ=" = .ok tunnel ∧
        IpAddress.parse? "10.0.0.2" = some tunnel.address) ∧
    ∀ key ∈ ["abcdefghijklmnopqrstuvwxyzABCDEFGHIJKLMNOQ==",
        "abcdefghijklmnopqrstuvwxyzABCDEFGHIJKLMNOPR="],
      (configWith key).validate = .ok () ∧ ∃ fault : Key.Fault, establishWith key =
        .error (Peers.registerFailure "acme" (.config (fault.message "public"))) := by
  have exactly (key : String) (allowed : Membership.keyFault? key = none) :=
    establish_exactly_with_key (validate_configWith allowed)
      (show (configWith key).memberships.get? "acme" = some (acmeWith key) from rfl) "iad"
      (fun _ : Bool => .establish "acme") (fun _ _ => gives_respond _)
      [true, false, true, true, false, true] true rfl
  constructor
  · have allowed : Membership.keyFault? "abcdefghijklmnopqrstuvwxyzABCDEFGHIJKLMNOPQ=" = none := by
      decide +kernel
    have keyed : (acmeWith "abcdefghijklmnopqrstuvwxyzABCDEFGHIJKLMNOPQ=").HasKey := by
      refine ⟨⟨[105, 183, 29, 121, 248, 33, 138, 57, 37, 154, 122, 41, 170, 187, 45, 186, 252, 49,
        203, 48, 1, 8, 49, 5, 24, 114, 9, 40, 179, 13, 56, 244], rfl⟩, ?_⟩
      decide +kernel
    exact ⟨validate_configWith allowed, (exactly _ allowed).1 keyed⟩
  · intro key listed
    have allowed : Membership.keyFault? key = none := by
      revert key
      decide +kernel
    have unread : (PublicKey.ofBase64 key).toBool = false := by
      revert key
      decide +kernel
    have keyless : ¬ (acmeWith key).HasKey := by
      rintro ⟨found, same : found.toBase64 = key⟩
      have read : PublicKey.ofBase64 key = .ok found := same ▸ found.ofBase64_toBase64
      rw [read] at unread
      cases unread
    exact ⟨validate_configWith allowed, ((exactly key allowed).2 keyless).2⟩

end Config

end TunnelBroker
