import TunnelBroker.Proofs.Peer.Keeping
import TunnelBroker.Proofs.Peer.Loading
import TunnelBroker.Proofs.Peer.Restart
import TunnelBroker.Proofs.Registry.OneRegistration

/-!
Whom a peer belongs to. A peer that is registered is kept under the slug of its own organization,
and its public key is that of its private key, however that is computed. Main statement: so the
peers are in order if and only if those that were loaded are, and these can be any.
-/

set_option autoImplicit false

namespace TunnelBroker

/-- A peer of the organization with a slug, whose public key belongs to its private key. -/
structure Peer.Belongs (slug : String) (peer : Peer) : Prop where
  organization : peer.organization = slug
  keys : peer.keys.Matches

theorem Peer.belongs_ofRegistration (organization : Organization) (name region : String)
    (key : PrivateKey) (registration : Registration) :
    (ofRegistration organization name region (.ofPrivate key) registration).Belongs
      organization.slug :=
  ⟨rfl, rfl⟩

namespace Peers

/-- All peers are kept where they belong. -/
def InOrder (peers : Peers) : Prop :=
  ∀ slug peer, peers.get? slug = some peer → peer.Belongs slug

/-- A peer was there before, or there was none for its slug, and it belongs there. -/
def Joins (before : Peers) (slug : String) (peer : Peer) : Prop :=
  before.get? slug = some peer ∨ before.get? slug = none ∧ peer.Belongs slug

/-- Who was there stays, and who joins belongs where it is kept. -/
structure Grows (before after : Peers) : Prop where
  within : before.Within after
  joins : ∀ slug peer, after.get? slug = some peer → before.Joins slug peer

variable {before after later peers : Peers} {slug : String} {peer : Peer}

theorem Grows.refl (peers : Peers) : peers.Grows peers :=
  ⟨fun _ _ => id, fun _ _ => .inl⟩

theorem Grows.joins_of_none (grows : before.Grows after) (unknown : after.get? slug = none)
    (belongs : peer.Belongs slug) : before.Joins slug peer := by
  cases old : before.get? slug with
  | none => exact .inr ⟨old, belongs⟩
  | some other => cases unknown.symm.trans (grows.within slug other old)

theorem Grows.trans (first : before.Grows after) (second : after.Grows later) :
    before.Grows later := by
  refine ⟨first.within.trans second.within, fun slug peer found => ?_⟩
  rcases second.joins slug peer found with known | ⟨unknown, belongs⟩
  · exact first.joins slug peer known
  · exact first.joins_of_none unknown belongs

theorem grows_insert (unknown : peers.get? slug = none) (belongs : peer.Belongs slug) :
    peers.Grows (peers.insert slug peer) := by
  refine ⟨within_insert unknown peer, fun other found isThere => ?_⟩
  rw [Table.get?_insert] at isThere
  split at isThere
  · next same =>
    cases isThere
    exact same ▸ .inr ⟨unknown, belongs⟩
  · exact .inl isThere

theorem Grows.inOrder_iff (grows : before.Grows after) : after.InOrder ↔ before.InOrder := by
  constructor
  · intro inOrder slug peer found
    exact inOrder slug peer (grows.within slug peer found)
  · intro inOrder slug peer found
    rcases grows.joins slug peer found with known | ⟨-, belongs⟩
    · exact inOrder slug peer known
    · exact belongs

theorem enroll_grows {organization : Organization} (unknown : peers.get? organization.slug = none)
    (region name : String) :
    (peers.enroll organization region name).Returns fun found => peers.Grows found.2 := by
  intro key answer
  cases answer with
  | error failure => exact .refl peers
  | ok registration =>
    exact fun saved => grows_insert unknown
      (Peer.belongs_ofRegistration organization name region key registration)

theorem acquire_grows (peers : Peers) (organization : Organization)
    (region name defaultRegion : String) :
    (peers.acquire organization region name defaultRegion).Returns fun found =>
      peers.Grows found.2 := by
  cases known : peers.get? organization.slug with
  | some peer =>
    rw [acquire_of_some known]
    exact .refl peers
  | none =>
    rw [acquire_of_none known]
    exact Interaction.returns_bind (enroll_grows known _)

end Peers

namespace Keeping

theorem enquire_grows (surroundings : Surroundings) (directory : Path) (keeping : Keeping)
    (enquiry : Enquiry) :
    keeping.peers.Grows (keeping.enquire surroundings directory enquiry).2.peers := by
  have yields : (keeping.peers.acquire enquiry.organization enquiry.region enquiry.name
      enquiry.defaultRegion).Yields (fun _ _ => True) fun found => keeping.peers.Grows found.2 :=
    (keeping.peers.acquire_grows ..).yields
  exact yields.run (fun _ _ => trivial) keeping

theorem after_grows (surroundings : Surroundings) (directory : Path) (keeping : Keeping)
    (enquiries : List Enquiry) :
    keeping.peers.Grows (keeping.after surroundings directory enquiries).peers := by
  induction enquiries generalizing keeping with
  | nil => exact .refl _
  | cons enquiry enquiries ih =>
    exact (keeping.enquire_grows surroundings directory enquiry).trans (ih _)

end Keeping

namespace Registry

theorem connect_grows (registry : Registry) (slug : String) (organization : Organization)
    {peers : Peers} {found : Except Failure Peer × Peers} (grows : peers.Grows found.2) :
    (registry.connect slug organization found).Returns fun outcome =>
      peers.Grows outcome.2.peers := by
  obtain ⟨found, after⟩ := found
  cases found with
  | error failure => exact grows
  | ok peer =>
    intro opened
    cases opened <;> exact grows

theorem work_grows (registry : Registry) (region : String) (request : Request) :
    (request.work region registry).Returns fun outcome =>
      registry.peers.Grows outcome.2.peers := by
  cases request with
  | tunnelFor slug => exact .refl _
  | establish slug =>
    show (registry.establish region slug).Returns _
    cases known : registry.tunnels.get? slug with
    | some tunnel =>
      rw [establish_of_some known]
      exact .refl _
    | none =>
      rw [establish_of_none known]
      intro listing
      show (registry.enter region slug (Organization.find listing slug)).Returns _
      cases Organization.find listing slug with
      | error failure => exact .refl _
      | ok organization =>
        exact (registry.peers.acquire_grows organization "" "" region).bind fun found grows =>
          registry.connect_grows slug organization grows

end Registry

namespace Floor

variable {ι : Type}

theorem serve_grows (region : String) (requests : ι → Request) (answers : ι → Nat → Daemon.Answers)
    (floor : Floor ι) (i : ι) :
    floor.registry.peers.Grows (floor.serve region requests answers i).2.registry.peers := by
  obtain ⟨outcome, calls, steps, worked, grows⟩ :=
    (Daemon.records_of_returns (floor.registry.work_grows region (requests i))).run
      (Request.work_outward ..) answers i floor 1
  have served : floor.serve region requests answers i = _ := serve_of_work worked
  rw [served]
  exact grows

theorem serveAll_grows (region : String) (requests : ι → Request)
    (answers : ι → Nat → Daemon.Answers) (floor : Floor ι) (turns : List ι) :
    floor.registry.peers.Grows
      (floor.serveAll region requests answers turns).2.registry.peers := by
  induction turns using List.reverseRecOn with
  | nil => exact .refl _
  | append_singleton turns i ih =>
    rw [serveAll_concat]
    exact ih.trans (serve_grows region requests answers _ i)

end Floor

-- A tunnel is opened for a peer that was known from the start, or that joined.
theorem Contention.Ordered.joins {ι : Type} {region : String} {requests : ι → Request}
    {answers : ι → Nat → Daemon.Answers} {peers : Peers} {state : Contention ι}
    (ordered : Ordered region requests answers ⟨.initial peers, []⟩ state) {slug : String}
    {config : TunnelConfig} (opens : config ∈ state.floor.configs requests slug) :
    ∃ peer, peer.tunnelConfig = config ∧ peers.Joins slug peer := by
  obtain ⟨turns, earlier⟩ := ordered.prefix_calls
  have explains : (Floor.serveAll region requests answers ⟨.initial peers, []⟩ turns).2.Explains
      requests peers := (Floor.Explains.initial requests peers).serveAll turns
  have grows := Floor.serveAll_grows region requests answers ⟨.initial peers, []⟩ turns
  obtain ⟨peer, kept, same⟩ := explains.configured slug config ((earlier.filterMap _).subset opens)
  exact ⟨peer, same, grows.joins slug peer kept⟩

namespace Keeping

/--
Peers are loaded and asked for one after another, and requests compete for a registry with them.
Whatever is answered and whatever fails, (a) those that were loaded stay as they are, and one that
joins them belongs where it is kept; so all are in order if and only if those that were loaded are.
(b) Each tunnel is opened with the configuration of such a peer. And (c) what is loaded is what the
peer file says, if there is one, and there any peers can stand.
-/
theorem inOrder_iff_loaded {directory : Path} {files opened : FileSystem} {peers : Peers}
    (done : files.run (Peers.load directory) = (.ok peers, opened)) (surroundings : Surroundings)
    (enquiries : List Enquiry) :
    let keeping := (loaded peers opened).after surroundings directory enquiries
    (peers.Grows keeping.peers ∧ (keeping.peers.InOrder ↔ peers.InOrder)) ∧
    (∀ (ι : Type) [DecidableEq ι] region (requests : ι → Request) answers schedule,
      let state := (Contention.initial region requests keeping.peers).run answers schedule
      ∀ slug, ∀ config ∈ state.floor.configs requests slug, ∃ peer,
        peer.tunnelConfig = config ∧ peers.Joins slug peer) ∧
    (peers = ∅ ∨ ∃ content text, opened.contentOf (Peers.file directory) = .ok content ∧
      Text.decode? content = some text ∧ Peers.parse text = .ok peers) ∧
    ∀ others : Peers, Peers.parse others.text = .ok others := by
  intro keeping
  have grows : peers.Grows keeping.peers := (loaded peers opened).after_grows ..
  refine ⟨⟨grows, grows.inOrder_iff⟩, ?_, ?_, Peers.parse_text⟩
  · intro ι _ region requests answers schedule state slug config opens
    have ordered := (Contention.Ordered.initial region requests answers keeping.peers).run schedule
    obtain ⟨peer, same, joins⟩ := ordered.joins opens
    refine ⟨peer, same, ?_⟩
    rcases joins with kept | ⟨unknown, belongs⟩
    · exact grows.joins slug peer kept
    · exact grows.joins_of_none unknown belongs
  · have holds := Peers.holds_of_run_load done
    by_cases kept : Peers.IsKept opened directory
    · obtain ⟨node, readable⟩ := holds.readable kept
      exact .inr readable.content
    · exact .inl (holds.eq_empty kept)

/-- A peer of another organization, with a public key that is not its own. -/
def impostor : Peer where
  organization := "globex"
  name := "laptop"
  region := "eu"
  keys := ⟨⟨List.replicate 32 7, rfl⟩, ⟨List.replicate 32 7, rfl⟩⟩
  address := .v4 ⟨10, 0, 0, 2⟩
  endpoint := "gateway:51820"
  gatewayKey := ⟨List.replicate 32 7, rfl⟩
  dns := none

theorem not_belongs_impostor (slug : String) : ¬ impostor.Belongs slug := by
  intro belongs
  have differ : ¬ impostor.keys.Matches := by decide +kernel
  exact differ belongs.keys

/-- The peers of somebody who wrote the impostor down for `acme`. -/
def infiltrated : Peers := Table.insert ∅ "acme" impostor

-- There is a file that keeps them.
theorem exists_load_infiltrated : ∃ files : FileSystem,
    files.run (Peers.load (.ofText "/state")) = (.ok infiltrated, files) := by
  have done : Peers.emptyState.run (Peers.load (.ofText "/state")) = (.ok ∅, Peers.emptyState) := by
    rfl
  obtain ⟨-, holds⟩ := Peers.run_save (fun _ => none) 0 (Peers.holds_of_run_load done)
    Peers.isOwn_emptyState infiltrated
  have saved : ((Peers.save (.ofText "/state") infiltrated).run
      (FileSystem.falter fun _ => none) (Peers.emptyState, 0)).1.isOk = true := by
    rfl
  obtain ⟨_, ok⟩ := eq_ok_of_isOk saved
  rw [ok] at holds
  exact ⟨_, holds.run_load⟩

/-- It is loaded, it stays, and the tunnel for `acme` is opened with its keys. -/
theorem impostor_is_used : ∃ files : FileSystem,
    files.run (Peers.load (.ofText "/state")) = (.ok infiltrated, files) ∧
    (∀ surroundings enquiries, ¬ Peers.InOrder
      ((loaded infiltrated files).after surroundings (.ofText "/state") enquiries).peers) ∧
    ∃ config, ((Contention.initial "eu" (fun _ : Unit => .establish "acme") infiltrated).run
        (fun _ _ => Daemon.obliging) (List.replicate 6 ())).floor.configs
          (fun _ => .establish "acme") "acme" = [config] ∧
      ¬ config.keys.Matches ∧
      ∃ peer, peer.tunnelConfig = config ∧ infiltrated.Joins "acme" peer := by
  obtain ⟨files, done⟩ := exists_load_infiltrated
  refine ⟨files, done, fun surroundings enquiries inOrder => ?_,
    impostor.tunnelConfig, rfl, by decide +kernel, ?_⟩
  · have were := (inOrder_iff_loaded done surroundings enquiries).1.2.1 inOrder
    exact not_belongs_impostor "acme" (were "acme" impostor rfl)
  · exact (inOrder_iff_loaded done calm []).2.1 Unit "eu" (fun _ => .establish "acme")
      (fun _ _ => Daemon.obliging) (List.replicate 6 ()) "acme" _ (List.mem_singleton_self _)

end Keeping

end TunnelBroker
