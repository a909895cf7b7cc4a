import TunnelBroker.Proofs.Registry.OneRegistration

/-!
Tunnels, and the peers that they were opened for. Main statement: after any number of turns each
tunnel is kept under the slug of its organization, beside the peer whose address it has. A turn
adds entries for its own slug at most, and a tunnel exactly if it succeeds where there was none.
-/

set_option autoImplicit false

namespace TunnelBroker

/-- A table is as it was, or it has one more entry, for a key that it did not have. -/
inductive Table.Gains {α : Type} (key : String) (before : Table α) : Table α → Prop where
  | nothing : Gains key before before
  | entry (unknown : before.get? key = none) (value : α) :
    Gains key before (before.insert key value)

theorem Peers.Enrolled.gains {slug : String} {before after : Peers} {calls : List Daemon.Answered}
    (enrolled : Enrolled slug before after calls) : before.Gains slug after := by
  cases enrolled with
  | kept => exact .nothing
  | added peer unknown => exact .entry unknown peer

theorem Peers.within_of_gains {slug : String} {before after : Peers}
    (gains : before.Gains slug after) : before.Within after := by
  cases gains with
  | nothing => exact fun _ _ => id
  | entry unknown peer => exact within_insert unknown peer

namespace Registry

/-- Each tunnel is kept for its own organization, and there is a peer with its address. -/
structure Coherent (registry : Registry) : Prop where
  belongs : ∀ slug tunnel, registry.tunnels.get? slug = some tunnel →
    tunnel.organization.slug = slug
  peered : ∀ slug tunnel, registry.tunnels.get? slug = some tunnel → ∃ peer,
    registry.peers.get? slug = some peer ∧ peer.address = tunnel.address

/-- What a turn on a slug comes to. -/
inductive Turned (slug : String) (before : Registry) :
    Except Failure Tunnel → Registry → Prop where
  | known {tunnel : Tunnel} (known : before.tunnels.get? slug = some tunnel) :
    Turned slug before (.ok tunnel) before
  | failed (failure : Failure) {peers : Peers} (gains : before.peers.Gains slug peers) :
    Turned slug before (.error failure) { before with peers := peers }
  | opened {tunnel : Tunnel} {peer : Peer} {peers : Peers}
    (unknown : before.tunnels.get? slug = none) (gains : before.peers.Gains slug peers)
    (belongs : tunnel.organization.slug = slug) (kept : peers.get? slug = some peer)
    (same : peer.address = tunnel.address) :
    Turned slug before (.ok tunnel) ⟨before.tunnels.insert slug tunnel, peers⟩

variable {before after : Registry} {slug : String} {result : Except Failure Tunnel}

theorem Coherent.initial (peers : Peers) : (initial peers).Coherent where
  belongs := fun slug _ found => nomatch (Table.get?_empty slug).symm.trans found
  peered := fun slug _ found => nomatch (Table.get?_empty slug).symm.trans found

-- What a turn makes of the registry is in order again.
theorem Coherent.turned (coherent : before.Coherent) (turned : Turned slug before result after) :
    after.Coherent := by
  cases turned with
  | known known => exact coherent
  | failed failure gains =>
    refine ⟨coherent.belongs, fun other tunnel found => ?_⟩
    obtain ⟨peer, kept, same⟩ := coherent.peered other tunnel found
    exact ⟨peer, Peers.within_of_gains gains other peer kept, same⟩
  | @opened tunnel peer peers unknown gains belongs kept same =>
    constructor
    case belongs =>
      intro other found isThere
      rw [Table.get?_insert] at isThere
      split at isThere
      · next mine =>
        cases isThere
        exact belongs.trans mine
      · exact coherent.belongs other found isThere
    case peered =>
      intro other found isThere
      rw [Table.get?_insert] at isThere
      split at isThere
      · next mine =>
        cases isThere
        exact ⟨peer, mine ▸ kept, same⟩
      · obtain ⟨old, keptOld, sameOld⟩ := coherent.peered other found isThere
        exact ⟨old, Peers.within_of_gains gains other old keptOld, sameOld⟩

namespace Turned

theorem tunnels_gain (turned : Turned slug before result after) :
    before.tunnels.Gains slug after.tunnels := by
  cases turned with
  | known => exact .nothing
  | failed => exact .nothing
  | opened unknown => exact .entry unknown _

theorem peers_gain (turned : Turned slug before result after) :
    before.peers.Gains slug after.peers := by
  cases turned with
  | known => exact .nothing
  | failed failure gains => exact gains
  | opened unknown gains => exact gains

-- A slug without a tunnel gets the one that the turn succeeds with, and no other.
theorem get?_iff (turned : Turned slug before result after)
    (unknown : before.tunnels.get? slug = none) (tunnel : Tunnel) :
    after.tunnels.get? slug = some tunnel ↔ result = .ok tunnel := by
  cases turned with
  | known known => cases unknown.symm.trans known
  | failed failure gains => simp [unknown]
  | opened => simp

theorem tunnels_eq (turned : Turned slug before result after) {failure : Failure}
    (failed : result = .error failure) : after.tunnels = before.tunnels := by
  cases turned with
  | known => rfl
  | failed => rfl
  | opened => cases failed

end Turned

/-! ### One turn -/

theorem connect_turned (registry : Registry) (organization : Organization)
    (unknown : registry.tunnels.get? organization.slug = none)
    {found : Except Failure Peer × Peers} {calls : List Daemon.Answered}
    (acquired : Peers.Acquired organization.slug registry.peers found calls) :
    Daemon.Records (fun outcome _ => Turned organization.slug registry outcome.1 outcome.2)
      (registry.connect organization.slug organization found) := by
  have gains := acquired.enrolled.gains
  obtain ⟨found, peers⟩ := found
  cases found with
  | error failure => exact .failed failure gains
  | ok peer =>
    intro opened
    cases opened with
    | error failure => exact .failed _ gains
    | ok session => exact .opened unknown gains rfl (acquired.known peer rfl) rfl

theorem enter_turned (registry : Registry) (region : String)
    (unknown : registry.tunnels.get? slug = none)
    (listing : Except Failure (List Organization)) :
    Daemon.Records (fun outcome _ => Turned slug registry outcome.1 outcome.2)
      (registry.enter region slug (Organization.find listing slug)) := by
  cases found : Organization.find listing slug with
  | error failure => exact .failed failure .nothing
  | ok organization =>
    -- Whatever the listing has, the organization that is found has the slug of the turn.
    cases Organization.slug_of_find found
    apply (registry.peers.acquire_records organization "" "" region).bind
    intro found calls acquired
    exact registry.connect_turned organization unknown acquired

theorem establish_turned (registry : Registry) (region slug : String) :
    Daemon.Records (fun outcome _ => Turned slug registry outcome.1 outcome.2)
      (registry.establish region slug) := by
  cases known : registry.tunnels.get? slug with
  | some tunnel =>
    rw [establish_of_some known]
    exact .known known
  | none =>
    rw [establish_of_none known]
    exact fun listing => registry.enter_turned region known listing

theorem tunnelFor_turned (registry : Registry) (slug : String) :
    Turned slug registry (registry.tunnelFor slug) registry := by
  unfold tunnelFor
  split
  · next known => exact .known known
  · exact .failed _ .nothing

theorem work_turned (registry : Registry) (region : String) (request : Request) :
    Daemon.Records (fun outcome _ => Turned request.slug registry outcome.1 outcome.2)
      (request.work region registry) := by
  cases request with
  | establish slug => exact registry.establish_turned region slug
  | tunnelFor slug => exact registry.tunnelFor_turned slug

end Registry

/-! ### One turn after another -/

namespace Floor

variable {ι : Type} {region : String} {requests : ι → Request}
  {answers : ι → Nat → Daemon.Answers}

theorem serve_turned (region : String) (requests : ι → Request)
    (answers : ι → Nat → Daemon.Answers) (floor : Floor ι) (i : ι) :
    let outcome := floor.serve region requests answers i
    Registry.Turned (requests i).slug floor.registry outcome.1 outcome.2.registry := by
  obtain ⟨⟨result, after⟩, calls, steps, worked, turned⟩ :=
    (floor.registry.work_turned region (requests i)).run (Request.work_outward ..) answers i floor 1
  have served : floor.serve region requests answers i = _ := serve_of_work worked
  rw [served]
  exact turned

theorem coherent_serveAll {floor : Floor ι} (coherent : floor.registry.Coherent)
    (turns : List ι) :
    (floor.serveAll region requests answers turns).2.registry.Coherent := by
  induction turns using List.reverseRecOn with
  | nil => exact coherent
  | append_singleton turns i ih =>
    rw [serveAll_concat]
    exact ih.turned (serve_turned ..)

/--
After any number of turns, each tunnel is kept under the slug of its organization, and there is a
peer with its address under this slug. One more turn adds a tunnel and a peer for its own slug at
most. Where there was no tunnel there is one afterwards exactly if the turn succeeds, namely the
one that it succeeds with, and a turn that fails leaves the tunnels as they were. However requests
compete for the registry, tunnels and peers are in order at any time.
-/
theorem turns_are_coherent {ι : Type} [DecidableEq ι] (region : String) (requests : ι → Request)
    (answers : ι → Nat → Daemon.Answers) (peers : Peers) :
    (∀ turns : List ι,
      let floor := (serveAll region requests answers ⟨.initial peers, []⟩ turns).2
      floor.registry.Coherent ∧
      ∀ i,
        let slug := (requests i).slug
        let outcome := floor.serve region requests answers i
        let after := outcome.2.registry
        floor.registry.tunnels.Gains slug after.tunnels ∧
        floor.registry.peers.Gains slug after.peers ∧
        (∀ tunnel,
          floor.registry.tunnels.get? slug = none ∧ after.tunnels.get? slug = some tunnel ↔
            floor.registry.tunnels.get? slug = none ∧ outcome.1 = .ok tunnel) ∧
        ∀ failure, outcome.1 = .error failure → after.tunnels = floor.registry.tunnels) ∧
    ∀ schedule,
      ((Contention.initial region requests peers).run answers schedule).floor.registry.Coherent := by
  have start : (⟨.initial peers, []⟩ : Floor ι).registry.Coherent := .initial peers
  refine ⟨fun turns => ⟨coherent_serveAll start turns, fun i => ?_⟩, fun schedule => ?_⟩
  · have turned := serve_turned region requests answers
      (serveAll region requests answers ⟨.initial peers, []⟩ turns).2 i
    exact ⟨turned.tunnels_gain, turned.peers_gain,
      fun tunnel => and_congr_right fun unknown => turned.get?_iff unknown tunnel,
      fun failure failed => turned.tunnels_eq failed⟩
  · have ordered := (Contention.Ordered.initial region requests answers peers).run schedule
    rw [ordered.registry_eq]
    exact coherent_serveAll start _

end Floor

end TunnelBroker
