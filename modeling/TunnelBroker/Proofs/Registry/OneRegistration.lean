import TunnelBroker.Proofs.Registry.OneTunnel

/-!
At most one registration for an organization. Main statement: however requests compete for
the registry, and whatever fails on the way, for each slug at most one registration goes well,
and none if its peer is known from the start; and all attempts to open the slug's tunnel have
one configuration, that of the peer which is kept.
-/

set_option autoImplicit false

namespace TunnelBroker

namespace Daemon.Answered

/-- The slug of the organization that a call registered a peer with. -/
def registered? : Answered → Option String
  | ⟨.register organization .., .ok _⟩ => some organization.slug
  | _ => none

/-- The configuration that a call tried to open a tunnel with, also if it failed. -/
def config? : Answered → Option TunnelConfig
  | ⟨.openTunnel config, _⟩ => some config
  | _ => none

theorem config?_of_preparing {answered : Answered} (preparing : answered.call.IsPreparing) :
    answered.config? = none := by
  obtain ⟨call, answer⟩ := answered
  cases call <;> first | rfl | exact preparing.elim

end Daemon.Answered

/-! ### One attempt -/

namespace Peers

/-- What an attempt for a slug makes of the peers, with the calls that it puts to the world. -/
inductive Enrolled (slug : String) (before : Peers) : Peers → List Daemon.Answered → Prop where
  | kept {calls : List Daemon.Answered}
    (nothing : calls.filterMap Daemon.Answered.registered? = []) : Enrolled slug before before calls
  | added {calls : List Daemon.Answered} (peer : Peer) (unknown : before.get? slug = none)
    (once : calls.filterMap Daemon.Answered.registered? = [slug]) :
    Enrolled slug before (before.insert slug peer) calls

variable {slug : String} {before after peers : Peers} {calls more : List Daemon.Answered}

theorem Enrolled.once (enrolled : Enrolled slug before after calls) (other : String) :
    (calls.filterMap Daemon.Answered.registered?).count other +
        (before.get? other).toList.length = (after.get? other).toList.length := by
  cases enrolled with
  | kept nothing => simp [nothing]
  | added peer unknown once =>
    by_cases same : slug = other
    · subst same
      simp [once, unknown]
    · simp [once, same]

theorem Enrolled.within (enrolled : Enrolled slug before after calls) : before.Within after := by
  cases enrolled with
  | kept nothing => exact fun _ _ found => found
  | added peer unknown once => exact within_insert unknown peer

theorem Enrolled.congr (enrolled : Enrolled slug before after calls)
    (same : more.filterMap Daemon.Answered.registered? =
      calls.filterMap Daemon.Answered.registered?) : Enrolled slug before after more := by
  cases enrolled with
  | kept nothing => exact .kept (same.trans nothing)
  | added peer unknown once => exact .added peer unknown (same.trans once)

theorem Enrolled.append (enrolled : Enrolled slug before after calls)
    (nothing : more.filterMap Daemon.Answered.registered? = []) :
    Enrolled slug before after (calls ++ more) := by
  apply enrolled.congr
  rw [List.filterMap_append, nothing, List.append_nil]

/-- What finding a peer comes to. -/
structure Acquired (slug : String) (before : Peers) (found : Except Failure Peer × Peers)
    (calls : List Daemon.Answered) : Prop where
  enrolled : Enrolled slug before found.2 calls
  known : ∀ peer, found.1 = .ok peer → found.2.get? slug = some peer

-- A peer that was registered is kept, whether or not it can be saved.
theorem keep_records (unknown : peers.get? slug = none) (peer : Peer)
    {earlier : List Daemon.Answered}
    (once : earlier.filterMap Daemon.Answered.registered? = [slug]) :
    Daemon.Records (fun found more => Acquired slug peers found (earlier ++ more))
      (peers.keep slug peer) := by
  intro saved
  refine ⟨(Enrolled.added peer unknown once).append rfl, ?_⟩
  intro other found
  cases saved with
  | error failure => cases found
  | ok saved =>
    cases found
    simp

theorem enroll_records {organization : Organization}
    (unknown : peers.get? organization.slug = none) (region name : String)
    {earlier : List Daemon.Answered}
    (unregistered : earlier.filterMap Daemon.Answered.registered? = []) :
    Daemon.Records (fun found more => Acquired organization.slug peers found (earlier ++ more))
      (peers.enroll organization region name) := by
  intro key answer
  cases answer with
  | error failure => exact ⟨(Enrolled.kept unregistered).append rfl, nofun⟩
  | ok registration =>
    let calls : List Daemon.Answered := [⟨.freshKey, key⟩,
      ⟨.register organization region name (KeyPair.ofPrivate key).publicKey, .ok registration⟩]
    have once : (earlier ++ calls).filterMap Daemon.Answered.registered? = [organization.slug] := by
      rw [List.filterMap_append, unregistered]
      rfl
    apply (keep_records unknown
      (.ofRegistration organization name region (.ofPrivate key) registration) once).imp
    intro found more acquired
    rwa [List.append_assoc] at acquired

theorem acquire_records (peers : Peers) (organization : Organization)
    (region name defaultRegion : String) :
    Daemon.Records (Acquired organization.slug peers)
      (peers.acquire organization region name defaultRegion) := by
  cases known : peers.get? organization.slug with
  | some peer =>
    rw [acquire_of_some known]
    refine ⟨.kept rfl, ?_⟩
    rintro _ ⟨⟩
    exact known
  | none =>
    rw [acquire_of_none known]
    -- A name is chosen without registering anything.
    have named : Daemon.Records (fun _ calls => calls.filterMap Daemon.Answered.registered? = [])
        (chooseName name) := by
      unfold chooseName
      split
      · exact fun name => rfl
      · exact rfl
    apply named.bind
    intro name calls unregistered
    exact enroll_records known _ name unregistered

end Peers

/-- One turn on a slug: what it makes of the peers, and what it opens the tunnel with. -/
structure Registry.Attempted (slug : String) (before after : Peers)
    (calls : List Daemon.Answered) : Prop where
  enrolled : Peers.Enrolled slug before after calls
  configured : ∀ config ∈ calls.filterMap Daemon.Answered.config?, ∃ peer,
    after.get? slug = some peer ∧ peer.tunnelConfig = config

namespace Registry

theorem connect_records (registry : Registry) (slug : String) (organization : Organization)
    {peers : Peers} {found : Except Failure Peer × Peers} {earlier : List Daemon.Answered}
    (acquired : Peers.Acquired slug peers found earlier)
    (unopened : earlier.filterMap Daemon.Answered.config? = []) :
    Daemon.Records
      (fun outcome more => Attempted slug peers outcome.2.peers (earlier ++ more))
      (registry.connect slug organization found) := by
  obtain ⟨found, after⟩ := found
  cases found with
  | error failure =>
    refine ⟨acquired.enrolled.append rfl, ?_⟩
    simp [unopened]
  | ok peer =>
    intro opened
    have settled : (({ registry with peers := after } : Registry).settle slug organization peer
        opened).2.peers = after := by
      cases opened <;> rfl
    constructor
    · rw [settled]
      exact acquired.enrolled.append rfl
    · rw [settled, List.filterMap_append, unopened]
      intro config opens
      cases List.mem_singleton.1 opens
      exact ⟨peer, acquired.known peer rfl, rfl⟩

theorem enter_records (registry : Registry) (region : String) {slug : String}
    {listing : Except Failure (List Organization)} :
    Daemon.Records (fun outcome calls => Attempted slug registry.peers outcome.2.peers calls)
      (registry.enter region slug (Organization.find listing slug)) := by
  cases found : Organization.find listing slug with
  | error failure => exact ⟨.kept rfl, nofun⟩
  | ok organization =>
    cases Organization.slug_of_find found
    have acquires := (registry.peers.acquire_records organization "" "" region).and
      (Daemon.records_of_puts (registry.peers.acquire_preparing organization "" "" region))
    apply acquires.bind
    intro acquired calls ⟨reached, preparing⟩
    apply registry.connect_records organization.slug organization reached
    apply List.filterMap_eq_nil_iff.2
    intro answered member
    exact Daemon.Answered.config?_of_preparing (preparing answered member)

theorem establish_records (registry : Registry) (region slug : String) :
    Daemon.Records (fun outcome calls => Attempted slug registry.peers outcome.2.peers calls)
      (registry.establish region slug) := by
  cases known : registry.tunnels.get? slug with
  | some tunnel =>
    rw [establish_of_some known]
    exact ⟨.kept rfl, nofun⟩
  | none =>
    rw [establish_of_none known]
    intro listing
    apply (registry.enter_records region).imp
    intro outcome calls attempted
    exact ⟨attempted.enrolled.congr rfl, attempted.configured⟩

end Registry

/-! ### One turn after another -/

namespace Floor

variable {ι : Type} {region : String} {requests : ι → Request} {answers : ι → Nat → Daemon.Answers}
  {start : Peers} {floor : Floor ι}

/-- How many peers were registered for a slug. -/
def registrations (slug : String) (floor : Floor ι) : Nat :=
  (floor.calls.filterMap fun entry => entry.2.registered?).count slug

/-- The configurations of all attempts to open the tunnel for a slug. -/
def configs (requests : ι → Request) (slug : String) (floor : Floor ι) : List TunnelConfig :=
  floor.calls.filterMap fun (i, answered) =>
    if (requests i).slug = slug then answered.config? else none

/--
The registrations that went well since the peers were those in `start` explain what is kept
now, and the tunnels are opened with what is kept.
-/
structure Explains (requests : ι → Request) (start : Peers) (floor : Floor ι) : Prop where
  within : start.Within floor.registry.peers
  once : ∀ slug, floor.registrations slug + (start.get? slug).toList.length =
    (floor.registry.peers.get? slug).toList.length
  configured : ∀ slug, ∀ config ∈ floor.configs requests slug, ∃ peer,
    floor.registry.peers.get? slug = some peer ∧ peer.tunnelConfig = config

theorem Explains.initial (requests : ι → Request) (start : Peers) :
    (⟨.initial start, []⟩ : Floor ι).Explains requests start where
  within := fun _ _ found => found
  once := fun _ => Nat.zero_add _
  configured := fun _ => nofun

theorem registrations_extend (slug : String) (floor : Floor ι) (i : ι)
    (calls : List Daemon.Answered) :
    (floor.extend i calls).registrations slug =
      floor.registrations slug + (calls.filterMap Daemon.Answered.registered?).count slug := by
  simp only [registrations, extend, List.filterMap_append, List.filterMap_map, List.count_append]
  rfl

theorem configs_extend (slug : String) (floor : Floor ι) (i : ι) (calls : List Daemon.Answered) :
    (floor.extend i calls).configs requests slug =
      floor.configs requests slug ++
        if (requests i).slug = slug then calls.filterMap Daemon.Answered.config? else [] :=
  picked_extend Daemon.Answered.config? slug floor i calls

-- What one turn makes of the peers.
theorem serve_attempted (region : String) (requests : ι → Request)
    (answers : ι → Nat → Daemon.Answers) (floor : Floor ι) (i : ι) :
    ∃ result after calls,
      floor.serve region requests answers i =
        (result, { floor.extend i calls with registry := after }) ∧
      Registry.Attempted (requests i).slug floor.registry.peers after.peers calls := by
  have records : Daemon.Records
      (fun outcome calls =>
        Registry.Attempted (requests i).slug floor.registry.peers outcome.2.peers calls)
      ((requests i).work region floor.registry) := by
    cases requests i with
    | establish slug => exact floor.registry.establish_records region slug
    | tunnelFor slug => exact ⟨.kept rfl, nofun⟩
  obtain ⟨⟨result, after⟩, calls, steps, worked, attempted⟩ :=
    records.run (Request.work_outward ..) answers i floor 1
  exact ⟨result, after, calls, serve_of_work worked, attempted⟩

theorem Explains.serve (explains : floor.Explains requests start) (i : ι) :
    (floor.serve region requests answers i).2.Explains requests start := by
  obtain ⟨result, after, calls, served, enrolled, configured⟩ :=
    floor.serve_attempted region requests answers i
  rw [served]
  refine ⟨explains.within.trans enrolled.within, fun slug => ?_, fun slug config opens => ?_⟩
  · have before := explains.once slug
    have now := enrolled.once slug
    show (floor.extend i calls).registrations slug + _ = (after.peers.get? slug).toList.length
    rw [registrations_extend]
    omega
  · change config ∈ (floor.extend i calls).configs requests slug at opens
    rw [configs_extend] at opens
    rcases List.mem_append.1 opens with old | new
    · obtain ⟨peer, known, same⟩ := explains.configured slug config old
      exact ⟨peer, enrolled.within slug peer known, same⟩
    · split at new
      · next mine =>
        subst mine
        exact configured config new
      · cases new

theorem Explains.serveAll (explains : floor.Explains requests start) (turns : List ι) :
    (floor.serveAll region requests answers turns).2.Explains requests start := by
  induction turns using List.reverseRecOn with
  | nil => exact explains
  | append_singleton turns i ih =>
    rw [serveAll_concat]
    exact ih.serve i

end Floor

/-! ### Competing requests -/

namespace Contention

variable {ι : Type} {region : String} {requests : ι → Request} {answers : ι → Nat → Daemon.Answers}
  {peers : Peers} {state : Contention ι} {slug : String}

-- Whatever a turn in progress comes to, it adds to the calls that were put so far.
theorem Ordered.explains (ordered : Ordered region requests answers ⟨.initial peers, []⟩ state) :
    ∃ floor : Floor ι, state.floor.calls <+: floor.calls ∧ floor.Explains requests peers := by
  obtain ⟨turns, earlier⟩ := ordered.prefix_calls
  exact ⟨_, earlier, (Floor.Explains.initial requests peers).serveAll turns⟩

theorem Ordered.registrations_add_le
    (ordered : Ordered region requests answers ⟨.initial peers, []⟩ state) (slug : String) :
    state.floor.registrations slug + (peers.get? slug).toList.length ≤ 1 := by
  obtain ⟨floor, earlier, explains⟩ := ordered.explains
  have fewer : state.floor.registrations slug ≤ floor.registrations slug :=
    (earlier.filterMap _).sublist.count_le slug
  have once := explains.once slug
  have single : (floor.registry.peers.get? slug).toList.length ≤ 1 := Option.length_toList_le
  omega

theorem Ordered.config_eq (ordered : Ordered region requests answers ⟨.initial peers, []⟩ state)
    {config other : TunnelConfig} (opens : config ∈ state.floor.configs requests slug)
    (another : other ∈ state.floor.configs requests slug) : other = config := by
  obtain ⟨floor, earlier, explains⟩ := ordered.explains
  have subset : state.floor.configs requests slug ⊆ floor.configs requests slug :=
    (earlier.filterMap _).subset
  obtain ⟨peer, known, rfl⟩ := explains.configured slug config (subset opens)
  obtain ⟨same, kept, rfl⟩ := explains.configured slug other (subset another)
  cases known.symm.trans kept
  rfl

theorem Ordered.kept_config
    (ordered : Ordered region requests answers ⟨.initial peers, []⟩ state)
    (free : state.holder = none) {config : TunnelConfig}
    (opens : config ∈ state.floor.configs requests slug) : ∃ peer,
    state.floor.registry.peers.get? slug = some peer ∧ peer.tunnelConfig = config := by
  rw [ordered.floor_eq free] at opens ⊢
  exact ((Floor.Explains.initial requests peers).serveAll _).configured slug config opens

variable [DecidableEq ι]

theorem calls_step (answers : ι → Nat → Daemon.Answers) (state : Contention ι) (i : ι) :
    state.floor.calls <+: (state.step answers i).floor.calls := by
  have stepped := state.stepped answers i
  generalize state.step answers i = after at stepped
  cases stepped with
  | outward outward rest => exact List.prefix_append ..
  | _ => exact List.prefix_rfl

theorem calls_run (answers : ι → Nat → Daemon.Answers) (state : Contention ι) (schedule : List ι) :
    state.floor.calls <+: (state.run answers schedule).floor.calls := by
  induction schedule generalizing state with
  | nil => exact List.prefix_rfl
  | cons i schedule ih => exact (calls_step answers state i).trans (ih _)

/--
However requests compete for the registry, and whatever they are answered, for each slug at most
one peer is registered, and none if there was one from the start. All attempts to open the
tunnel for a slug have the same configuration, and as soon as nobody has hold of the registry,
and ever after, it is that of the peer which is kept for the slug.
-/
theorem run_one_registration {ι : Type} [DecidableEq ι] (region : String) (requests : ι → Request)
    (answers : ι → Nat → Daemon.Answers) (peers : Peers) (schedule : List ι) :
    let state := (Contention.initial region requests peers).run answers schedule
    ∀ slug,
      (state.floor.registrations slug ≤ 1 ∧
        ((peers.get? slug).isSome → state.floor.registrations slug = 0)) ∧
      ∀ config ∈ state.floor.configs requests slug,
        (∀ other ∈ state.floor.configs requests slug, other = config) ∧
        ∀ later, (state.run answers later).holder = none → ∃ peer,
          (state.run answers later).floor.registry.peers.get? slug = some peer ∧
          peer.tunnelConfig = config := by
  intro state slug
  have ordered : Ordered region requests answers ⟨.initial peers, []⟩ state :=
    (Ordered.initial region requests answers peers).run schedule
  have bounded := ordered.registrations_add_le slug
  refine ⟨⟨by omega, fun known => ?_⟩, fun config opens => ⟨fun other another => ?_, ?_⟩⟩
  · obtain ⟨peer, found⟩ := Option.isSome_iff_exists.1 known
    rw [found] at bounded
    simp only [Option.toList_some, List.length_singleton] at bounded
    omega
  · exact ordered.config_eq opens another
  · intro later free
    apply (ordered.run later).kept_config free
    exact ((calls_run answers state later).filterMap _).subset opens

end Contention

end TunnelBroker
