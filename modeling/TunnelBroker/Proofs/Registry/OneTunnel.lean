import TunnelBroker.Proofs.Registry.Order
import TunnelBroker.Proofs.Registry.Record

/-!
At most one tunnel for an organization. Main statement: however requests compete for the
registry, they come to what they come to one after another; for each slug at most one tunnel
is ever opened, and it is the one that everybody gets; and a tunnel stays in the registry.
-/

set_option autoImplicit false

namespace TunnelBroker

/-- The session that a call opened. -/
def Daemon.Answered.opened? : Daemon.Answered → Option Nat
  | ⟨.openTunnel _, .ok session⟩ => some session
  | _ => none

theorem Daemon.Answered.opened?_of_preparing {answered : Daemon.Answered}
    (preparing : answered.call.IsPreparing) : answered.opened? = none := by
  obtain ⟨call, answer⟩ := answered
  cases call <;> first | rfl | exact preparing.elim

namespace Floor

variable {ι : Type}

/-- The sessions that were opened for a slug, in order. -/
def opened (requests : ι → Request) (slug : String) (floor : Floor ι) : List Nat :=
  floor.calls.filterMap fun (i, answered) =>
    if (requests i).slug = slug then answered.opened? else none

/-- The sessions that were opened are those of the tunnels in the registry, one for each. -/
def Faithful (requests : ι → Request) (floor : Floor ι) : Prop :=
  ∀ slug, floor.opened requests slug =
    ((floor.registry.tunnels.get? slug).map Tunnel.session).toList

theorem run_outward {α : Type} (answers : ι → Nat → Daemon.Answers) (i : ι)
    {p : Daemon.Call → Prop} (allowed : ∀ call, p call → call.IsOutward)
    {task : Daemon.Task α} (puts : task.Puts p) (floor : Floor ι) (steps : Nat) :
    ∃ value calls after, (∀ answered ∈ calls, p answered.call) ∧
      task.run (Floor.react answers i) (floor, steps) = (value, floor.extend i calls, after) := by
  obtain ⟨value, calls, after, result, all⟩ :=
    (Daemon.records_of_puts puts).run (puts.imp allowed) answers i floor steps
  exact ⟨value, calls, after, all, result⟩

end Floor

namespace Registry

/-- What one turn on a slug makes of the registry, with the calls that it puts to the world. -/
inductive Change (slug : String) (before : Registry) :
    Except Failure Tunnel → Registry → List Daemon.Answered → Prop where
  | kept {result : Except Failure Tunnel} {calls : List Daemon.Answered} (peers : Peers)
    (quiet : calls.filterMap Daemon.Answered.opened? = [])
    (known : ∀ tunnel, result = .ok tunnel → before.tunnels.get? slug = some tunnel) :
    Change slug before result { before with peers := peers } calls
  | opened {tunnel : Tunnel} {calls : List Daemon.Answered} (peers : Peers)
    (unknown : before.tunnels.get? slug = none)
    (opens : calls.filterMap Daemon.Answered.opened? = [tunnel.session]) :
    Change slug before (.ok tunnel) ⟨before.tunnels.insert slug tunnel, peers⟩ calls

variable {ι : Type} {answers : ι → Nat → Daemon.Answers} {i : ι}

theorem connect_change {registry : Registry} {slug : String}
    (unknown : registry.tunnels.get? slug = none) {earlier : List Daemon.Answered}
    (quiet : earlier.filterMap Daemon.Answered.opened? = []) (organization : Organization)
    (found : Except Failure Peer × Peers) (floor : Floor ι) (steps : Nat) :
    ∃ result after calls rest,
      (registry.connect slug organization found).run (Floor.react answers i)
        (floor.extend i earlier, steps) = ((result, after), floor.extend i calls, rest) ∧
      Change slug registry result after calls := by
  obtain ⟨peer, peers⟩ := found
  cases peer with
  | error failure =>
    refine ⟨_, _, earlier, _, rfl, .kept peers quiet fun _ wrong => ?_⟩
    cases wrong
  | ok peer =>
    rw [connect, Interaction.run,
      Floor.react_outward (show (Daemon.Call.openTunnel _).IsOutward from trivial),
      Floor.record_eq, Floor.extend_extend]
    cases answer : answers i steps (.openTunnel peer.tunnelConfig) with
    | error failure =>
      refine ⟨_, _, _, _, rfl, .kept peers ?_ fun _ wrong => ?_⟩
      · simp [quiet, Daemon.Answered.opened?]
      · cases wrong
    | ok session =>
      refine ⟨_, _, _, _, rfl, .opened peers unknown ?_⟩
      simp [quiet, Daemon.Answered.opened?]

theorem enter_change {slug : String} {earlier : List Daemon.Answered}
    (quiet : earlier.filterMap Daemon.Answered.opened? = []) (region : String)
    (listed : Except Failure Organization) (floor : Floor ι) (steps : Nat)
    (unknown : floor.registry.tunnels.get? slug = none) :
    ∃ result after calls rest,
      (floor.registry.enter region slug listed).run (Floor.react answers i)
        (floor.extend i earlier, steps) = ((result, after), floor.extend i calls, rest) ∧
      Change slug floor.registry result after calls := by
  cases listed with
  | error failure =>
    refine ⟨.error failure, _, earlier, steps, rfl, .kept _ quiet ?_⟩
    rintro _ ⟨⟩
  | ok organization =>
    obtain ⟨found, calls, after, preparing, acquired⟩ :=
      (floor.extend i earlier).run_outward answers i (fun _ => Daemon.Call.IsPreparing.isOutward)
        (floor.registry.peers.acquire_preparing organization "" "" region) steps
    rw [enter, Interaction.run_bind, acquired, Floor.extend_extend]
    refine connect_change unknown ?_ organization found floor after
    rw [List.filterMap_append, quiet, List.filterMap_eq_nil_iff.2 fun answered member =>
      Daemon.Answered.opened?_of_preparing (preparing answered member)]
    rfl

-- What establishing a tunnel makes of the registry.
theorem establish_change (answers : ι → Nat → Daemon.Answers) (i : ι) (region slug : String)
    (floor : Floor ι) (steps : Nat) :
    ∃ result after calls rest,
      (floor.registry.establish region slug).run (Floor.react answers i) (floor, steps) =
        ((result, after), floor.extend i calls, rest) ∧
      Change slug floor.registry result after calls := by
  cases known : floor.registry.tunnels.get? slug with
  | some tunnel =>
    rw [establish_of_some known]
    refine ⟨.ok tunnel, floor.registry, [], steps, by simp, .kept _ rfl ?_⟩
    rintro _ ⟨⟩
    exact known
  | none =>
    rw [establish_of_none known, Interaction.run,
      Floor.react_outward (show Daemon.Call.organizations.IsOutward from trivial), Floor.record_eq]
    exact enter_change (by simp [Daemon.Answered.opened?]) region _ floor (steps + 1) known

namespace Change

variable {slug : String} {before after : Registry} {result : Except Failure Tunnel}
  {calls : List Daemon.Answered}

theorem known_after (change : Change slug before result after calls) {tunnel : Tunnel}
    (ok : result = .ok tunnel) : after.tunnels.get? slug = some tunnel := by
  cases change with
  | kept peers quiet known => exact known tunnel ok
  | opened peers unknown opens =>
    cases ok
    simp

theorem persists (change : Change slug before result after calls) {other : String}
    {tunnel : Tunnel} (known : before.tunnels.get? other = some tunnel) :
    after.tunnels.get? other = some tunnel := by
  cases change with
  | kept peers quiet same => exact known
  | opened peers unknown opens =>
    -- Only a slug without a tunnel gets one, so no tunnel is replaced.
    have differ : slug ≠ other := by
      rintro rfl
      exact nomatch unknown.symm.trans known
    simpa [differ] using known

end Change

end Registry

/-! ### One turn after another -/

namespace Floor

variable {ι : Type} {region : String} {requests : ι → Request} {answers : ι → Nat → Daemon.Answers}

-- What is picked of the calls for a slug is picked of the new calls if they are for this slug.
theorem picked_extend {α : Type} (pick : Daemon.Answered → Option α) (slug : String)
    (floor : Floor ι) (i : ι) (calls : List Daemon.Answered) :
    ((floor.extend i calls).calls.filterMap fun (i, answered) =>
        if (requests i).slug = slug then pick answered else none) =
      (floor.calls.filterMap fun (i, answered) =>
        if (requests i).slug = slug then pick answered else none) ++
        if (requests i).slug = slug then calls.filterMap pick else [] := by
  simp only [extend, List.filterMap_append, List.filterMap_map]
  refine congrArg _ ?_
  split
  · next same => exact congrArg (List.filterMap · calls) (funext fun _ => if_pos same)
  · next differ => exact List.filterMap_eq_nil_iff.2 fun _ _ => if_neg differ

theorem opened_extend (slug : String) (floor : Floor ι) (i : ι) (calls : List Daemon.Answered) :
    (floor.extend i calls).opened requests slug =
      floor.opened requests slug ++
        if (requests i).slug = slug then calls.filterMap Daemon.Answered.opened? else [] :=
  picked_extend Daemon.Answered.opened? slug floor i calls

-- A turn is its work, after which the registry is returned.
theorem serve_of_work {floor worked : Floor ι} {i : ι} {result : Except Failure Tunnel}
    {after : Registry} {steps : Nat}
    (work : ((requests i).work region floor.registry).run (Floor.react answers i) (floor, 1) =
      ((result, after), worked, steps)) :
    floor.serve region requests answers i = (result, { worked with registry := after }) := by
  have turn : ((requests i).task region).run (Floor.react answers i) (floor, 0) =
      (result, { worked with registry := after }, steps + 1) := by
    show (((requests i).work region floor.registry).bind Daemon.giveBack).run _ (floor, 1) = _
    rw [Interaction.run_bind, work]
    rfl
  rw [serve, turn]

-- What one turn makes of the floor.
theorem serve_change (region : String) (requests : ι → Request)
    (answers : ι → Nat → Daemon.Answers) (floor : Floor ι) (i : ι) :
    ∃ result after calls,
      floor.serve region requests answers i =
        (result, { floor.extend i calls with registry := after }) ∧
      Registry.Change (requests i).slug floor.registry result after calls := by
  cases asked : requests i with
  | establish slug =>
    obtain ⟨result, after, calls, steps, established, change⟩ :=
      Registry.establish_change answers i region slug floor 1
    exact ⟨result, after, calls, serve_of_work (by rw [asked]; exact established), change⟩
  | tunnelFor slug =>
    refine ⟨floor.registry.tunnelFor slug, floor.registry, [], ?_, .kept _ rfl ?_⟩
    · rw [extend_nil]
      exact serve_of_work (by rw [asked]; rfl)
    · intro tunnel found
      unfold Registry.tunnelFor at found
      split at found
      · next known =>
        cases found
        exact known
      · cases found

-- One turn keeps the sessions that were opened and the tunnels in the registry together.
theorem Faithful.serve {floor : Floor ι} (faithful : floor.Faithful requests) (i : ι) :
    (floor.serve region requests answers i).2.Faithful requests := by
  obtain ⟨result, after, calls, served, change⟩ :=
    floor.serve_change region requests answers i
  intro slug
  rw [served]
  show (floor.extend i calls).opened requests slug = _
  rw [opened_extend, faithful slug]
  cases change with
  | kept peers quiet known => simp [quiet]
  | opened peers unknown opens =>
    by_cases same : (requests i).slug = slug
    · subst same
      simp [unknown, opens]
    · simp [same]

theorem Faithful.initial (requests : ι → Request) (peers : Peers) :
    (⟨.initial peers, []⟩ : Floor ι).Faithful requests :=
  fun _ => rfl

-- What holds after any number of turns from a faithful floor.
theorem Faithful.serveAll {floor : Floor ι} (faithful : floor.Faithful requests) (turns : List ι) :
    (floor.serveAll region requests answers turns).2.Faithful requests := by
  induction turns using List.reverseRecOn with
  | nil => exact faithful
  | append_singleton turns i ih =>
    rw [serveAll_concat]
    exact ih.serve i

theorem get?_serve {floor : Floor ι} {slug : String} {tunnel : Tunnel}
    (known : floor.registry.tunnels.get? slug = some tunnel) (i : ι) :
    (floor.serve region requests answers i).2.registry.tunnels.get? slug = some tunnel := by
  obtain ⟨result, after, calls, served, change⟩ :=
    floor.serve_change region requests answers i
  rw [served]
  exact change.persists known

theorem get?_serveAll_of_prefix {floor : Floor ι} {turns more : List ι} {slug : String}
    {tunnel : Tunnel} (earlier : turns <+: more)
    (known : (floor.serveAll region requests answers turns).2.registry.tunnels.get? slug =
      some tunnel) :
    (floor.serveAll region requests answers more).2.registry.tunnels.get? slug = some tunnel := by
  obtain ⟨others, rfl⟩ := earlier
  induction others using List.reverseRecOn with
  | nil => rwa [List.append_nil]
  | append_singleton others i ih =>
    rw [← List.append_assoc, serveAll_concat]
    exact get?_serve ih i

-- Everybody who gets a tunnel gets the one in the registry.
theorem known_of_mem_serveAll {floor : Floor ι} {turns : List ι} {i : ι} {tunnel : Tunnel}
    (through : (i, .ok tunnel) ∈ (floor.serveAll region requests answers turns).1) :
    (floor.serveAll region requests answers turns).2.registry.tunnels.get? (requests i).slug =
      some tunnel := by
  induction turns using List.reverseRecOn with
  | nil => exact nomatch through
  | append_singleton turns j ih =>
    rw [serveAll_concat] at through ⊢
    rcases List.mem_append.1 through with old | new
    · exact get?_serve (ih old) j
    · obtain ⟨result, after, calls, served, change⟩ :=
        (floor.serveAll region requests answers turns).2.serve_change region requests answers j
      simp only [served, List.mem_singleton, Prod.mk.injEq] at new ⊢
      obtain ⟨rfl, ok⟩ := new
      exact change.known_after ok.symm

end Floor

/-! ### Competing requests -/

namespace Contention

variable {ι : Type} {region : String} {requests : ι → Request} {answers : ι → Nat → Daemon.Answers}
  {start : Floor ι} {state : Contention ι}

theorem Ordered.floor_eq (ordered : Ordered region requests answers start state)
    (free : state.holder = none) :
    state.floor = (start.serveAll region requests answers state.completed).2 := by
  cases ordered with
  | between _ settled same => rwa [completed_of_free free]
  | within i before work calls held last settled same outward doing ahead =>
    exact nomatch free.symm.trans held

-- The registry changes between two turns only.
theorem Ordered.registry_eq (ordered : Ordered region requests answers start state) :
    state.floor.registry =
      (start.serveAll region requests answers state.completed).2.registry := by
  cases ordered with
  | between free settled same => rw [completed_of_free free, same]
  | within i before work calls held last settled same outward doing ahead =>
    rw [completed_of_held held last, same]
    rfl

theorem Ordered.prefix_opened (ordered : Ordered region requests answers start state)
    (slug : String) :
    (start.serveAll region requests answers state.completed).2.opened requests slug <+:
      state.floor.opened requests slug := by
  cases ordered with
  | between free settled same =>
    simpa only [completed_of_free free, same] using List.prefix_rfl
  | within i before work calls held last settled same outward doing ahead =>
    rw [completed_of_held held last, same, Floor.opened_extend]
    exact List.prefix_append ..

-- The calls put within a turn are among those that are put when it is over.
theorem Ordered.prefix_calls (ordered : Ordered region requests answers start state) :
    ∃ turns, state.floor.calls <+: (start.serveAll region requests answers turns).2.calls := by
  cases ordered with
  | between free settled same => exact ⟨state.turns, same ▸ List.prefix_rfl⟩
  | within i before work calls held last settled same outward doing ahead =>
    obtain ⟨outcome, others, steps, _, worked⟩ :=
      state.floor.run_outward answers i (fun _ => id) outward (state.steps i)
    -- The rest of the turn puts more calls, and takes none back.
    have served : ((start.serveAll region requests answers before).2.serve region requests answers
        i).2 = { state.floor.extend i others with registry := outcome.2 } := by
      rw [Floor.serve, ← ahead, Interaction.run_bind, worked]
      rfl
    refine ⟨before ++ [i], ?_⟩
    rw [Floor.serveAll_concat]
    show _ <+: ((start.serveAll region requests answers before).2.serve region requests answers
      i).2.calls
    rw [served]
    exact List.prefix_append ..

theorem Ordered.opened_prefix (ordered : Ordered region requests answers start state)
    (slug : String) :
    ∃ turns, state.floor.opened requests slug <+:
      (start.serveAll region requests answers turns).2.opened requests slug := by
  obtain ⟨turns, earlier⟩ := ordered.prefix_calls
  exact ⟨turns, earlier.filterMap _⟩

theorem Ordered.length_opened_le (ordered : Ordered region requests answers start state)
    (faithful : start.Faithful requests) (slug : String) :
    (state.floor.opened requests slug).length ≤ 1 := by
  obtain ⟨turns, opened⟩ := ordered.opened_prefix slug
  rw [faithful.serveAll turns slug] at opened
  exact Nat.le_trans opened.length_le Option.length_toList_le

theorem Ordered.opened_eq (ordered : Ordered region requests answers start state)
    (faithful : start.Faithful requests) {slug : String} {tunnel : Tunnel}
    (known : state.floor.registry.tunnels.get? slug = some tunnel) :
    state.floor.opened requests slug = [tunnel.session] := by
  have earlier := ordered.prefix_opened slug
  rw [faithful.serveAll, ← ordered.registry_eq, known] at earlier
  exact (earlier.eq_of_length_le (ordered.length_opened_le faithful slug)).symm

-- A tunnel that is in the registry is there ever after.
theorem get?_run [DecidableEq ι] (ordered : Ordered region requests answers start state)
    {slug : String} {tunnel : Tunnel}
    (known : state.floor.registry.tunnels.get? slug = some tunnel) (later : List ι) :
    (state.run answers later).floor.registry.tunnels.get? slug = some tunnel := by
  rw [(ordered.run later).registry_eq]
  rw [ordered.registry_eq] at known
  exact Floor.get?_serveAll_of_prefix (completed_run answers state later) known

/--
However requests compete for the registry, those that are through have the results and leave
the registry that they have one after another, in the order in which they took hold of it. For
each slug at most one tunnel is ever opened. Everybody who gets a tunnel gets this one, and it
stays in the registry.
-/
theorem run_one_tunnel {ι : Type} [DecidableEq ι] (region : String) (requests : ι → Request)
    (answers : ι → Nat → Daemon.Answers) (peers : Peers) (schedule : List ι) :
    let state := (Contention.initial region requests peers).run answers schedule
    let alone := Floor.serveAll region requests answers ⟨.initial peers, []⟩ state.completed
    (state.completed.Nodup ∧
      (∀ i result, state.result? i = some result ↔ (i, result) ∈ alone.1) ∧
      state.floor.registry = alone.2.registry ∧
      (state.holder = none → state.turns = state.completed ∧ state.floor = alone.2)) ∧
    (∀ slug, (state.floor.opened requests slug).length ≤ 1 ∧
      ∀ i tunnel, (requests i).slug = slug → state.result? i = some (.ok tunnel) →
        state.floor.registry.tunnels.get? slug = some tunnel ∧
        state.floor.opened requests slug = [tunnel.session]) ∧
    ∀ slug tunnel, state.floor.registry.tunnels.get? slug = some tunnel →
      ∀ later, (state.run answers later).floor.registry.tunnels.get? slug = some tunnel := by
  intro state alone
  have ordered : Ordered region requests answers ⟨.initial peers, []⟩ state :=
    (Ordered.initial region requests answers peers).run schedule
  have faithful := Floor.Faithful.initial requests peers
  refine ⟨⟨ordered.completed_nodup, ordered.result?_iff, ordered.registry_eq, fun free =>
    ⟨(completed_of_free free).symm, ordered.floor_eq free⟩⟩, fun slug =>
    ⟨ordered.length_opened_le faithful slug, ?_⟩, fun slug tunnel known => get?_run ordered known⟩
  rintro i tunnel rfl through
  have known : state.floor.registry.tunnels.get? (requests i).slug = some tunnel := by
    rw [ordered.registry_eq]
    exact Floor.known_of_mem_serveAll ((ordered.result?_iff i _).1 through)
  exact ⟨known, ordered.opened_eq faithful known⟩

end Contention

end TunnelBroker
