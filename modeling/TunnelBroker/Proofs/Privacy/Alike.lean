import TunnelBroker.Proofs.Daemon.Effect
import TunnelBroker.Proofs.Daemon.Service
import TunnelBroker.Proofs.Privacy.Redaction

/-!
What connections do with private keys. Main statement: a connection goes the same way whatever the
private keys are, provided that the public keys are the same and the world answers alike. Call by
call this is `Daemon.serve_parallel`, and `Daemon.Course.ofTask_parallel` takes it to the calls
that write the peer file.
-/

set_option autoImplicit false

namespace TunnelBroker

/-- Whether the answer to a call leaves out what is in the files. -/
def FileCall.isBlind : FileCall → Bool
  | status .. => false
  | contentOf _ => false
  | _ => true

namespace Daemon

/-- Whether a call has nothing to do with private keys. -/
def Call.isKeyless : Call → Bool
  | organizations => true
  | register .. => true
  | freshName => true
  | lookup .. => true
  | dial .. => true
  | stop => true
  | _ => false

/--
Calls that differ in private keys at most, and how their answers agree then. The public keys are
the same wherever the private keys differ.
-/
inductive Call.Alike :
    (first second : Call) → (first.Answer → second.Answer → Prop) → Prop where
  | takeRegistry : Alike .takeRegistry .takeRegistry
    fun (first second : Registry) => first.redact = second.redact
  | returnRegistry {first second : Registry} (same : first.redact = second.redact) :
    Alike (.returnRegistry first) (.returnRegistry second) (· = ·)
  | freshKey : Alike .freshKey .freshKey
    fun (first second : PrivateKey) => first.publicKey = second.publicKey
  | savePeers {first second : Peers} (same : first.redact = second.redact) :
    Alike (.savePeers first) (.savePeers second) (· = ·)
  | openTunnel {first second : TunnelConfig} (same : first.redact = second.redact) :
    Alike (.openTunnel first) (.openTunnel second) (· = ·)
  | keyless {call : Call} (keyless : call.isKeyless) : Alike call call (· = ·)

/-- Two tasks that go the same way, but for private keys. -/
abbrev Task.Parallel {α β : Type} (post : α → β → Prop) (first : Task α) (second : Task β) : Prop :=
  Interaction.Parallel Call.Alike post first second

section

variable {α β : Type} {post : α → β → Prop}

theorem parallel_ask_keyless {call : Call} (keyless : call.isKeyless)
    {next : call.Answer → Task α} {after : call.Answer → Task β}
    (later : ∀ answer, Task.Parallel post (next answer) (after answer)) :
    Task.Parallel post (.ask call next) (.ask call after) := by
  refine .ask (.keyless keyless) ?_
  rintro answer _ rfl
  exact later answer

end

/-! ### Establishing a tunnel -/

/-- What was found of a peer is the same but for private keys, and so are the peers then. -/
structure FoundAlike (first second : Except Failure Peer × Peers) : Prop where
  peer : first.1.map Peer.redact = second.1.map Peer.redact
  peers : first.2.redact = second.2.redact

/-- The results are the same, and so are the registries but for private keys. -/
structure EndsAlike {α : Type} (first second : α × Registry) : Prop where
  result : first.1 = second.1
  registry : first.2.redact = second.2.redact

end Daemon

open Daemon (Task FoundAlike EndsAlike)

namespace Peers

variable {first second : Peers}

theorem keep_parallel (same : first.redact = second.redact) (slug : String) {peer other : Peer}
    (alike : peer.redact = other.redact) :
    Task.Parallel FoundAlike (first.keep slug peer) (second.keep slug other) := by
  have kept : redact (first.insert slug peer) = redact (second.insert slug other) := by
    rw [redact_insert, redact_insert, same, alike]
  refine .ask (.savePeers kept) ?_
  rintro saved _ rfl
  refine .done ⟨?_, kept⟩
  cases saved with
  | error failure => rfl
  | ok => exact congrArg Except.ok alike

theorem enroll_parallel (same : first.redact = second.redact) (organization : Organization)
    (region name : String) :
    Task.Parallel FoundAlike (first.enroll organization region name)
      (second.enroll organization region name) := by
  refine .ask .freshKey fun key other (shared : key.publicKey = other.publicKey) => ?_
  show Task.Parallel FoundAlike (.ask (.register organization region name key.publicKey) _)
    (.ask (.register organization region name other.publicKey) _)
  -- The directory is told the public key only.
  rw [shared]
  refine Daemon.parallel_ask_keyless rfl fun registered => ?_
  cases registered with
  | error failure => exact .done ⟨rfl, same⟩
  | ok registration =>
    exact keep_parallel same organization.slug
      (Peer.redact_ofRegistration shared organization name region registration)

theorem acquire_parallel (same : first.redact = second.redact) (organization : Organization)
    (region name defaultRegion : String) :
    Task.Parallel FoundAlike (first.acquire organization region name defaultRegion)
      (second.acquire organization region name defaultRegion) := by
  cases known : first.get? organization.slug with
  | some peer =>
    obtain ⟨other, found, alike⟩ := get?_eq_some_of_redact same known
    rw [acquire_of_some known, acquire_of_some found]
    exact .done ⟨congrArg Except.ok alike, same⟩
  | none =>
    rw [acquire_of_none known, acquire_of_none (get?_eq_none_of_redact same known)]
    have named : Task.Parallel (· = ·) (chooseName name) (chooseName name) := by
      unfold chooseName
      split
      · exact Daemon.parallel_ask_keyless rfl fun _ => .done rfl
      · exact .done rfl
    refine named.bind ?_
    rintro chosen _ rfl
    exact enroll_parallel same organization _ chosen

end Peers

namespace Registry

variable {first second : Registry} (same : first.redact = second.redact)

include same

theorem redact_with_peers {peers others : Peers} (alike : peers.redact = others.redact) :
    redact { first with peers := peers } = redact { second with peers := others } :=
  redact_eq_iff.2 ⟨(redact_eq_iff.1 same).1, alike⟩

theorem settle_endsAlike (slug : String) (organization : Organization) {peer other : Peer}
    (alike : peer.redact = other.redact) (opened : Except Failure Nat) :
    EndsAlike (first.settle slug organization peer opened)
      (second.settle slug organization other opened) := by
  obtain ⟨tunnels, peers⟩ := redact_eq_iff.1 same
  cases opened with
  | error failure => exact ⟨rfl, same⟩
  | ok session =>
    have address : peer.redact.address = other.redact.address := congrArg Peer.address alike
    have address : peer.address = other.address := address
    refine ⟨?_, redact_eq_iff.2 ⟨?_, peers⟩⟩
    · simp only [settle, address]
    · simp only [settle, address, tunnels]

theorem connect_parallel (slug : String) (organization : Organization)
    {found other : Except Failure Peer × Peers} (alike : FoundAlike found other) :
    Task.Parallel EndsAlike (first.connect slug organization found)
      (second.connect slug organization other) := by
  obtain ⟨peer, peers⟩ := found
  obtain ⟨fellow, others⟩ := other
  obtain ⟨found, kept⟩ := alike
  have ends := redact_with_peers same kept
  cases peer with
  | error failure =>
    cases fellow with
    | error other => exact .done ⟨congrArg Except.error (Except.error.inj found), ends⟩
    | ok other => cases found
  | ok peer =>
    cases fellow with
    | error failure => cases found
    | ok other =>
      have peers : peer.redact = other.redact := Except.ok.inj found
      have configs : peer.tunnelConfig.redact = other.tunnelConfig.redact := by
        rw [← Peer.redact_tunnelConfig, ← Peer.redact_tunnelConfig, peers]
      refine .ask (.openTunnel configs) ?_
      rintro opened _ rfl
      exact .done (settle_endsAlike ends slug organization peers opened)

theorem establish_parallel (region slug : String) :
    Task.Parallel EndsAlike (first.establish region slug) (second.establish region slug) := by
  obtain ⟨tunnels, peers⟩ := redact_eq_iff.1 same
  cases known : first.tunnels.get? slug with
  | some tunnel =>
    rw [establish_of_some known, establish_of_some (tunnels ▸ known)]
    exact .done ⟨rfl, same⟩
  | none =>
    rw [establish_of_none known, establish_of_none (tunnels ▸ known)]
    refine Daemon.parallel_ask_keyless rfl fun listing => ?_
    cases Organization.find listing slug with
    | error failure => exact .done ⟨rfl, same⟩
    | ok organization =>
      refine (Peers.acquire_parallel peers organization "" "" region).bind fun found other alike => ?_
      exact connect_parallel same slug organization alike

end Registry

/-! ### Connections -/

namespace Daemon

-- Work on alike registries is done alike, from taking them to giving them back.
theorem withRegistry_parallel {α : Type} {work : Registry → Task (α × Registry)}
    (works : ∀ first second : Registry, first.redact = second.redact →
      Task.Parallel EndsAlike (work first) (work second)) :
    Task.Parallel (· = ·) (withRegistry work) (withRegistry work) := by
  refine .ask .takeRegistry fun first second same => ?_
  refine (works first second same).bind fun outcome other ends => ?_
  refine .ask (.returnRegistry ends.registry) fun _ _ _ => ?_
  exact .done ends.result

theorem tunnelFor_parallel (slug : String) :
    Task.Parallel (· = ·) (tunnelFor slug) (tunnelFor slug) := by
  refine withRegistry_parallel fun first second same => .done ⟨?_, same⟩
  simp only [Registry.tunnelFor, (Registry.redact_eq_iff.1 same).1]

theorem Call.IsConnecting.isKeyless {call : Call} (connecting : call.IsConnecting) :
    call.isKeyless := by
  cases call with
  | lookup => rfl
  | dial => rfl
  | _ => exact connecting.elim

theorem dial_parallel (network : Network) (address : String) (budget : Option Duration) :
    Task.Parallel (· = ·) (network.dial address budget) (network.dial address budget) :=
  Interaction.parallel_self (fun _ connecting => .keyless connecting.isKeyless)
    (dial_connecting network address budget)

theorem dialTarget_parallel (daemon : Daemon) (target : Target) :
    Task.Parallel (· = ·) (daemon.dialTarget target) (daemon.dialTarget target) := by
  obtain ⟨organization, address, timeout⟩ := target
  cases organization with
  | none => exact dial_parallel .host address _
  | some slug =>
    refine (tunnelFor_parallel slug).bind ?_
    rintro found _ rfl
    cases found with
    | error failure => exact .done rfl
    | ok tunnel => exact dial_parallel (.tunnel tunnel.session) address _

theorem perform_parallel (daemon : Daemon) (rest : Incoming) (outgoing : Outgoing)
    (command : Command) :
    Task.Parallel (· = ·) (daemon.perform rest outgoing command)
      (daemon.perform rest outgoing command) := by
  cases command with
  | ping => exact .done rfl
  | kill =>
    simp only [perform]
    split
    · exact parallel_ask_keyless rfl fun _ => .done rfl
    · exact .done rfl
  | establish slug =>
    have established : Task.Parallel (· = ·) (establish daemon.region slug)
        (establish daemon.region slug) :=
      withRegistry_parallel fun _ _ same => Registry.establish_parallel same daemon.region slug
    refine established.bind ?_
    rintro result _ rfl
    cases result <;> exact .done rfl
  | connect target =>
    refine (daemon.dialTarget_parallel target).bind ?_
    rintro result _ rfl
    cases result <;> exact .done rfl

theorem serve_parallel (daemon : Daemon) (client : Stream) :
    Task.Parallel (· = ·) (daemon.serve client) (daemon.serve client) := by
  unfold serve
  split
  · exact .done rfl
  · exact .done rfl
  · exact .done rfl
  · split
    · exact .done rfl
    · exact daemon.perform_parallel ..

/-! ### Saves -/

/-- Actions that differ in private keys at most, and how their answers agree then. -/
inductive Action.Alike :
    (first second : Action) → (first.Answer → second.Answer → Prop) → Prop where
  | put {first second : Call} {agree : first.Answer → second.Answer → Prop}
    (alike : Call.Alike first second agree) : Alike (.put first) (.put second) agree
  | file {call : FileCall} (blind : call.isBlind) : Alike (.file call) (.file call) (· = ·)
  | write {first second : Peers} (same : first.redact = second.redact) (inode : Nat)
    (position : WritePosition) :
    Alike (.file (.write inode position (Text.encode first.text)))
      (.file (.write inode position (Text.encode second.text))) (· = ·)
  | saved {first second : Peers} (same : first.redact = second.redact)
    (result : Except Failure Unit) : Alike (.saved first result) (.saved second result) (· = ·)

/-- Two courses of actions that go the same way, but for private keys. -/
abbrev Course.Parallel {α β : Type} (post : α → β → Prop) (first : Course α) (second : Course β) :
    Prop :=
  Interaction.Parallel Action.Alike post first second

namespace Course

variable {α β : Type} {post : α → β → Prop}

theorem ofFiles_parallel {task : FileTask α} (blind : task.Puts (·.isBlind)) :
    Parallel (· = ·) (ofFiles task) (ofFiles task) := by
  induction task with
  | done value => exact .done rfl
  | ask call next ih =>
    refine .ask (.file blind.1) ?_
    rintro answer _ rfl
    exact ih answer (blind.2 answer)

-- Only the text that is written tells two saves apart.
theorem save_parallel {first second : Peers} (same : first.redact = second.redact)
    (directory : Path) :
    Parallel (· = ·) (ofFiles (first.save directory)) (ofFiles (second.save directory)) := by
  refine .ask (.file rfl) ?_
  rintro opened _ rfl
  cases opened with
  | error fault => exact .done rfl
  | ok inode =>
    refine .ask (.write same inode .start) ?_
    rintro written _ rfl
    cases written with
    | error fault => exact ofFiles_parallel ⟨rfl, fun _ => trivial⟩
    | ok =>
      refine ofFiles_parallel ⟨rfl, fun synced => ?_⟩
      cases synced with
      | error fault => exact ⟨rfl, fun _ => trivial⟩
      | ok =>
        refine ⟨rfl, fun renamed => ?_⟩
        cases renamed <;> exact ⟨rfl, fun _ => trivial⟩

theorem ofTask_ask {call : Call} (other : ∀ peers, call ≠ .savePeers peers) (directory : Path)
    (next : call.Answer → Task α) :
    ofTask directory (.ask call next) =
      .ask (.put call) fun answer => ofTask directory (next answer) := by
  cases call with
  | savePeers peers => exact absurd rfl (other peers)
  | _ => rfl

-- What goes the same way call by call does so file call by file call.
theorem ofTask_parallel (directory : Path) {first : Task α} {second : Task β}
    (parallel : Task.Parallel post first second) :
    Parallel post (ofTask directory first) (ofTask directory second) := by
  induction parallel with
  | done ends => exact .done ends
  | @ask call other agree next after alike later ih =>
    have both (notSave : ∀ peers, call ≠ .savePeers peers)
        (notSave' : ∀ peers, other ≠ .savePeers peers) :
        Parallel post (ofTask directory (.ask call next)) (ofTask directory (.ask other after)) := by
      rw [ofTask_ask notSave, ofTask_ask notSave']
      exact .ask (.put alike) ih
    cases alike with
    | savePeers same =>
      refine (save_parallel same directory).bind ?_
      rintro result _ rfl
      exact .ask (.saved same result) fun _ _ _ => ih result result rfl
    | keyless keyless =>
      have notSave (peers : Peers) : call ≠ .savePeers peers := by
        rintro rfl
        cases keyless
      exact both notSave notSave
    | _ => exact both nofun nofun

end Course

end Daemon

end TunnelBroker
