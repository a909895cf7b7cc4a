import TunnelBroker.Proofs.Privacy.Alike

/-!
Private keys are kept to themselves. Main statement: two daemons that differ in the bytes of
private keys at most, and that the world treats alike, go the same way: nothing that clients, the
directory or the networks get to see tells them apart, and neither do diagnostics.
-/

set_option autoImplicit false

namespace TunnelBroker

namespace Daemon

/-- An action that was taken, and its answer. -/
structure Acted where
  action : Action
  answer : action.Answer

/-- The actions differ in private keys at most, and the answers agree. -/
def Acted.Alike (first second : Acted) : Prop :=
  ∃ agree, Action.Alike first.action second.action agree ∧ agree first.answer second.answer

namespace Acted

/-- What the directory and the networks see: the calls that have nothing to do with private keys. -/
def public? (acted : Acted) : Option Acted :=
  match acted with
  | ⟨.put call, answer⟩ => if call.isKeyless then some ⟨.put call, answer⟩ else none
  | _ => none

/-- What is shown of a tunnel that is opened. -/
def config? (acted : Acted) : Option String :=
  match acted.action with
  | .put (.openTunnel config) => some config.debug
  | _ => none

variable {first second : Acted}

theorem Alike.public?_eq (alike : first.Alike second) : first.public? = second.public? := by
  obtain ⟨action, answer⟩ := first
  obtain ⟨other, reply⟩ := second
  obtain ⟨agree, alike, agreed⟩ := alike
  cases alike with
  | put alike =>
    cases alike with
    | keyless keyless =>
      cases agreed
      rfl
    | _ => rfl
  | _ => rfl

theorem Alike.config?_eq (alike : first.Alike second) : first.config? = second.config? := by
  obtain ⟨action, answer⟩ := first
  obtain ⟨other, reply⟩ := second
  obtain ⟨agree, alike, -⟩ := alike
  cases alike with
  | put alike =>
    cases alike with
    | @openTunnel config fellow same =>
      refine congrArg some ?_
      rw [← config.debug_redact, same, fellow.debug_redact]
    | _ => rfl
  | _ => rfl

end Acted

end Daemon

open Daemon (Action Course Acted Served)

/-- Actions that are put to the world. The others are between a connection and its daemon. -/
def Daemon.Action.IsPlain : Action → Prop
  | put .takeRegistry => False
  | put (.returnRegistry _) => False
  | put .stop => False
  | _ => True

theorem Daemon.Action.Alike.isPlain {action fellow : Action}
    {agree : action.Answer → fellow.Answer → Prop} (asked : Action.Alike action fellow agree)
    (plain : action.IsPlain) : fellow.IsPlain := by
  cases asked with
  | put alike => cases alike <;> exact plain
  | _ => trivial

/-- How the world answers actions, by all that it has seen so far. -/
abbrev World (ι : Type) : Type := List (ι × Acted) → ι → (action : Action) → action.Answer

/-- A daemon that serves connections, each with what is left to do, action by action. -/
structure Attendance (ι : Type) where
  registry : Registry
  holder : Option ι
  stopping : Bool
  history : List (ι × Acted)
  rest : ι → Course Served

section

variable {ι : Type}

/-- The same connections have put the same to the world, but for private keys. -/
def HistoriesAlike (first second : List (ι × Acted)) : Prop :=
  List.Forall₂ (fun entry other => entry.1 = other.1 ∧ entry.2.Alike other.2) first second

/-- Two worlds that do not let private keys make a difference. -/
def World.Alike (first second : World ι) : Prop :=
  ∀ earlier former, HistoriesAlike earlier former → ∀ i action other agree,
    Action.Alike action other agree → action.IsPlain →
      agree (first earlier i action) (second former i other)

end

namespace Attendance

variable {ι : Type}

def opened (directory : Path) (daemon : Daemon) (clients : ι → Stream) (registry : Registry) :
    Attendance ι where
  registry := registry
  holder := none
  stopping := false
  history := []
  rest := fun i => .ofTask directory (daemon.serve (clients i))

structure Alike (first second : Attendance ι) : Prop where
  registry : first.registry.redact = second.registry.redact
  holder : first.holder = second.holder
  stopping : first.stopping = second.stopping
  history : HistoriesAlike first.history second.history
  rest : ∀ i, Course.Parallel (· = ·) (first.rest i) (second.rest i)

theorem Alike.opened (directory : Path) (daemon : Daemon) (clients : ι → Stream)
    {registry fellow : Registry} (same : registry.redact = fellow.redact) :
    (opened directory daemon clients registry).Alike (opened directory daemon clients fellow) where
  registry := same
  holder := rfl
  stopping := rfl
  history := .nil
  rest := fun i => Course.ofTask_parallel directory (daemon.serve_parallel (clients i))

def record (state : Attendance ι) (world : World ι) (i : ι) (action : Action) : Attendance ι :=
  { state with history := state.history ++ [(i, ⟨action, world state.history i action⟩)] }

theorem Alike.record {first second : Attendance ι} (alike : first.Alike second)
    {world other : World ι} {i : ι} {action fellow : Action}
    {agree : action.Answer → fellow.Answer → Prop} (asked : Action.Alike action fellow agree)
    (agreed : agree (world first.history i action) (other second.history i fellow)) :
    (first.record world i action).Alike (second.record other i fellow) where
  registry := alike.registry
  holder := alike.holder
  stopping := alike.stopping
  history := List.rel_append alike.history (.cons ⟨rfl, agree, asked, agreed⟩ .nil)
  rest := alike.rest

def served? (state : Attendance ι) (i : ι) : Option Served :=
  match state.rest i with
  | .done served => some served
  | .ask .. => none

/-- What part of the history shows, and of which connections. -/
def seen {β : Type} (part : Acted → Option β) (state : Attendance ι) : List (ι × β) :=
  state.history.filterMap fun (i, acted) => (part acted).map (i, ·)

/--
Clients, the directory and the networks see the same of two daemons, and so do those who read
diagnostics. What the daemons keep is the same, but for private keys.
-/
structure Indistinguishable (first second : Attendance ι) : Prop where
  served : ∀ i, first.served? i = second.served? i
  published : first.seen Acted.public? = second.seen Acted.public?
  configs : first.seen Acted.config? = second.seen Acted.config?
  stopping : first.stopping = second.stopping
  peers : ∀ place, first.registry.peers.debug place = second.registry.peers.debug place
  peer : ∀ slug, (first.registry.peers.get? slug).map Peer.debug =
    (second.registry.peers.get? slug).map Peer.debug
  config : ∀ slug, (first.registry.peers.get? slug).map (·.tunnelConfig.debug) =
    (second.registry.peers.get? slug).map (·.tunnelConfig.debug)
  registry : first.registry.redact = second.registry.redact

section

variable {first second : Attendance ι} (alike : first.Alike second)

include alike

theorem Alike.served?_eq (i : ι) : first.served? i = second.served? i := by
  have mine := alike.rest i
  unfold served?
  generalize first.rest i = rest at mine
  generalize second.rest i = others at mine
  cases mine with
  | done same => exact congrArg some same
  | ask => rfl

theorem Alike.seen_eq {β : Type} {part : Acted → Option β}
    (same : ∀ {acted other : Acted}, acted.Alike other → part acted = part other) :
    first.seen part = second.seen part := by
  have histories := alike.history
  unfold seen
  generalize first.history = history at histories
  generalize second.history = others at histories
  induction histories with
  | nil => rfl
  | cons entries _ ih => simp only [List.filterMap_cons, entries.1, same entries.2, ih]

-- What is shown of a peer is shown of it without its private key, too.
theorem Alike.peer_eq {β : Type} {shown : Peer → β} (blind : ∀ peer, shown peer.redact = shown peer)
    (slug : String) : (first.registry.peers.get? slug).map shown =
      (second.registry.peers.get? slug).map shown := by
  have peers := congrArg (Option.map shown)
    (Peers.redact_get? (Registry.redact_eq_iff.1 alike.registry).2 slug)
  simpa only [Option.map_map, Function.comp_def, blind] using peers

theorem Alike.indistinguishable : first.Indistinguishable second where
  served := alike.served?_eq
  published := alike.seen_eq Acted.Alike.public?_eq
  configs := alike.seen_eq Acted.Alike.config?_eq
  stopping := alike.stopping
  peers := fun place => by
    rw [← Peers.debug_redact, (Registry.redact_eq_iff.1 alike.registry).2, Peers.debug_redact]
  peer := alike.peer_eq Peer.debug_redact
  config := alike.peer_eq fun peer => peer.tunnelConfig.debug_redact
  registry := alike.registry

end

variable [DecidableEq ι]

def proceed (state : Attendance ι) (i : ι) (rest : Course Served) : Attendance ι :=
  { state with rest := Function.update state.rest i rest }

/--
Connection `i` goes on by one action. It stays where it is if it waits for the registry while
somebody has hold of it, or if nothing is left to do.
-/
def step (world : World ι) (state : Attendance ι) (i : ι) : Attendance ι :=
  match state.rest i with
  | .done _ => state
  | .ask (.put .takeRegistry) next =>
    match state.holder with
    | some _ => state
    | none => { state with holder := some i }.proceed i (next state.registry)
  | .ask (.put (.returnRegistry registry)) next =>
    { state with holder := none, registry }.proceed i (next ())
  | .ask (.put .stop) next => { state with stopping := true }.proceed i (next ())
  | .ask action next =>
    (state.record world i action).proceed i (next (world state.history i action))

def run (world : World ι) (state : Attendance ι) (schedule : List ι) : Attendance ι :=
  schedule.foldl (step world) state

section

variable {state : Attendance ι} {world : World ι} {i : ι}

theorem step_done {served : Served} (rest : state.rest i = .done served) :
    state.step world i = state := by
  simp only [step, rest]

theorem step_held {next : Registry → Course Served} {holder : ι}
    (rest : state.rest i = .ask (.put .takeRegistry) next) (held : state.holder = some holder) :
    state.step world i = state := by
  simp only [step, rest, held]

theorem step_free {next : Registry → Course Served}
    (rest : state.rest i = .ask (.put .takeRegistry) next) (free : state.holder = none) :
    state.step world i = { state with holder := some i }.proceed i (next state.registry) := by
  simp only [step, rest, free]

theorem step_return {registry : Registry} {next : Unit → Course Served}
    (rest : state.rest i = .ask (.put (.returnRegistry registry)) next) :
    state.step world i = { state with holder := none, registry }.proceed i (next ()) := by
  simp only [step, rest]

theorem step_stop {next : Unit → Course Served} (rest : state.rest i = .ask (.put .stop) next) :
    state.step world i = { state with stopping := true }.proceed i (next ()) := by
  simp only [step, rest]

theorem step_plain {action : Action} {next : action.Answer → Course Served} (plain : action.IsPlain)
    (rest : state.rest i = .ask action next) :
    state.step world i =
      (state.record world i action).proceed i (next (world state.history i action)) := by
  unfold step
  rw [rest]
  cases action with
  | put call =>
    cases call with
    | takeRegistry => exact plain.elim
    | returnRegistry registry => exact plain.elim
    | stop => exact plain.elim
    | _ => rfl
  | _ => rfl

end

variable {first second : Attendance ι} {world other : World ι}

theorem Alike.proceed (alike : first.Alike second) {rest others : Course Served}
    (mine : Course.Parallel (· = ·) rest others) (i : ι) :
    (first.proceed i rest).Alike (second.proceed i others) where
  registry := alike.registry
  holder := alike.holder
  stopping := alike.stopping
  history := alike.history
  rest := by
    intro j
    show Course.Parallel _ (Function.update first.rest i rest j)
      (Function.update second.rest i others j)
    by_cases differ : j = i
    · subst differ
      rwa [Function.update_self, Function.update_self]
    · rw [Function.update_of_ne differ, Function.update_of_ne differ]
      exact alike.rest j

theorem Alike.step (alike : first.Alike second) (worlds : World.Alike world other) (i : ι) :
    (first.step world i).Alike (second.step other i) := by
  have mine := alike.rest i
  generalize here : first.rest i = rest at mine
  generalize there : second.rest i = others at mine
  cases mine with
  | done same =>
    rw [step_done here, step_done there]
    exact alike
  | @ask action fellow agree next after asked later =>
    by_cases plain : action.IsPlain
    · have agreed := worlds _ _ alike.history i _ _ _ asked plain
      rw [step_plain plain here, step_plain (asked.isPlain plain) there]
      exact (alike.record asked agreed).proceed (later _ _ agreed) i
    -- What is left is between the connection and its daemon.
    · cases asked with
      | put calls =>
        cases calls with
        | takeRegistry =>
          cases held : first.holder with
          | some holder =>
            rw [step_held here held, step_held there (alike.holder ▸ held)]
            exact alike
          | none =>
            rw [step_free here held, step_free there (alike.holder ▸ held)]
            have taken : Alike { first with holder := some i } { second with holder := some i } :=
              ⟨alike.registry, rfl, alike.stopping, alike.history, alike.rest⟩
            exact taken.proceed (later _ _ alike.registry) i
        | @returnRegistry given back same =>
          rw [step_return here, step_return there]
          have returned : Alike { first with holder := none, registry := given }
              { second with holder := none, registry := back } :=
            ⟨same, rfl, alike.stopping, alike.history, alike.rest⟩
          exact returned.proceed (later _ _ rfl) i
        | keyless keyless =>
          rename_i call
          cases call with
          | stop =>
            rw [step_stop here, step_stop there]
            have stopped : Alike { first with stopping := true } { second with stopping := true } :=
              ⟨alike.registry, alike.holder, rfl, alike.history, alike.rest⟩
            exact stopped.proceed (later _ _ rfl) i
          | takeRegistry => cases keyless
          | returnRegistry registry => cases keyless
          | _ => exact absurd trivial plain
        | _ => exact absurd trivial plain
      | _ => exact absurd trivial plain

theorem Alike.run (alike : first.Alike second) (worlds : World.Alike world other)
    (schedule : List ι) : (first.run world schedule).Alike (second.run other schedule) := by
  induction schedule generalizing first second with
  | nil => exact alike
  | cons i schedule ih => exact ih (alike.step worlds i)

/--
Serve the same clients twice, side by side in any order, by daemons whose registries differ in
private keys at most, and in worlds that do not let private keys make a difference but may give
new ones. At all times, the two cannot be told apart.
-/
theorem private_keys_stay_private (directory : Path) (daemon : Daemon) (clients : ι → Stream)
    {registry fellow : Registry} (same : registry.redact = fellow.redact)
    {world other : World ι} (worlds : World.Alike world other) (schedule : List ι) :
    ((opened directory daemon clients registry).run world schedule).Indistinguishable
      ((opened directory daemon clients fellow).run other schedule) :=
  ((Alike.opened directory daemon clients same).run worlds schedule).indistinguishable

end Attendance

/-- Nothing is wrong with the files. -/
def FileCall.obliging : (call : FileCall) → call.Answer
  | .user => 1000
  | .status .. => .error .notFound
  | .makeDirectory _ => .ok ()
  | .setMode .. => .ok ()
  | .openFile .. => .ok 1
  | .write .. => .ok ()
  | .sync _ => .ok ()
  | .rename .. => .ok ()
  | .unlink _ => .ok ()
  | .contentOf _ => .error .notFound
  | .listen _ => .ok 1
  | .close _ => ()

/-- All goes well for the two organizations that there are. New private keys are `key`. -/
def World.obliging {ι : Type} (key : PrivateKey) : World ι
  | _, _, .put .freshKey => key
  | _, _, .put .organizations => .ok [⟨"1", "acme", "Acme"⟩, ⟨"2", "beta", "Beta"⟩]
  | _, _, .put call => Daemon.obliging call
  | _, _, .file call => call.obliging
  | _, _, .saved .. => ()

theorem World.Alike.obliging {ι : Type} {key other : PrivateKey}
    (shared : key.publicKey = other.publicKey) :
    World.Alike (World.obliging key : World ι) (World.obliging other) := by
  intro earlier former _ i action fellow agree asked plain
  cases asked with
  | put alike =>
    cases alike with
    | freshKey => exact shared
    | takeRegistry => exact plain.elim
    | returnRegistry => exact plain.elim
    | savePeers => rfl
    | openTunnel => rfl
    | keyless keyless =>
      rename_i call
      cases call with
      | freshKey => cases keyless
      | _ => rfl
  | _ => rfl

namespace Attendance

/-- No tunnel is established, but there is the peer of Beta with a private key. -/
def betaWith (key : PrivateKey) : Registry :=
  .initial (Table.insert ∅ "beta" (.ofRegistration ⟨"2", "beta", "Beta"⟩ "laptop" "iad"
    (.ofPrivate key) ⟨.v4 ⟨10, 0, 0, 3⟩, "gateway:51820", PrivateKey.blank.publicKey, none⟩))

/-- A client that asks for the tunnel to Acme, and one that asks for the one to Beta. -/
def eager (acme : Bool) : Stream :=
  ⟨⟨[Text.encode (if acme then "establish acme\n" else "establish beta\n")], .closed⟩, .unlimited⟩

/-- A private key that differs in a bit that its public key does not depend on. -/
def twin : PrivateKey :=
  ⟨Curve25519.toLittleEndian 1 32, Curve25519.length_toLittleEndian 1 32⟩

/-- Both clients were served to their end, the one that needs a new private key first. -/
def eagerlyServed (key : PrivateKey) : Attendance Bool :=
  (opened (.ofText "/state") ⟨1, "iad", none⟩ eager (betaWith key)).run (.obliging key)
    (List.replicate 20 true ++ List.replicate 20 false)

/-- Both tunnels are opened, and nothing tells the keys apart. -/
theorem twin_stays_private :
    PrivateKey.blank ≠ twin ∧
    ((eagerlyServed .blank).seen Acted.config?).map (·.1) = [true, false] ∧
    (eagerlyServed .blank).Indistinguishable (eagerlyServed twin) := by
  have clamped : Curve25519.clamp (Curve25519.ofLittleEndian PrivateKey.blank.bytes) =
      Curve25519.clamp (Curve25519.ofLittleEndian twin.bytes) := by
    decide +kernel
  have shared : PrivateKey.blank.publicKey = twin.publicKey := by
    simp only [PrivateKey.publicKey, Curve25519.publicKey, clamped]
  have same : (betaWith .blank).redact = (betaWith twin).redact := by
    refine Registry.redact_eq_iff.2 ⟨rfl, ?_⟩
    show Peers.redact (Table.insert ∅ ..) = Peers.redact (Table.insert ∅ ..)
    rw [Peers.redact_insert, Peers.redact_insert, Peer.redact_ofRegistration shared]
  refine ⟨by decide, by decide +kernel, ?_⟩
  exact private_keys_stay_private (.ofText "/state") ⟨1, "iad", none⟩ eager same
    (.obliging shared) (List.replicate 20 true ++ List.replicate 20 false)

end Attendance

end TunnelBroker
