import TunnelBroker.Peer.Acquire
import TunnelBroker.Proofs.Interaction
import Mathlib.Tactic.ByCases

/-!
What finding a peer asks for. A peer that is kept is found without a question; otherwise a
new one is registered, kept, and written to the peer file, in this order.
-/

set_option autoImplicit false

namespace TunnelBroker

/-- Calls that leave the registry where it is. -/
def Daemon.Call.IsOutward : Daemon.Call → Prop
  | takeRegistry => False
  | returnRegistry _ => False
  | _ => True

/-- Calls that neither move the registry nor open a tunnel. -/
def Daemon.Call.IsPreparing : Daemon.Call → Prop
  | takeRegistry => False
  | returnRegistry _ => False
  | openTunnel _ => False
  | _ => True

/-- Calls that find out a peer that is not known, and keep it. -/
def Daemon.Call.IsEnrolling : Daemon.Call → Prop
  | freshName => True
  | freshKey => True
  | register .. => True
  | savePeers _ => True
  | _ => False

theorem Daemon.Call.IsEnrolling.isPreparing {call : Daemon.Call} (enrolling : call.IsEnrolling) :
    call.IsPreparing := by
  cases call <;> trivial

theorem Daemon.Call.IsPreparing.isOutward {call : Daemon.Call} (preparing : call.IsPreparing) :
    call.IsOutward := by
  cases call <;> trivial

namespace Peers

def chooseName (name : String) : Daemon.Task String :=
  if name.isEmpty then .ask .freshName .done else .done name

def keep (peers : Peers) (slug : String) (peer : Peer) :
    Daemon.Task (Except Failure Peer × Peers) :=
  .ask (.savePeers (peers.insert slug peer)) fun saved =>
    .done (saved.map fun _ => peer, peers.insert slug peer)

def registerFailure (slug : String) (failure : Failure) : Failure :=
  .directory ("can't register peer for " ++ slug ++ ": " ++ failure.message)

def accept (peers : Peers) (organization : Organization) (region name : String) (keys : KeyPair) :
    Except Failure Registration → Daemon.Task (Except Failure Peer × Peers)
  | .error failure => .done (.error (registerFailure organization.slug failure), peers)
  | .ok registration =>
    peers.keep organization.slug (.ofRegistration organization name region keys registration)

def enroll (peers : Peers) (organization : Organization) (region name : String) :
    Daemon.Task (Except Failure Peer × Peers) :=
  .ask .freshKey fun key =>
    let keys := KeyPair.ofPrivate key
    .ask (.register organization region name keys.publicKey)
      (peers.accept organization region name keys)

/-- What is kept in one table is kept in the other. -/
def Within (first second : Peers) : Prop :=
  ∀ slug peer, first.get? slug = some peer → second.get? slug = some peer

theorem Within.trans {first second third : Peers} (here : first.Within second)
    (there : second.Within third) : first.Within third :=
  fun slug peer found => there slug peer (here slug peer found)

theorem within_insert {peers : Peers} {slug : String} (unknown : peers.get? slug = none)
    (peer : Peer) : peers.Within (peers.insert slug peer) := by
  intro other found isThere
  have differ : slug ≠ other := by
    rintro rfl
    cases unknown.symm.trans isThere
  rw [Table.get?_insert, if_neg differ, isThere]

variable {peers : Peers} {organization : Organization}

theorem acquire_of_some {peer : Peer} (known : peers.get? organization.slug = some peer)
    (region name defaultRegion : String) :
    peers.acquire organization region name defaultRegion = .done (.ok peer, peers) := by
  simp only [acquire, known]

theorem acquire_of_none (unknown : peers.get? organization.slug = none)
    (region name defaultRegion : String) :
    peers.acquire organization region name defaultRegion =
      (chooseName name).bind
        (peers.enroll organization (if region.isEmpty then defaultRegion else region)) := by
  unfold Peers.acquire chooseName
  simp only [unknown]
  split
  on_goal 1 => refine congrArg (Interaction.ask _) (funext fun name => ?_)
  -- From here on the name is chosen, whichever way.
  all_goals
    refine congrArg (Interaction.ask _) (funext fun key => ?_)
    refine congrArg (Interaction.ask _) (funext fun answer => ?_)
    cases answer with
    | error failure => rfl
    | ok registration =>
      refine congrArg (Interaction.ask _) (funext fun saved => ?_)
      cases saved <;> rfl

theorem acquire_enrolling (peers : Peers) (organization : Organization)
    (region name defaultRegion : String) :
    (peers.acquire organization region name defaultRegion).Puts Daemon.Call.IsEnrolling := by
  cases known : peers.get? organization.slug with
  | some peer =>
    rw [acquire_of_some known]
    trivial
  | none =>
    rw [acquire_of_none known]
    refine Interaction.Puts.bind ?_ fun name => ⟨trivial, fun key => ⟨trivial, fun answer => ?_⟩⟩
    · unfold chooseName
      split
      · exact ⟨trivial, fun _ => trivial⟩
      · trivial
    · cases answer with
      | error failure => trivial
      | ok registration => exact ⟨trivial, fun _ => trivial⟩

theorem acquire_preparing (peers : Peers) (organization : Organization)
    (region name defaultRegion : String) :
    (peers.acquire organization region name defaultRegion).Puts Daemon.Call.IsPreparing :=
  (peers.acquire_enrolling ..).imp fun _ => Daemon.Call.IsEnrolling.isPreparing

end Peers

end TunnelBroker
