import TunnelBroker.Proofs.Peer.Acquire
import TunnelBroker.Proofs.Peer.File
import TunnelBroker.Proofs.Registry.Turns
import Mathlib.Data.List.Induction

/-!
Peers in memory and in the peer file. Peers are asked for one after another, the directory
answers as it likes, and every step of every save may go wrong. Main statement: the peer
file keeps what the latest save wrote that went well, so memory and file agree after every
enquiry if and only if no save fails.
-/

set_option autoImplicit false

namespace TunnelBroker

structure Enquiry where
  organization : Organization
  region : String
  name : String
  defaultRegion : String

/-- How calls are answered, and what goes wrong with the steps of a save, by their numbers. -/
structure Surroundings where
  answers : Nat → Daemon.Answers
  mishaps : Nat → Nat → Option Mishap

structure Keeping where
  peers : Peers
  files : FileSystem
  calls : Nat
  saves : List (Peers × Except Failure Unit)

namespace Keeping

def loaded (peers : Peers) (files : FileSystem) : Keeping := ⟨peers, files, 0, []⟩

/-- What the peer file keeps: what was last saved, or else loaded. -/
def stored (loaded : Peers) : List (Peers × Except Failure Unit) → Peers
  | [] => loaded
  | (peers, .ok _) :: _ => peers
  | (_, .error _) :: saves => stored loaded saves

variable (surroundings : Surroundings) (directory : Path)

def react : Interaction.Handler Daemon.Call Daemon.Call.Answer Keeping
  | .savePeers peers, keeping =>
    let (result, files, _) := (Peers.save directory peers).run
      (FileSystem.falter (surroundings.mishaps keeping.calls)) (keeping.files, 0)
    (result, { keeping with
      files
      calls := keeping.calls + 1
      saves := (peers, result) :: keeping.saves })
  | call, keeping =>
    (surroundings.answers keeping.calls call, { keeping with calls := keeping.calls + 1 })

def enquire (keeping : Keeping) (enquiry : Enquiry) : Except Failure Peer × Keeping :=
  let ((result, peers), keeping) := (keeping.peers.acquire enquiry.organization enquiry.region
    enquiry.name enquiry.defaultRegion).run (react surroundings directory) keeping
  (result, { keeping with peers })

def after (keeping : Keeping) (enquiries : List Enquiry) : Keeping :=
  enquiries.foldl (fun keeping enquiry => (keeping.enquire surroundings directory enquiry).2)
    keeping

/-- Loading the peer file now gives what is in memory. -/
def Agrees (keeping : Keeping) : Prop :=
  (keeping.files.run (Peers.load directory)).1 = .ok keeping.peers

/-! ### One enquiry -/

/-- What comes of asking for the peer of an organization. -/
inductive Enquired (keeping : Keeping) (slug : String) :
    Except Failure Peer → Keeping → Prop where
  | known {peer : Peer} (known : keeping.peers.get? slug = some peer) :
    Enquired keeping slug (.ok peer) keeping
  | refused (failure : Failure) (calls : Nat) :
    Enquired keeping slug (.error failure) { keeping with calls := calls }
  | saved (unknown : keeping.peers.get? slug = none) (peer : Peer) {calls : Nat}
    {files : FileSystem} {steps : Nat} {mishaps : Nat → Option Mishap}
    {result : Except Failure Unit}
    (saved : (Peers.save directory (keeping.peers.insert slug peer)).run
      (FileSystem.falter mishaps) (keeping.files, 0) = (result, files, steps)) :
    Enquired keeping slug (result.map fun _ => peer)
      ⟨keeping.peers.insert slug peer, files, calls,
        (keeping.peers.insert slug peer, result) :: keeping.saves⟩

variable {surroundings directory}

theorem enroll_enquired (keeping : Keeping) (organization : Organization)
    (unknown : keeping.peers.get? organization.slug = none) (region name : String) (calls : Nat) :
    ∃ result peers between,
      (keeping.peers.enroll organization region name).run (react surroundings directory)
        { keeping with calls := calls } = ((result, peers), between) ∧
      Enquired directory keeping organization.slug result { between with peers } := by
  unfold Peers.enroll
  rw [Interaction.run_ask, Interaction.run_ask]
  dsimp only [react]
  generalize surroundings.answers (calls + 1) (.register organization region name _) = answer
  cases answer with
  | error failure => exact ⟨_, _, _, rfl, .refused _ _⟩
  | ok registration =>
    unfold Peers.accept Peers.keep
    rw [Interaction.run_ask]
    dsimp only [react]
    exact ⟨_, _, _, rfl, .saved unknown _ rfl⟩

theorem enquired (surroundings : Surroundings) (keeping : Keeping) (enquiry : Enquiry) :
    Enquired directory keeping enquiry.organization.slug
      (keeping.enquire surroundings directory enquiry).1
      (keeping.enquire surroundings directory enquiry).2 := by
  unfold enquire
  cases known : keeping.peers.get? enquiry.organization.slug with
  | some peer =>
    rw [Peers.acquire_of_some known]
    exact .known known
  | none =>
    rw [Peers.acquire_of_none known, Interaction.run_bind]
    have named : ∃ name calls, (Peers.chooseName enquiry.name).run (react surroundings directory)
        keeping = (name, { keeping with calls := calls }) := by
      unfold Peers.chooseName
      split
      · exact ⟨_, _, rfl⟩
      · exact ⟨_, _, rfl⟩
    obtain ⟨name, calls, named⟩ := named
    rw [named]
    obtain ⟨result, peers, between, enrolled, enquired⟩ :=
      @enroll_enquired surroundings directory keeping enquiry.organization known
        (if enquiry.region.isEmpty then enquiry.defaultRegion else enquiry.region) name calls
    rw [enrolled]
    exact enquired

/-! ### Memory and file -/

/-- The file keeps what was stored, which is what is in memory unless the latest save failed. -/
structure Sound (directory : Path) (loaded : Peers) (keeping : Keeping) : Prop where
  own : Peers.IsOwn keeping.files directory
  holds : Peers.Holds keeping.files directory (stored loaded keeping.saves)
  within : (stored loaded keeping.saves).Within keeping.peers
  latest : stored loaded keeping.saves = keeping.peers ↔
    ∀ save ∈ keeping.saves.head?, save.2 = .ok ()

theorem Sound.step {loaded : Peers} {keeping later : Keeping} {slug : String}
    {result : Except Failure Peer} (sound : Sound directory loaded keeping)
    (enquired : Enquired directory keeping slug result later) : Sound directory loaded later := by
  cases enquired with
  | known known => exact sound
  | refused failure calls => exact ⟨sound.own, sound.holds, sound.within, sound.latest⟩
  | @saved unknown peer calls files steps mishaps result saved =>
    have outcome := Peers.run_save mishaps 0 sound.holds sound.own
      (keeping.peers.insert slug peer)
    rw [saved] at outcome
    obtain ⟨own, holds⟩ := outcome
    have grown := Peers.within_insert unknown peer
    cases result with
    | ok _ =>
      -- What was saved is what is in memory.
      exact ⟨own, holds, fun _ _ => id, by simp [stored]⟩
    | error failure =>
      refine ⟨own, holds, sound.within.trans grown, ?_⟩
      -- The new peer is in memory only.
      have differ : stored loaded keeping.saves ≠ keeping.peers.insert slug peer := by
        intro same
        have inserted : (keeping.peers.insert slug peer).get? slug = some peer := by simp
        have known := sound.within slug peer (same ▸ inserted)
        cases unknown.symm.trans known
      simpa [stored] using differ

theorem sound_loaded {files after : FileSystem} {peers : Peers}
    (done : files.run (Peers.load directory) = (.ok peers, after))
    (own : Peers.IsOwn after directory) : Sound directory peers (loaded peers after) where
  own := own
  holds := Peers.holds_of_run_load done
  within := fun _ _ => id
  latest := by simp [loaded, stored]

theorem Sound.after {peers : Peers} {keeping : Keeping} (sound : Sound directory peers keeping)
    (surroundings : Surroundings) (enquiries : List Enquiry) :
    Sound directory peers (keeping.after surroundings directory enquiries) := by
  induction enquiries generalizing keeping with
  | nil => exact sound
  | cons enquiry enquiries ih => exact ih (sound.step (enquired surroundings keeping enquiry))

theorem Sound.agrees_iff {peers : Peers} {keeping : Keeping}
    (sound : Sound directory peers keeping) :
    keeping.Agrees directory ↔ ∀ save ∈ keeping.saves.head?, save.2 = .ok () := by
  rw [Agrees, sound.holds.run_load, ← sound.latest, Except.ok.injEq]

theorem Enquired.saves_eq {keeping later : Keeping} {slug : String} {result : Except Failure Peer}
    (enquired : Enquired directory keeping slug result later) :
    later.saves = keeping.saves ∨ ∃ save, later.saves = save :: keeping.saves := by
  cases enquired with
  | known known => exact .inl rfl
  | refused failure calls => exact .inl rfl
  | saved unknown peer saved => exact .inr ⟨_, rfl⟩

theorem after_concat (keeping : Keeping) (enquiries : List Enquiry) (enquiry : Enquiry) :
    keeping.after surroundings directory (enquiries ++ [enquiry]) =
      ((keeping.after surroundings directory enquiries).enquire surroundings directory enquiry).2 := by
  rw [Keeping.after, List.foldl_append]
  rfl

-- Memory and file agree all along if and only if every save goes well.
theorem Sound.always_agrees_iff {peers : Peers} {keeping : Keeping}
    (sound : Sound directory peers keeping) (fresh : keeping.saves = [])
    (surroundings : Surroundings) (enquiries : List Enquiry) :
    (∀ earlier, earlier <+: enquiries →
        (keeping.after surroundings directory earlier).Agrees directory) ↔
      ∀ save ∈ (keeping.after surroundings directory enquiries).saves, save.2 = .ok () := by
  induction enquiries using List.reverseRecOn with
  | nil =>
    simp only [List.prefix_nil, forall_eq]
    rw [(sound.after surroundings []).agrees_iff]
    simp [Keeping.after, fresh]
  | append_singleton enquiries enquiry ih =>
    have now := (sound.after surroundings (enquiries ++ [enquiry])).agrees_iff
    have grown := (@enquired directory surroundings
      (keeping.after surroundings directory enquiries) enquiry).saves_eq
    rw [← after_concat] at grown
    simp only [List.prefix_concat_iff, forall_eq_or_imp]
    rw [ih, now]
    rcases grown with same | ⟨save, grown⟩
    · rw [same]
      refine ⟨And.right, fun all => ⟨fun save first => ?_, all⟩⟩
      exact all save (List.mem_of_mem_head? first)
    · rw [grown]
      simp

-- What an enquiry that fails, or that succeeds, has done to memory and file.
theorem Sound.enquire {peers : Peers} {keeping : Keeping} (sound : Sound directory peers keeping)
    (surroundings : Surroundings) (enquiry : Enquiry) :
    let next := keeping.enquire surroundings directory enquiry
    (∀ failure, next.1 = .error failure →
        (next.2.files.run (Peers.load directory)).1 =
            (keeping.files.run (Peers.load directory)).1 ∧
          (next.2.peers = keeping.peers ↔ next.2.saves = keeping.saves)) ∧
      ∀ peer, next.1 = .ok peer →
        next.2.peers.get? enquiry.organization.slug = some peer ∧
          (next.2.saves ≠ keeping.saves → next.2.Agrees directory) := by
  have enquired := @enquired directory surroundings keeping enquiry
  intro next
  have later : Sound directory peers next.2 := sound.step enquired
  rw [later.agrees_iff, later.holds.run_load, sound.holds.run_load]
  change Enquired directory keeping _ next.1 next.2 at enquired
  generalize next.1 = result, next.2 = after at enquired
  cases enquired with
  | known known =>
    refine ⟨fun _ wrong => ?_, fun peer same => ?_⟩
    · cases wrong
    · cases same
      exact ⟨known, fun changed => absurd rfl changed⟩
  | refused failure calls =>
    refine ⟨fun _ _ => ⟨rfl, by simp⟩, fun _ wrong => ?_⟩
    cases wrong
  | @saved unknown peer calls files steps mishaps result saved =>
    cases result with
    | ok _ =>
      refine ⟨fun _ wrong => ?_, fun other same => ?_⟩
      · cases wrong
      · cases same
        exact ⟨by simp, fun _ => by simp⟩
    | error failure =>
      have changed : keeping.peers.insert enquiry.organization.slug peer ≠ keeping.peers := by
        intro same
        have inserted : (keeping.peers.insert enquiry.organization.slug peer).get?
            enquiry.organization.slug = some peer := by simp
        rw [same, unknown] at inserted
        cases inserted
      refine ⟨fun _ _ => ⟨rfl, by simp [changed]⟩, fun _ wrong => ?_⟩
      cases wrong

/--
Peers are asked for one after another, beginning with those that were loaded. The peer file
then keeps what the latest save wrote that went well. So memory and file agree if and only
if the latest save went well, and they agree all along if and only if every save did. An
enquiry that fails leaves the file as it was, but memory only if it did not come to a save;
one that succeeds after a save has its peer in the file.
-/
theorem agrees_unless_save_fails {files opened : FileSystem} {peers : Peers}
    (done : files.run (Peers.load directory) = (.ok peers, opened))
    (own : Peers.IsOwn opened directory) (surroundings : Surroundings)
    (enquiries : List Enquiry) :
    let keeping := (loaded peers opened).after surroundings directory enquiries
    keeping.files.run (Peers.load directory) = (.ok (stored peers keeping.saves), keeping.files) ∧
      (keeping.Agrees directory ↔ ∀ save ∈ keeping.saves.head?, save.2 = .ok ()) ∧
      ((∀ earlier, earlier <+: enquiries →
          ((loaded peers opened).after surroundings directory earlier).Agrees directory) ↔
        ∀ save ∈ keeping.saves, save.2 = .ok ()) ∧
      ∀ enquiry,
        let next := keeping.enquire surroundings directory enquiry
        (∀ failure, next.1 = .error failure →
            (next.2.files.run (Peers.load directory)).1 =
                (keeping.files.run (Peers.load directory)).1 ∧
              (next.2.peers = keeping.peers ↔ next.2.saves = keeping.saves)) ∧
          ∀ peer, next.1 = .ok peer →
            next.2.peers.get? enquiry.organization.slug = some peer ∧
              (next.2.saves ≠ keeping.saves → next.2.Agrees directory) := by
  have start := sound_loaded done own
  have sound := start.after surroundings enquiries
  exact ⟨sound.holds.run_load, sound.agrees_iff, start.always_agrees_iff rfl surroundings enquiries,
    sound.enquire surroundings⟩

/-- All goes well, but files never get another name. -/
def unnamed : Surroundings where
  answers := fun _ => Daemon.obliging
  mishaps := fun _ step => if step = 3 then some ⟨.notPermitted, 0⟩ else none

theorem disagrees_when_rename_fails :
    Peers.emptyState.run (Peers.load (.ofText "/state")) = (.ok ∅, Peers.emptyState) ∧
      Peers.IsOwn Peers.emptyState (.ofText "/state") ∧
      ¬ ((loaded ∅ Peers.emptyState).after unnamed (.ofText "/state")
        [⟨⟨"1", "acme", "Acme"⟩, "eu", "laptop", "eu"⟩]).Agrees (.ofText "/state") := by
  have done : Peers.emptyState.run (Peers.load (.ofText "/state")) = (.ok ∅, Peers.emptyState) := by rfl
  refine ⟨done, Peers.isOwn_emptyState, fun agrees => ?_⟩
  have saved := (agrees_unless_save_fails done Peers.isOwn_emptyState unnamed
    [⟨⟨"1", "acme", "Acme"⟩, "eu", "laptop", "eu"⟩]).2.1.1 agrees
  have failed : ((loaded ∅ Peers.emptyState).after unnamed (.ofText "/state")
      [⟨⟨"1", "acme", "Acme"⟩, "eu", "laptop", "eu"⟩]).saves.head?.map (·.2.isOk) = some false := by
    rfl
  obtain ⟨save, latest, isError⟩ := Option.map_eq_some_iff.1 failed
  rw [saved save latest] at isError
  cases isError

end Keeping

end TunnelBroker
